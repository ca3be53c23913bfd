import ResolverMesh.Proofs.DaemonWatch
import ResolverMesh.Proofs.RequestsAnywhere

set_option autoImplicit false
set_option relaxedAutoImplicit false

/-!
# Every daemon is supervised

Daemons are started when a pod is added, when one of several is deleted, when a failed attachment
is undone, and when the files of a sibling change; they are stopped when the last pod goes, and
when a sibling is restarted. In any order of these, and whatever fails in between, a daemon that
lives is named by the pid file of its network, which is there. So it is found again by the next
operation, and none outlives its network's directory.

## Main definitions

* `ResolverMesh.Turn`, `ResolverMesh.Mesh.takeTurns` — runs with checks in between.
* `ResolverMesh.Attachment.IsOneLine` — what an attachment says is on one line.
* `ResolverMesh.Settings.Daemonizes` — the program leaves a daemon behind whenever it succeeds.
* `ResolverMesh.Mesh.UnderWatch` — all daemons that were started are under watch.
* `ResolverMesh.Mesh.Supervised` — daemons that live and pid files belong together.

## Main results

* `ResolverMesh.Host.lasts_later` — what was there stays there while pods are attached.
* `ResolverMesh.Mesh.attends_of_provision` — a pod attached has a daemon that answers.
* `ResolverMesh.Mesh.UnderWatch.step` — every move keeps the daemons under watch.
* `ResolverMesh.supervision_invariant` — daemons in every state of a run.
-/

namespace ResolverMesh

open ResolverMesh.Action Disk

/-! ## What stays there -/

namespace Host

/-- From one host to a later one nothing is gone from the disk, and the same locks are held. -/
structure Later (h k : Host) : Prop where
  /-- Programs are found in the same places. -/
  setting : SameSetting h k
  /-- What was there is there, up to what a file holds. -/
  grows : h.disk.tree.Grows k.disk.tree
  /-- The same locks are held. -/
  held : k.held = h.held

section Later

variable {root : Path} {base : Location} {n f : Text} {o h k l : Host} {i : Instance}

/-- What is prepared for a root is no matter for the programs. -/
lemma Prepared.sameSetting (hp : Prepared h k) : SameSetting h k := by
  have hsame := hp.rest
  refine ⟨hp.workDir, ?_, fun n => ?_⟩ <;> rw [hsame]

namespace Later

/-- A host is no later than itself. -/
lemma refl (h : Host) : Later h h :=
  ⟨⟨rfl, rfl, fun _ => rfl⟩, .refl _, rfl⟩

/-- What is later than a later host is later. -/
lemma trans (h₁ : Later h k) (h₂ : Later k l) : Later h l :=
  ⟨h₁.setting.trans h₂.setting, h₁.grows.trans h₂.grows, h₂.held.trans h₁.held⟩

/-- The disk is not touched. -/
lemma of_calm (hc : Calm h k) (hd : k.disk = h.disk) (hh : k.held = h.held) : Later h k :=
  ⟨hc.setting, by rw [hd]; exact .refl _, hh⟩

/-- A host with one more quiet effect is later. -/
lemma record {e : Event} (he : e.isQuiet = true) : Later h (h.record e) :=
  .of_calm (.of_quiet he) rfl rfl

/-- So is a host on which a file was written. -/
lemma wrote {loc : Location} {s : Text} (hw : h.Wrote k loc s) : Later h k := by
  refine ⟨(Calm.wrote hw).setting, ?_, ?_⟩ <;> obtain ⟨id, x, next, halike, rfl⟩ := hw
  · exact .put halike
  · rfl

/-- So is a host with one more directory. -/
lemma opened {loc : Location} (hp : h.Opened k loc) : Later h k := by
  refine ⟨(Calm.opened hp).setting, ?_, ?_⟩ <;> obtain ⟨hfree, id, mode, next, rfl⟩ := hp
  · refine .put fun old hold => ?_
    rw [hfree] at hold
    cases hold
  · rfl

/-- A file that was there is there.

**Proof sketch.** The disk has only grown, so the path leads to the same place, and an entry keeps
its kind. -/
lemma isFile (hl : Later h k) {p : Path} (hp : h.disk.isFile p = true) :
    k.disk.isFile p = true := by
  unfold Disk.isFile leadsTo at hp ⊢
  rcases hf : h.disk.find p with e | ⟨loc, e⟩
  · simp [hf] at hp
  · obtain ⟨e', ha, hf'⟩ := find_of_grows h.disk k.disk hl.grows hl.setting.workDir hf
    rw [hf] at hp
    rw [hf']
    cases e with
    | file id x c =>
      obtain ⟨id', c', rfl⟩ := ha.of_file
      rfl
    | directory id mode => cases hp
    | link target => cases hp

end Later

namespace Watched

/-- A daemon left behind. -/
lemma later_leftBehind (hw : Watched root base o h) (hi : i.IsBelow root) {s : Text}
    {c : Disk.Change} (hc : h.disk.writeText (root.fileOf i.network pidName) s = .ok c) :
    Later h ((h.launching i.supervisor.command).leftBehind c) := by
  obtain ⟨-, -, -, hdir, id, x, halike, htree⟩ := hw.wrote_pidFile hi.name hc
  refine ⟨(SameSetting.launching h _).trans ⟨hdir, rfl, fun _ => rfl⟩, ?_, rfl⟩
  change h.disk.tree.Grows c.disk.tree
  rw [htree]
  exact .put halike

/-- A host on which a network's daemon was started is later, as its pid file is put in the place of
a file or of nothing. -/
lemma later_start (hw : Watched root base o h) (hi : i.IsBelow root) :
    Later h (i.supervisor.start h).2 := by
  have hlaunching : Later h (h.launching i.supervisor.command) := .of_calm (.launching _) rfl rfl
  rcases i.supervisor.start_cases h with
    ⟨fault, hr | hr⟩ | ⟨hr, -⟩ | ⟨pidFile, c, hr, hp, hc⟩ <;> rw [hr]
  · exact .of_calm (.of_launched _) rfl rfl
  · exact hlaunching
  · exact hlaunching.trans (.record rfl)
  · obtain rfl := hw.pidFile_eq hi hp
    exact (hw.later_leftBehind hi hc).trans (.record rfl)

/-- So is a host on which a daemon was stopped. -/
lemma later_stop (s : Supervisor) (h : Host) : Later h (s.stop h).2 := by
  by_cases hacc : ∃ p : Nat, PidFile.read h.disk s.pidFile = .pid p ∧ Signal.accepts h p = true
  · obtain ⟨p, hr, ha⟩ := hacc
    rw [Supervisor.stop_of_accepts hr ha]
    exact .of_calm (((Calm.record (by simp)).trans (.kill p)).trans (.of_quiet rfl)) rfl rfl
  · rcases s.stop_of_not_accepts hacc with hr | ⟨fault, hr⟩ | ⟨entry, hr⟩ <;> rw [hr]
    · exact .refl h
    · exact .refl h
    · exact .record rfl

/-- So is one on which a network's daemon has read its files again. -/
lemma later_hup (hw : Watched root base o h) (hi : i.IsBelow root) :
    Later h (i.supervisor.hup h).2 := by
  cases hs : i.supervisor.stateOn h with
  | notRunning =>
    rw [Supervisor.hup_of_notRunning hs]
    exact hw.later_start hi
  | running p =>
    rw [Supervisor.hup_of_running hs]
    exact .of_calm (.record (by simp)) rfl rfl

/-- So is one on which it was restarted.

**Proof sketch.** The daemon is stopped and started, and between the two its network is still
watched. -/
lemma later_restartIfRunning (hw : Watched root base o h) (hi : i.IsBelow root) :
    Later h (i.supervisor.restartIfRunning h).2 := by
  have hstop := later_stop i.supervisor h
  have hstopped := (hw.stop hi).1
  rcases i.supervisor.restartIfRunning_cases h with
    hr | ⟨fault, hr⟩ | ⟨k, hk, hr | ⟨entry, hr⟩⟩
  · rw [hr]
    exact .refl h
  · rw [hr] at hstop
    exact hstop
  · rw [hk] at hstop hstopped
    rw [hr]
    exact hstop.trans (hstopped.later_start hi)
  · rw [hk] at hstop hstopped
    rw [hr]
    exact (hstop.trans (.record rfl)).trans
      ((hstopped.of_calm_of_disk (.of_quiet rfl) rfl).later_start hi)

end Watched

/-- **What was there stays there** while pods are attached.

**Proof sketch.** Field by field, with that of the watch for the first half. -/
theorem lasts_later (root : Path) (base : Location) (o h : Host) :
    Lasts root base (fun k => Watched root base o k ∧ Later h k) :=
  have hl := lastsThroughout_watched root base o
  { inOrder := fun hk => hk.1.inOrder
    record := fun hk he => ⟨hl.record hk.1 he, hk.2.trans (.record he)⟩
    opened := fun hk hn hp => ⟨hl.opened hk.1 hn hp, hk.2.trans (.opened hp)⟩
    wrote := fun hk hnet hc hp hw => ⟨hl.wrote hk.1 hnet hc hp hw, hk.2.trans (.wrote hw)⟩
    configured := fun hk hi hnet hlines hw =>
      ⟨hl.configured hk.1 hi hnet hlines hw, hk.2.trans (.wrote hw)⟩
    hup := fun hi _ hk => ⟨hl.hup hi _ hk.1, hk.2.trans (hk.1.later_hup hi)⟩
    restartIfRunning := fun hi _ hk =>
      ⟨hl.restartIfRunning hi _ hk.1, hk.2.trans (hk.1.later_restartIfRunning hi)⟩ }

end Later

end Host

/-! ## Daemons that answer -/

/-- The program of the daemons is installed at a path on some disk with the same current
directory. -/
def Settings.MayLocate (s : Settings) (h : Host) (p : Path) : Prop :=
  ∃ d : Disk, d.workDir = h.disk.workDir ∧ h.searchPath.find? d s.binary = some p

/-- The program of the daemons leaves a daemon behind whenever it exits with success, wherever it
is installed. -/
def Settings.Daemonizes (s : Settings) (h : Host) : Prop :=
  ∀ p, s.MayLocate h p → ∀ t code,
    ((h.programs (Launch.programName [p.text])).outcomes t).ending = .exit code → code % 256 ≠ 0

section Answers

variable {root : Path} {base : Location} {n f t : Text} {o h k : Host} {i : Instance}
  {m : Mesh} {a : Attachment}

/-- In the same setting the program may be installed at the same paths. -/
lemma Settings.mayLocate_of_sameSetting (hs : h.SameSetting k) {s : Settings} {p : Path} :
    s.MayLocate k p ↔ s.MayLocate h p := by
  unfold MayLocate
  rw [hs.workDir, hs.searchPath]

/-- In the same setting the program leaves a daemon behind as before. -/
lemma Settings.Daemonizes.of_sameSetting {s : Settings} (hd : s.Daemonizes h)
    (hs : h.SameSetting k) : s.Daemonizes k := by
  intro p hp t code he
  rw [hs.outcomes] at he
  exact hd p ((mayLocate_of_sameSetting hs).mp hp) t code he

/-- **A daemon that has read its files runs**, if its program leaves a daemon behind whenever it
succeeds.

**Proof sketch.** A daemon that ran got a signal and still runs. If none ran, the program was run
and has succeeded, so it left a daemon behind; the network was vacant, so that daemon is the one
that the pid file names, and its pid is alive. -/
theorem Host.Watched.runs_of_hup (hw : Watched root base o h) (hi : i.IsBelow root)
    {s : Settings} (hd : s.Daemonizes h) (hbin : s.MayLocate h i.binary)
    (hr : i.supervisor.hup h = (.ok (), k)) (hb : k.nextPid ≤ PidFile.greatestPid + 1) :
    i.supervisor.stateOn k ≠ .notRunning := by
  cases hs : i.supervisor.stateOn h with
  | running p =>
    rw [Supervisor.hup_of_running hs] at hr
    cases hr
    intro hno
    have hsame : i.supervisor.stateOn (h.record (.signalled p Signal.reload)) =
        i.supervisor.stateOn h := rfl
    rw [hsame, hs] at hno
    cases hno
  | notRunning =>
    have hk := hw.start hi (hw.vacant_of_notRunning hi hs)
    rw [Supervisor.hup_of_notRunning hs] at hr
    rw [hr] at hk
    rcases i.supervisor.start_cases h with
      ⟨fault, hr' | hr'⟩ | ⟨-, code, hend, hcode⟩ | ⟨pidFile, c, hr', -, -⟩
    · rw [hr] at hr'
      cases hr'
    · rw [hr] at hr'
      cases hr'
    · exact absurd hcode (hd i.binary hbin _ code hend)
    · rw [hr] at hr'
      cases hr'
      -- the daemon that has been left behind is the one that the pid file names
      have hstarted : Started root i.network h.nextPid o
          (((h.launching i.supervisor.command).leftBehind c).record
            (.logged (.startedDaemon i.supervisor.configFile))) :=
        ((Calm.of_quiet rfl).started_iff (hw.journal.trans (h.prefix_leftBehind _ c))).mpr
          ((started_leftBehind_iff hw.journal).mpr (.inr ⟨rfl, hi.name, hi.isFor_command⟩))
      have hlive : Host.isAlive (((h.launching i.supervisor.command).leftBehind c).record
          (.logged (.startedDaemon i.supervisor.configFile))) h.nextPid = true :=
        isAlive_iff.mpr ⟨⟨h.nextPid, true⟩, List.mem_append_right _ (List.mem_singleton.mpr rfl),
          rfl, rfl⟩
      have hread := hk.read_pidFile hb hstarted hlive
      unfold Supervisor.stateOn
      rw [hi.pidFile, hread]
      dsimp only
      rw [if_pos (Signal.accepts_iff.mpr ⟨hw.fresh.1, hlive⟩)]
      simp

/-- What is there below a network is a file.

**Proof sketch.** By what a file's path may lead to in a root that is in order: a file, or nothing
at all. -/
lemma Disk.InOrder.isFile_of_isThere {d : Disk} (ho : d.InOrder root base)
    (hn : Settings.isNetworkName n = true) (hf : IsFileName f)
    (ht : d.isThere (root.fileOf n f) = true) : d.isFile (root.fileOf n f) = true := by
  unfold isThere at ht
  unfold isFile leadsTo
  rcases ho.find_file hn hf with
    ⟨-, -, ⟨-, hfind⟩ | ⟨id, x, t, -, hfind⟩⟩ | ⟨-, -, hfind⟩ | ⟨-, e, -, hfind⟩ <;>
    rw [hfind] at ht ⊢
  · cases ht
  · rfl
  · cases ht
  · cases ht

/-- A file that was written is there.

**Proof sketch.** The file holds the text now, so its network is there, and of what its path may
lead to only the file is left. -/
lemma Host.Wrote.isFile (hw : h.Wrote k (base ++ [Name.text n, .text f]) t)
    (ko : k.disk.InOrder root base) (hn : Settings.isNetworkName n = true) (hf : IsFileName f)
    (ha : Admits (root.fileOf n f) n) : k.disk.isFile (root.fileOf n f) = true := by
  have ht : k.disk.fileText base n f = some t := by
    rw [hw.fileText, if_pos ⟨rfl, rfl⟩]
  have hnet := ko.tidy.hasNetwork_of_fileText ht
  unfold Disk.isFile leadsTo
  rcases ko.find_file hn hf with
    ⟨-, -, ⟨hnone, -⟩ | ⟨id, x, t, -, hfind⟩⟩ | ⟨hno, -, -⟩ | ⟨hno, -⟩
  · rw [hnone] at ht
    cases ht
  · rw [hfind]
    rfl
  · exact absurd hnet hno
  · exact absurd ⟨ha, hnet⟩ hno

/-- A network that has been given its configuration has it.

**Proof sketch.** If the file of forwarders is missing it is written first, and the daemons stay
under watch. The configuration is there then, or is written, and either way it is a file. -/
lemma Instance.isFile_of_ensureConfigFile (hw : Host.Watched root base o h) (hi : i.IsBelow root)
    {interface : Text} (hr : i.ensureConfigFile interface h = (.ok (), k)) :
    k.disk.isFile i.configFile = true := by
  have hlasts := Host.lastsThroughout_watched root base o
  rw [ensureConfigFile_eq] at hr
  obtain ⟨_, l, hlocal, hconfig⟩ := of_bind_ok hr
  have hwl := Keeps.ensure (hlasts.keeps_writeLocal hi []) h hw
  rw [hlocal] at hwl
  obtain ⟨there, l', hthere, hrest⟩ := of_bind_ok hconfig
  cases hthere
  rw [hi.configFile] at hrest ⊢
  split at hrest
  · next ht =>
    cases hrest
    exact hwl.inOrder.isFile_of_isThere hi.name isFileName_configName ht
  · rcases hwl.inOrder.files_write hi.name isFileName_configName
        (Text.unlines (i.configLines interface)) with ⟨ha, hnet, -, hwrote⟩ | ⟨-, e, hwrite⟩
    · rw [hrest] at hwrote
      exact hwrote.isFile (hwrote.inOrder hwl.inOrder hnet) hi.name isFileName_configName ha
    · rw [hrest] at hwrite
      cases hwrite

/-- A pod that has been entered has its network's files.

**Proof sketch.** The configuration is there once it has been ensured, and the hosts file once the
pod was added. The requests that follow each of them make the host later, and files do not go on
later hosts. -/
lemma Mesh.isFile_of_enter (hw : Host.Watched m.settings.rootDir base o h)
    (hi : i.IsBelow m.settings.rootDir) (hl : ∀ l ∈ i.configLines a.interface, '\n' ∉ l)
    (hr : m.enter i a h = (.ok (), k)) :
    k.disk.isFile i.configFile = true ∧ k.disk.isFile i.hostsFile = true := by
  have hlasts := Host.lastsThroughout_watched m.settings.rootDir base o
  unfold enter at hr
  obtain ⟨_, h₁, hmake, hr⟩ := of_bind_ok hr
  have hw₁ := hlasts.keeps_makeDirectories hi.name Mesh.instanceMode h hw
  rw [← hi.dir, hmake] at hw₁
  obtain ⟨_, h₂, hensure, hr⟩ := of_bind_ok hr
  have hw₂ := hlasts.keeps_ensureConfigFile hi hl h₁ hw₁
  rw [hensure] at hw₂
  have hconfig := Instance.isFile_of_ensureConfigFile hw₁ hi hensure
  -- from here on nothing is gone
  obtain ⟨_, h₃, hcall, hr⟩ := of_bind_ok hr
  have hk₃ := (Host.lasts_later m.settings.rootDir base o h₂).keeps_call m.chain
    (.ensure a.interface) h₂ ⟨hw₂, .refl h₂⟩
  rw [hcall] at hk₃
  obtain ⟨_, h₄, happend, hr⟩ := of_bind_ok hr
  have hhosts : Host.Watched m.settings.rootDir base o h₄ ∧ h₃.Later h₄ ∧
      h₄.disk.isFile i.hostsFile = true := by
    unfold HostsFile.append at happend
    rw [hi.hostsFile] at happend ⊢
    rcases hk₃.1.inOrder.files_append hi.name isFileName_hostsName
        (HostsFile.entry a.podName a.aliases a.containerIps) with ⟨ha, hnet, -, hwrote⟩ | ⟨-, e, he⟩
    · rw [happend] at hwrote
      have hw₄ := hlasts.wrote hk₃.1 hnet (by decide) (by decide) hwrote
      exact ⟨hw₄, .wrote hwrote, hwrote.isFile hw₄.inOrder hi.name isFileName_hostsName ha⟩
    · rw [happend] at he
      cases he
  obtain ⟨hw₄, hl₄, hfile⟩ := hhosts
  have hk : h₄.Later k := by
    split at hr
    · cases hr
      exact .refl _
    · have hk := (Host.lasts_later m.settings.rootDir base o h₄).keeps_addPlain hi
        a.defaultServers h₄ ⟨hw₄, .refl h₄⟩
      rw [hr] at hk
      exact hk.2
  exact ⟨((hk₃.2.trans hl₄).trans hk).isFile hconfig, hk.isFile hfile⟩

/-- A pod has been attached, and the daemon of its network answers. -/
structure Host.Attends (root : Path) (base : Location) (i : Instance) (o h k : Host) : Prop where
  /-- The daemons are under watch. -/
  watched : Watched root base o k
  /-- Nothing is gone. -/
  later : Later h k
  /-- The network's daemon runs. -/
  runs : i.supervisor.stateOn k ≠ .notRunning
  /-- The network's configuration is there. -/
  config : k.disk.isFile i.configFile = true
  /-- The network's hosts file is there. -/
  hosts : k.disk.isFile i.hostsFile = true

/-- **A pod that has been attached** has a daemon that answers.

**Proof sketch.** The attachment has three parts, and after each of them the daemons are watched on
a later host. The files are those of `Mesh.isFile_of_enter`, and the daemon answers by
`Host.Watched.runs_of_hup`. -/
theorem Mesh.attends_of_provision (hw : Host.Watched m.settings.rootDir base o h)
    (hi : i.IsBelow m.settings.rootDir) (hl : ∀ l ∈ i.configLines a.interface, '\n' ∉ l)
    (hd : m.settings.Daemonizes h) (hbin : m.settings.MayLocate h i.binary)
    (hr : m.provision i a h = (.ok (), k)) (hb : k.nextPid ≤ PidFile.greatestPid + 1) :
    Host.Attends m.settings.rootDir base i o h k := by
  have hlasts := Host.lasts_later m.settings.rootDir base o
  rw [provision_eq] at hr
  obtain ⟨_, h₁, henter, hr⟩ := of_bind_ok hr
  have hk₁ := (hlasts h).keeps_enter hi hl h ⟨hw, .refl h⟩
  rw [henter] at hk₁
  obtain ⟨hw₁, hl₁⟩ := hk₁
  obtain ⟨hconfig, hhosts⟩ := isFile_of_enter hw hi hl henter
  obtain ⟨_, h₂, hannounce, hhup⟩ := of_bind_ok hr
  have hk₂ := (hlasts h₁).keeps_announce (a := a) hi h₁ ⟨hw₁, .refl h₁⟩
  rw [hannounce] at hk₂
  obtain ⟨hw₂, hl₂⟩ := hk₂
  have hk₃ := (hlasts h₂).hup hi h₂ ⟨hw₂, .refl h₂⟩
  rw [hhup] at hk₃
  obtain ⟨hw₃, hl₃⟩ := hk₃
  have hlater := hl₁.trans hl₂
  refine ⟨hw₃, hlater.trans hl₃, ?_, (hl₂.trans hl₃).isFile hconfig, (hl₂.trans hl₃).isFile hhosts⟩
  rw [← Settings.mayLocate_of_sameSetting hlater.setting] at hbin
  exact hw₂.runs_of_hup hi (hd.of_sameSetting hlater.setting) hbin hhup hb

end Answers

/-! ## Operations -/

/-- What an attachment says holds no line feed. -/
structure Attachment.IsOneLine (a : Attachment) : Prop where
  /-- The name of the network. -/
  network : '\n' ∉ a.network
  /-- The domain. -/
  domain : '\n' ∉ a.domain
  /-- The interface. -/
  interface : '\n' ∉ a.interface

/-- The configuration for an attachment has no broken line, if the root's path is on one line. -/
lemma Settings.not_mem_configLines {s : Settings} (hroot : '\n' ∉ s.rootDir.text) {a : Attachment}
    (ha : a.IsOneLine) (binary : Path) :
    ∀ l ∈ (s.instanceOf binary a).configLines a.interface, '\n' ∉ l :=
  Instance.not_mem_configLines (Path.not_mem_text_join hroot ha.network (by decide)) ha.domain
    ha.interface

/-- One turn: a move, or a pod is checked. -/
inductive Turn
  /-- A pod is added or deleted, or a daemon is killed from outside. -/
  | move (move : Move)
  /-- A pod's network is checked. -/
  | check (a : Attachment)
  deriving DecidableEq, Repr

namespace Mesh

variable {m : Mesh} {base : Location} {o h k : Host} {a : Attachment}

/-- The host after a turn. -/
def takeTurn (m : Mesh) (h : Host) : Turn → Host
  | .move move => m.step h move
  | .check a => (m.check a h).2

/-- The host after turns. -/
def takeTurns (m : Mesh) (h : Host) (turns : List Turn) : Host :=
  turns.foldl m.takeTurn h

/-- **A check** leaves the host as it is.

**Proof sketch.** A check asks, takes the lock of a root that is there, asks again, and gives the
lock back. The held locks are then the same as before. -/
theorem check_eq (m : Mesh) (a : Attachment) (h : Host) : (m.check a h).2 = h := by
  have hhold : ∀ i : Instance, (LockGuard.hold (LockGuard.acquireExisting m.settings.rootDir
      m.settings.lockTimeout) (Action.ask (verify i)) h).2 = h := by
    intro i
    unfold LockGuard.hold LockGuard.acquireExisting
    cases h.disk.find m.settings.rootDir with
    | error e => rfl
    | ok found =>
      dsimp only
      split
      · next heq =>
        split at heq
        · cases heq
          rfl
        · cases heq
      · next g k heq =>
        split at heq
        · cases heq
        · cases heq
          simp [LockGuard.release]
  unfold check
  rw [run_bind, run_lift]
  cases m.resolve a h with
  | error fault => rfl
  | ok i =>
    dsimp only
    rw [run_bind, run_lift]
    unfold Files.isDirectory
    dsimp only
    split
    · exact hhold i
    · rfl

/-- An action that has succeeded under the lock on the root.

**Proof sketch.** The root was made and found, and its lock was free; otherwise the action would
have failed before it was begun. -/
lemma of_locked_ok {α : Type} {body : Action α} {x : α} (hr : m.locked body h = (.ok x, k)) :
    ∃ h₁ found k', Files.makeDirectories LockGuard.rootMode m.settings.rootDir h = (.ok (), h₁) ∧
      h₁.disk.find m.settings.rootDir = .ok found ∧
      h₁.held.contains (found.entry.id?.getD 0) = false ∧
      body { h₁ with held := found.entry.id?.getD 0 :: h₁.held } = (.ok x, k') ∧
      k = { k' with held := k'.held.erase (found.entry.id?.getD 0) } := by
  unfold locked LockGuard.hold LockGuard.acquire at hr
  rw [run_bind] at hr
  rcases hopen : Files.makeDirectories LockGuard.rootMode m.settings.rootDir h with ⟨fault | u, h₁⟩
  · rw [hopen] at hr
    cases hr
  · rw [hopen] at hr
    unfold LockGuard.acquireExisting at hr
    dsimp only at hr
    cases hfind : h₁.disk.find m.settings.rootDir with
    | error e =>
      rw [hfind] at hr
      cases hr
    | ok found =>
      rw [hfind] at hr
      dsimp only at hr
      cases hheld : h₁.held.contains (found.entry.id?.getD 0) with
      | true =>
        rw [if_pos hheld] at hr
        cases hr
      | false =>
        rw [if_neg (by rw [hheld]; simp)] at hr
        obtain ⟨hres, hhost⟩ := Prod.ext_iff.mp hr
        refine ⟨h₁, found, (body { h₁ with held := found.entry.id?.getD 0 :: h₁.held }).2, rfl,
          hfind, hheld, Prod.ext hres rfl, hhost.symm⟩

/-- An attachment that was not undone. -/
lemma provision_of_provisionOrUndo {i : Instance} {u : Unit}
    (hr : m.provisionOrUndo i a h = (.ok u, k)) : m.provision i a h = (.ok (), k) := by
  rcases hp : m.provision i a h with ⟨fault | v, l⟩
  · obtain ⟨k', hrun, -⟩ := provisionOrUndo_of_error hp
    rw [hrun] at hr
    cases hr
  · unfold provisionOrUndo at hr
    rw [run_bind, run_attempt, hp] at hr
    cases hr
    rfl

/-- A network whose daemon runs and whose files are there. -/
lemma verify_eq_ok {i : Instance} (hrun : i.supervisor.stateOn h ≠ .notRunning)
    (hhosts : h.disk.isFile i.hostsFile = true) (hconfig : h.disk.isFile i.configFile = true) :
    verify i h = .ok () := by
  unfold verify verifyFiles Supervisor.isRunning
  rw [Query.run_bind]
  simp [verifyFiles, Files.isFile, Query.run_bind, hrun, hhosts, hconfig]

/-- A check under a lock that is free.

**Proof sketch.** The steps of the check are followed one by one, with what each of them comes to.
-/
lemma check_eq_ok {i : Instance} {loc : Location} {id mode : Nat} (hres : m.resolve a h = .ok i)
    (hfind : h.disk.find m.settings.rootDir = .ok ⟨loc, .directory id mode⟩)
    (hfree : h.held.contains id = false)
    (hv : verify i { h with held := id :: h.held } = .ok ()) : (m.check a h).1 = .ok () := by
  have hdir : h.disk.isDirectory m.settings.rootDir = true := by
    simp [Disk.isDirectory, leadsTo, hfind, Entry.isDirectory]
  have hlock : LockGuard.acquireExisting m.settings.rootDir m.settings.lockTimeout h =
      (.ok ⟨m.settings.rootDir, id⟩, { h with held := id :: h.held }) := by
    unfold LockGuard.acquireExisting
    rw [hfind]
    exact if_neg (by simp only [Entry.id?, Option.getD_some, hfree]; simp)
  unfold check
  rw [run_bind, run_lift, hres]
  dsimp only
  rw [run_bind, run_lift]
  unfold Files.isDirectory
  dsimp only
  rw [if_pos hdir]
  unfold LockGuard.hold
  rw [hlock]
  exact hv

/-! ## Runs -/

/-- All daemons that were started since a host `o` are under watch, or none was started and the
root is empty yet. -/
def UnderWatch (m : Mesh) (base : Location) (o k : Host) : Prop :=
  Host.Watched m.settings.rootDir base o k ∨ m.Stores base .empty k ∧ o.Calm k

end Mesh

namespace Host

/-- Pids that were given are not given again. -/
def GivesFreshPids (h : Host) : Prop :=
  0 < h.nextPid ∧ ∀ p ∈ h.processes, p.pid < h.nextPid

/-- A process that lives has a pid that was given. -/
lemma GivesFreshPids.lt_of_isAlive {h : Host} (hh : h.GivesFreshPids) {pid : Nat}
    (hl : h.isAlive pid = true) : pid < h.nextPid := by
  obtain ⟨p, hp, -, rfl⟩ := isAlive_iff.mp hl
  exact hh.2 p hp

/-- Pids go on being given only once.

**Proof sketch.** Only a new process has a pid of its own, and that is the next one, which then
grows. -/
lemma stable_givesFreshPids : Stable GivesFreshPids where
  record hh _ := hh
  disk _ hh := hh
  programs _ hh := hh
  addProcess {h} hh := by
    refine ⟨Nat.succ_pos _, fun p hp => ?_⟩
    rcases List.mem_append.mp hp with hp | hp
    · exact (hh.2 p hp).trans (Nat.lt_succ_self _)
    · rw [List.mem_singleton.mp hp]
      exact Nat.lt_succ_self _
  kill pid hh := by
    refine ⟨hh.1, fun p hp => ?_⟩
    obtain ⟨q, hq, rfl⟩ := List.mem_map.mp hp
    have hgiven := hh.2 q hq
    split <;> exact hgiven

/-- **In a run** pids are given only once, if they were until then. -/
theorem GivesFreshPids.play {m : Mesh} {h : Host} (hh : h.GivesFreshPids) (moves : List Move) :
    (m.play h moves).GivesFreshPids :=
  m.play_keeps stable_givesFreshPids (fun _ _ hh => hh) (fun _ _ hh => hh) hh moves

variable {root : Path} {base : Location} {o h k : Host}

/-- Where no daemon was started and no network is there, all daemons are under watch.

**Proof sketch.** Without a network there is no file of one, and without a start in the journal no
daemon. So all that the watch asks of files and daemons is about nothing. -/
lemma Watched.of_empty (hpids : o.GivesFreshPids) (hh : h.Holds root base .empty)
    (hc : Calm o h) : Watched root base o h := by
  have hnone : ∀ n f, h.disk.fileText base n f = none := by
    intro n f
    refine hh.inOrder.tidy.fileText_eq_none (fun hnet => ?_) f
    rw [← isNetwork_shelf_iff, hh.shelf_eq] at hnet
    cases hnet
  have hstart : ∀ pid, .daemonStarted pid ∉ o.since h := by
    intro pid hmem
    rw [hc.mem_since_iff (List.prefix_refl _)] at hmem
    simp [since] at hmem
  obtain ⟨es, hes, -⟩ := id hc.journal
  refine ⟨⟨es, hes.symm⟩, hc.setting, hh.inOrder, fun n t ht => ?_, fun n t ht => ?_,
    fun _ n pid hs => absurd hs.mem (hstart pid), fun pid hmem => absurd hmem (hstart pid),
    fun n p pid hs => absurd hs.mem (hstart pid), ?_⟩
  · rw [hnone] at ht
    cases ht
  · rw [hnone] at ht
    cases ht
  · rw [hc.nextPid]
    refine ⟨hpids.1, fun p hp => ?_⟩
    obtain ⟨q, hq, hqp, -⟩ := hc.processes p hp
    exact hqp ▸ hpids.2 q hq

/-- The locks have nothing to do with the daemons. -/
lemma Calm.of_held (h : Host) (ids : List Nat) : Calm h { h with held := ids } :=
  .of_journal (List.append_nil _).symm (by simp) rfl rfl ⟨rfl, rfl, fun _ => rfl⟩

/-- Preparing a root is a calm stretch. -/
lemma Calm.of_prepared (hp : Prepared h k) : Calm h k := by
  obtain ⟨es, hes, hq⟩ := hp.journal
  have hsame := hp.rest
  refine .of_journal hes (fun pid hmem => ?_) ?_ ?_ hp.sameSetting
  · cases hq _ hmem
  · rw [hsame]
  · rw [hsame]

end Host

namespace Mesh.UnderWatch

variable {m : Mesh} {base : Location} {o h k : Host} {a : Attachment}

/-- An operation starts with the daemons under watch. -/
lemma opens (hpids : o.GivesFreshPids) (hu : m.UnderWatch base o h) : ∃ h₁,
    Files.makeDirectories LockGuard.rootMode m.settings.rootDir h = (.ok (), h₁) ∧
      h.Prepared h₁ ∧ Host.Watched m.settings.rootDir base o h₁ := by
  have hprep := Files.prepared_makeDirectories LockGuard.rootMode m.settings.rootDir h
  rcases hu with hw | ⟨hs, hc⟩
  · obtain ⟨id, mode, hf⟩ := hw.inOrder.rooted.find
    exact ⟨h, Files.makeDirectories_of_find hf _, .refl h, hw⟩
  · obtain ⟨h₁, hopen, hh₁, -⟩ := hs.opens
    rw [hopen] at hprep
    exact ⟨h₁, hopen, hprep, .of_empty hpids hh₁ (hc.trans (.of_prepared hprep))⟩

/-- An action under the lock that keeps the daemons under watch. -/
lemma locked {α : Type} {body : Action α} (hpids : o.GivesFreshPids)
    (hu : m.UnderWatch base o h)
    (hbody : Keeps (Host.Watched m.settings.rootDir base o) body) :
    m.UnderWatch base o (m.locked body h).2 := by
  obtain ⟨h₁, hopen, -, hw⟩ := hu.opens hpids
  have hheld : ∀ {l : Host} (ids : List Nat), Host.Watched m.settings.rootDir base o l →
      Host.Watched m.settings.rootDir base o { l with held := ids } :=
    fun ids hl => hl.of_calm_of_disk (.of_held _ ids) rfl
  rcases m.locked_eq body hopen with ⟨fault, hrun, -⟩ | ⟨ids, ids', hrun⟩ <;> rw [hrun]
  · exact .inl hw
  · exact .inl (hheld ids' (hbody _ (hheld ids hw)))

/-- **Any move** keeps the daemons under watch, however it ends.

**Proof sketch.** An attachment and a detachment run under the lock, and keep the watch throughout,
or stop before it. A killed process is a calm stretch. -/
theorem step (hpids : o.GivesFreshPids) (hroot : '\n' ∉ m.settings.rootDir.text)
    (hu : m.UnderWatch base o h) (move : Move) (ha : ∀ a, move = .add a → a.IsOneLine) :
    m.UnderWatch base o (m.step h move) := by
  have hlasts := Host.lastsThroughout_watched m.settings.rootDir base o
  cases move with
  | add a =>
    rw [step_add]
    unfold add
    rw [run_bind, run_lift]
    rcases m.resolve_eq a h with ⟨binary, hi, hb, -⟩ | ⟨fault, hf, -⟩
    · have hlocked := hu.locked hpids
        (hlasts.keeps_provisionOrUndo hb (Settings.not_mem_configLines hroot (ha a rfl) binary))
      rw [hi]
      dsimp only
      rw [run_bind]
      rcases hr : m.locked (m.provisionOrUndo (m.settings.instanceOf binary a) a) h with
        ⟨fault | u, k⟩ <;> rw [hr] at hlocked <;> exact hlocked
    · rw [hf]
      exact hu
  | del a =>
    rw [step_del]
    unfold del
    rw [run_bind, run_lift]
    rcases m.resolve_eq a h with ⟨binary, hi, hb, -⟩ | ⟨fault, hf, -⟩
    · rw [hi]
      exact hu.locked hpids (hlasts.keeps_cleanUp hb)
    · rw [hf]
      exact hu
  | kill pid =>
    have hcalm : h.Calm (m.step h (.kill pid)) := by
      rw [m.step_kill]
      exact .send _ _
    rcases hu with hw | ⟨hs, hc⟩
    · exact .inl (hw.of_calm_of_disk hcalm (m.disk_step_kill h pid))
    · exact .inr ⟨hs.kill pid, hc.trans hcalm⟩

/-- **A run** keeps the daemons under watch.

**Proof sketch.** Induction over the turns. A check changes nothing. -/
theorem takeTurns (hpids : o.GivesFreshPids) (hroot : '\n' ∉ m.settings.rootDir.text)
    (hu : m.UnderWatch base o h) {turns : List Turn}
    (ha : ∀ a, .move (.add a) ∈ turns → a.IsOneLine) :
    m.UnderWatch base o (m.takeTurns h turns) := by
  induction turns generalizing h with
  | nil => exact hu
  | cons turn turns ih =>
    refine ih ?_ fun a hmem => ha a (by simp [hmem])
    cases turn with
    | move move => exact hu.step hpids hroot move fun a hmove => ha a (by simp [hmove])
    | check a =>
      have hsame : m.takeTurn h (.check a) = h := m.check_eq a h
      rw [hsame]
      exact hu

end Mesh.UnderWatch

/-! ## Supervision -/

/-- What holds of the daemons that were started since a host `o`. -/
structure Mesh.Supervised (m : Mesh) (base : Location) (o k : Host) : Prop where
  /-- A daemon that lives is named by the pid file of one network that is there, and of no
  other. -/
  named : ∀ pid : Nat, .daemonStarted pid ∈ o.since k → k.isAlive pid = true →
    ∃! n, k.disk.HasNetwork base n ∧
      PidFile.read k.disk (m.settings.rootDir.fileOf n pidName) = .pid pid
  /-- That network is the one that the daemon was started for. -/
  own : ∀ n (pid : Nat), Host.Started m.settings.rootDir n pid o k → k.isAlive pid = true →
    k.disk.HasNetwork base n ∧
      PidFile.read k.disk (m.settings.rootDir.fileOf n pidName) = .pid pid
  /-- A network has at most one daemon that lives. -/
  atMostOne : ∀ n (p q : Nat), Host.Started m.settings.rootDir n p o k →
    Host.Started m.settings.rootDir n q o k → k.isAlive p = true → k.isAlive q = true → p = q

namespace Sample

/-- Pods of two networks are added, and the daemon of the first is killed in between. -/
def restartedTurns : List Turn :=
  [.move (.add (pod "a" "x" "p" (octets 10 1 0 1))), .check (pod "a" "x" "p" (octets 10 1 0 1)),
    .move (.kill 100), .move (.add (pod "b" "y" "q" (octets 10 2 0 1)))]

/-- The host after these turns. -/
def restarted : Host := mesh.takeTurns (host [daemon]) restartedTurns

/-- The sample's daemon leaves a daemon behind at each of its runs. -/
lemma daemonizes : mesh.settings.Daemonizes (host [daemon]) := by
  have hnext : ∀ t, ((Program.ofList [daemon]).outcomes t).ending = .daemonizes ⟨[], []⟩ := by
    rintro (_ | t) <;> rfl
  intro p _ t code hend
  have hdaemon : ((Program.ofList [daemon]).outcomes t).ending = .exit code := hend
  rw [hnext] at hdaemon
  cases hdaemon

end Sample

section Supervision

variable {m : Mesh} {base : Location} {o h k : Host} {a : Attachment}

/-- A pid file that names a process was written by a daemon of its network.

**Proof sketch.** The file holds a text, since its pid was read from it. Under watch, the text was
written by a daemon of the network, and reads as that daemon's pid. -/
lemma Host.Watched.started_of_read {root : Path} (hw : Host.Watched root base o k)
    (hb : k.nextPid ≤ PidFile.greatestPid + 1) {n : Text} (hn : k.disk.HasNetwork base n)
    {pid : Nat}
    (hr : PidFile.read k.disk (root.fileOf n pidName) = .pid pid) :
    Host.Started root n pid o k := by
  unfold PidFile.read at hr
  rcases hw.inOrder.readText_file (hw.inOrder.tidy.isNetworkName hn) isFileName_pidName with
    ⟨-, hread⟩ | ⟨-, e, he, hread⟩ <;> rw [hread] at hr
  · cases ht : k.disk.fileText base n pidName with
    | none => simp [ht] at hr
    | some t =>
      obtain ⟨-, p, hs, rfl⟩ := hw.pidFile n t ht
      obtain ⟨hpos, hlt, -⟩ := hw.started p hs.mem
      rw [ht] at hr
      dsimp only [Option.elim] at hr
      rw [PidFile.ofText_pidLine hpos (by omega)] at hr
      cases hr
      exact hs
  · dsimp only at hr
    rw [if_neg he] at hr
    cases hr

/-- **Daemons under watch** are named by pid files one to one.

**Proof sketch.** A living daemon is named by the pid file of its network, by the watch; another
network's pid file was written by a daemon of that network, so it names another process. Before
there is a root, no daemon has been started. -/
theorem Mesh.UnderWatch.supervised (hu : m.UnderWatch base o k)
    (hb : k.nextPid ≤ PidFile.greatestPid + 1) : m.Supervised base o k := by
  rcases hu with hw | ⟨-, hc⟩
  · have hown : ∀ n (pid : Nat), Host.Started m.settings.rootDir n pid o k → k.isAlive pid = true →
        k.disk.HasNetwork base n ∧
          PidFile.read k.disk (m.settings.rootDir.fileOf n pidName) = .pid pid :=
      fun n pid hs hl => ⟨hw.inOrder.tidy.hasNetwork_of_fileText (hw.named hb n pid hs hl),
        hw.read_pidFile hb hs hl⟩
    refine ⟨fun pid hmem hl => ?_, hown, fun n p q hp hq hlp hlq => ?_⟩
    · obtain ⟨-, -, n, hs⟩ := hw.started pid hmem
      refine ⟨n, hown n pid hs hl, fun n' ⟨hn', hr'⟩ => ?_⟩
      exact hw.unique n' n pid (hw.started_of_read hb hn' hr') hs
    · have hread := (hown n p hp hlp).2
      rw [(hown n q hq hlq).2] at hread
      cases hread
      rfl
  · have hnone : ∀ pid, .daemonStarted pid ∉ o.since k := by
      intro pid hmem
      rw [hc.mem_since_iff (List.prefix_refl _)] at hmem
      simp [Host.since] at hmem
    exact ⟨fun pid hmem => absurd hmem (hnone pid), fun n pid hs => absurd hs.mem (hnone pid),
      fun n p q hp => absurd hp.mem (hnone p)⟩

/-- **A check after an attachment** that has succeeded succeeds, too.

**Proof sketch.** The attachment ran with the lock held, and has left the network with its files
and a daemon that answers. A check finds the root at the same place with the lock free, as the
attachment has given it back, and the same program in the search path. It then sees the files and
the daemon. -/
theorem Mesh.UnderWatch.check_ok (hu : m.UnderWatch base o h) (hpids : o.GivesFreshPids)
    (hroot : '\n' ∉ m.settings.rootDir.text) (ha : a.IsOneLine) (hd : m.settings.Daemonizes o)
    {servers : List Text} (hok : m.add a h = (.ok servers, k))
    (hb : k.nextPid ≤ PidFile.greatestPid + 1) : (m.check a k).1 = .ok () := by
  obtain ⟨h₁, hopen, hprep, hw₁⟩ := hu.opens hpids
  unfold add at hok
  obtain ⟨i, l, hres, hok⟩ := of_bind_ok hok
  rcases m.resolve_eq a h with ⟨binary, hi, hbelow, hlocate⟩ | ⟨fault, hf, -⟩
  swap
  · rw [run_lift, hf] at hres
    cases hres
  rw [run_lift, hi] at hres
  cases hres
  obtain ⟨u, l, hlocked, hret⟩ := of_bind_ok hok
  cases hret
  obtain ⟨h₁', found, k', hopen', hfound, hheld, hbody, rfl⟩ := of_locked_ok hlocked
  rw [hopen] at hopen'
  cases hopen'
  have hset₁ := hw₁.setting
  -- the attachment ran with the lock held, and the daemon that it left answers
  have hw : Host.Watched m.settings.rootDir base o
      { h₁ with held := found.entry.id?.getD 0 :: h₁.held } :=
    hw₁.of_calm_of_disk (.of_held _ _) rfl
  have hbin : m.settings.MayLocate
      { h₁ with held := found.entry.id?.getD 0 :: h₁.held } binary :=
    (Settings.mayLocate_of_sameSetting
      (hprep.sameSetting.trans (Host.Calm.of_held _ _).setting)).mpr ⟨h.disk, rfl, hlocate⟩
  have hatt := attends_of_provision hw hbelow (Settings.not_mem_configLines hroot ha binary)
    (hd.of_sameSetting hw.setting) hbin (provision_of_provisionOrUndo hbody) hb
  -- the root is found again, and its lock is free
  obtain ⟨id, mode, hfind₁⟩ := hw₁.inOrder.rooted.find
  rw [hfound] at hfind₁
  cases hfind₁
  obtain ⟨e, halike, hfind⟩ := find_of_grows h₁.disk k'.disk hatt.later.grows
    hatt.later.setting.workDir hfound
  rw [halike.of_directory] at hfind
  have hheld' : k'.held.erase id = h₁.held := by
    rw [hatt.later.held]
    exact List.erase_cons_head id h₁.held
  -- so is the daemon's program
  have hgrows : h.disk.tree.Grows k'.disk.tree := hprep.grows.trans hatt.later.grows
  have hset : h.SameSetting k' :=
    (hprep.sameSetting.trans (Host.Calm.of_held _ _).setting).trans hatt.later.setting
  obtain ⟨binary', hlocate'⟩ := Option.isSome_iff_exists.mp (Settings.locate?_of_grows hgrows
    hset.workDir hset.searchPath (Option.isSome_iff_exists.mpr ⟨binary, hlocate⟩))
  refine check_eq_ok (i := m.settings.instanceOf binary' a) ?_ hfind ?_ ?_
  · have hname : Settings.isNetworkName a.network = true := hbelow.name
    have hsame : ∀ ids, Settings.locate? { k' with held := ids } m.settings.binary =
        some binary' := fun _ => hlocate'
    unfold resolve Settings.resolve
    rw [if_pos hname, hsame]
    rfl
  · change (k'.held.erase id).contains id = false
    rw [hheld']
    exact hheld
  · exact verify_eq_ok hatt.runs hatt.hosts hatt.config

/-- **Supervision.** In every state of a run from an empty root, of pods added, deleted and checked
with any outcome and of daemons killed from outside, each daemon that lives is named by the pid
file of exactly one network that is there, and each network has at most one. If the daemon's
program leaves a daemon behind whenever it succeeds, a check of a pod that has just been added
succeeds, too.

**Proof sketch.** All daemons are under watch between any two requests of an operation. A network's
daemon is started only where it is found not to run or has been stopped, so no other one of the
network lives; and its directory is removed only after it could be stopped. -/
theorem supervision_invariant (h₀ : m.StartsEmpty base o) (hpids : o.GivesFreshPids)
    (hroot : '\n' ∉ m.settings.rootDir.text) {turns : List Turn}
    (hlines : ∀ a, .move (.add a) ∈ turns → a.IsOneLine) (hk : m.takeTurns o turns = k) :
    (k.nextPid ≤ PidFile.greatestPid + 1 → m.Supervised base o k) ∧
      (m.settings.Daemonizes o → ∀ a l servers, a.IsOneLine → m.add a k = (.ok servers, l) →
        l.nextPid ≤ PidFile.greatestPid + 1 → (m.check a l).1 = .ok ()) := by
  have hu : m.UnderWatch base o k := by
    rw [← hk]
    exact Mesh.UnderWatch.takeTurns hpids hroot (.inr ⟨.inr ⟨rfl, h₀⟩, .refl o⟩) hlines
  exact ⟨hu.supervised, fun hd a l servers ha hok hb => hu.check_ok hpids hroot ha hd hok hb⟩

/-- One daemon was killed and the other one lives. The network of the first is checked with success
after its next pod is added, which starts a daemon anew.

**Proof sketch.** What is read off the concrete run is computed at once. The theorem is then
applied to the run with its conditions, which are checked on the list of its moves. -/
theorem supervision_invariant_of_restarted :
    Sample.mesh.Supervised Sample.base (Sample.host [Sample.daemon]) Sample.restarted ∧
      Sample.restarted.isAlive 100 = false ∧ Sample.restarted.isAlive 101 = true ∧
      (Sample.mesh.check (Sample.pod "a" "x" "r" #v[10, 1, 0, 1])
        (Sample.mesh.add (Sample.pod "a" "x" "r" #v[10, 1, 0, 1]) Sample.restarted).2).1 =
          .ok () := by
  -- all that is read off the run, so that it is made once
  have hread : Sample.restarted.nextPid ≤ PidFile.greatestPid + 1 ∧
      Sample.restarted.isAlive 100 = false ∧ Sample.restarted.isAlive 101 = true ∧
      (Sample.mesh.add (Sample.pod "a" "x" "r" #v[10, 1, 0, 1]) Sample.restarted).1 =
        .ok ["10.1.0.1".toList] ∧
      (Sample.mesh.add (Sample.pod "a" "x" "r" #v[10, 1, 0, 1]) Sample.restarted).2.nextPid ≤
        PidFile.greatestPid + 1 := by decide +kernel
  obtain ⟨hb, hdead, hlive, hok, hb'⟩ := hread
  have hlines : ∀ a, .move (.add a) ∈ Sample.restartedTurns → a.IsOneLine := by
    intro a ha
    simp only [Sample.restartedTurns, List.mem_cons, Turn.move.injEq, Move.add.injEq, reduceCtorEq,
      List.not_mem_nil, or_false, false_or] at ha
    rcases ha with rfl | rfl <;> exact ⟨by decide, by decide, by decide⟩
  have hplay : Sample.mesh.takeTurns (Sample.host [Sample.daemon]) Sample.restartedTurns =
      Sample.restarted := rfl
  have hpids : (Sample.host [Sample.daemon]).GivesFreshPids :=
    ⟨by decide, fun p hp => by cases hp⟩
  generalize Sample.restarted = k at *
  obtain ⟨hsupervised, hcheck⟩ :=
    supervision_invariant (Sample.startsEmpty _) hpids (by decide) hlines hplay
  exact ⟨hsupervised hb, hdead, hlive, hcheck Sample.daemonizes _ _ _
    ⟨by decide, by decide, by decide⟩ (Prod.ext hok rfl) hb'⟩

end Supervision

end ResolverMesh
