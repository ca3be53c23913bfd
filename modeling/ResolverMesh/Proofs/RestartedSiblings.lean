import ResolverMesh.Proofs.SiblingRestarts
import ResolverMesh.Proofs.SiblingsBriefed

set_option autoImplicit false
set_option relaxedAutoImplicit false

/-!
# Siblings restarted one after the other

A sibling that is given new forwarders has its daemon killed and started again, if it runs. Here is
which of the processes that there were are killed when a list of siblings is gone through. A sibling
is judged when its turn comes. By then others have been restarted, but none of that shows in its own
pid file, nor has it ended the process that this file names, as long as no live process is named by
two pid files.

## Main definitions

* `ResolverMesh.Host.Renewed` — the daemon of a network was killed and started again.
* `ResolverMesh.Host.Restarted` — the daemons of some networks were restarted where they ran.
* `ResolverMesh.Host.OwnsPids` — no live process is named by two pid files.
* `ResolverMesh.Shelf.Lacks` — the siblings that lack one of some lines.

## Main results

* `ResolverMesh.Supervisor.isAlive_restartIfRunning_iff`,
  `ResolverMesh.Supervisor.signalled_restartIfRunning_iff`,
  `ResolverMesh.Supervisor.renewed_restartIfRunning` — one daemon restarted.
* `ResolverMesh.Host.Restarted.applied` — one sibling told and its daemon restarted.
* `ResolverMesh.Propagation.restarted_applyAll`, `ResolverMesh.Propagation.restarted_publish` —
  siblings told in turn, and by an announcement.
-/

namespace ResolverMesh

open ResolverMesh.Action Disk

/-! ## One daemon restarted -/

namespace Host

/-- A daemon left behind is not one of the processes that there were.

**Proof sketch.** The new process has the next free pid, which is greater than that of any process
that there was. -/
lemma isAlive_leftBehind {h : Host} {pid : Nat} (hpid : pid < h.nextPid) (c : Disk.Change) :
    (h.leftBehind c).isAlive pid = h.isAlive pid := by
  rw [Bool.eq_iff_iff, isAlive_iff, isAlive_iff]
  constructor
  · rintro ⟨p, hp, hlive, rfl⟩
    rcases List.mem_append.mp hp with hp | hp
    · exact ⟨p, hp, hlive, rfl⟩
    · rw [List.mem_singleton.mp hp] at hpid
      exact absurd hpid (lt_irrefl _)
  · rintro ⟨p, hp, hlive, hpp⟩
    exact ⟨p, List.mem_append_left _ hp, hlive, hpp⟩

end Host

namespace Supervisor

variable {s : Supervisor} {h : Host} {pid : Nat}

/-- A daemon started does not concern the processes that there were. -/
lemma isAlive_start (hpid : pid < h.nextPid) : (s.start h).2.isAlive pid = h.isAlive pid := by
  rcases s.start_cases h with ⟨fault, hr | hr⟩ | ⟨hr, -⟩ | ⟨pidFile, c, hr, -, -⟩ <;> rw [hr]
  · rfl
  · rfl
  · rfl
  · exact Host.isAlive_leftBehind (h := h.launching s.command) hpid c

/-- **A daemon restarted**: the process that it ran as is killed, and no other of those that there
were.

**Proof sketch.** A start kills nobody, and a process that it leaves behind has a fresh pid. -/
theorem isAlive_restartIfRunning_iff (hpid : pid < h.nextPid) :
    (s.restartIfRunning h).2.isAlive pid = true ↔
      h.isAlive pid = true ∧ s.stateOn h ≠ .running pid := by
  cases hs : s.stateOn h with
  | notRunning =>
    rw [restartIfRunning_of_notRunning hs]
    simp
  | running q =>
    have hnext : pid < (h.stopped q).nextPid := hpid
    rw [restartIfRunning_of_running hs, s.isAlive_start hnext, h.isAlive_stopped_iff, Ne, Ne,
      ProcessState.running.injEq, @eq_comm _ pid]

/-- **It is sent the signal that kills**, and no other process is signalled.

**Proof sketch.** If it does not run, nothing happens. If it runs, the events are the signal, its
entry in the log and those of a start, which signals nobody. -/
theorem signalled_restartIfRunning_iff {signal : Int} :
    .signalled pid signal ∈ h.since (s.restartIfRunning h).2 ↔
      signal = Signal.terminate ∧ s.stateOn h = .running pid := by
  cases hs : s.stateOn h with
  | notRunning =>
    rw [restartIfRunning_of_notRunning hs]
    simp [Host.since]
  | running q =>
    have hnone : .signalled pid signal ∉ (h.stopped q).since (s.start (h.stopped q)).2 :=
      fun hmem => (s.tended_start (fun _ => False) _).signalled pid signal hmem
    rw [restartIfRunning_of_running hs, Host.since_append (h.prefix_stopped q) (s.records_start _),
      List.mem_append, Host.since_of_journal (h.journal_stopped q)]
    simp [hnone, and_comm, eq_comm]

end Supervisor

namespace Host

/-- From a host `h` to a host `k`, the daemon of a network was killed as a process, and after that
its program was run with the network's configuration and has succeeded. -/
def Renewed (root : Path) (n : Text) (pid : Nat) (h k : Host) : Prop :=
  ∃ command, Launch.IsFor root n command ∧
    [.signalled pid Signal.terminate, .began command,
      .logged (.startedDaemon (root.fileOf n configName))].Sublist (h.since k)

variable {root : Path} {n : Text} {pid : Nat} {h k l : Host}

/-- What was renewed stays so, whatever happens next. -/
lemma Renewed.extend (hr : Renewed root n pid h k) (hk : h.journal <+: k.journal)
    (hl : k.journal <+: l.journal) : Renewed root n pid h l := by
  obtain ⟨command, hfor, hsub⟩ := hr
  refine ⟨command, hfor, ?_⟩
  rw [since_append hk hl]
  exact hsub.trans (List.sublist_append_left _ _)

/-- What is renewed later is renewed. -/
lemma Renewed.of_later (hr : Renewed root n pid k l) (hk : h.journal <+: k.journal)
    (hl : k.journal <+: l.journal) : Renewed root n pid h l := by
  obtain ⟨command, hfor, hsub⟩ := hr
  refine ⟨command, hfor, ?_⟩
  rw [since_append hk hl]
  exact hsub.trans (List.sublist_append_right _ _)

end Host

namespace Supervisor

/-- A daemon that is started with success has begun to run, and that is logged.

**Proof sketch.** A start that succeeds has ended in one of two ways, without or with a process
left behind. In both, the events stand in this order in the journal. -/
lemma began_of_start {s : Supervisor} {h k : Host} (hr : s.start h = (.ok (), k)) :
    [.began s.command, .logged (.startedDaemon s.configFile)].Sublist (h.since k) := by
  rcases s.start_cases h with ⟨fault, hs | hs⟩ | ⟨hs, -⟩ | ⟨pidFile, c, hs, -, -⟩ <;>
    rw [hs] at hr <;> cases hr
  · have hj : ((h.launching s.command).record (.logged (.startedDaemon s.configFile))).journal =
        h.journal ++ [.launched s.command, .began s.command,
          .logged (.startedDaemon s.configFile)] := by
      simp [Host.launching, Host.record]
    rw [Host.since_of_journal hj]
    exact List.sublist_cons_self _ _
  · have hj : (((h.launching s.command).leftBehind c).record
        (.logged (.startedDaemon s.configFile))).journal =
        h.journal ++ [.launched s.command, .began s.command, .daemonStarted h.nextPid,
          .pidWritten c.loc, .logged (.startedDaemon s.configFile)] := by
      rw [Host.record, Host.journal_leftBehind, List.append_assoc]
      rfl
    rw [Host.since_of_journal hj]
    exact .cons _ (.cons_cons _ (.cons _ (.cons _ (.refl _))))

/-- **A daemon restarted with success** is started again after it was killed.

**Proof sketch.** The journal of the request begins with the signal that kills and goes on with
that of a start that has succeeded, in which the daemon begins. -/
theorem renewed_restartIfRunning {i : Instance} {root : Path} (hi : i.IsBelow root) {h k : Host}
    {pid : Nat} (hs : i.supervisor.stateOn h = .running pid)
    (hr : i.supervisor.restartIfRunning h = (.ok (), k)) :
    Host.Renewed root i.network pid h k := by
  rw [restartIfRunning_of_running hs] at hr
  have hrec := i.supervisor.records_start (h.stopped pid)
  rw [hr] at hrec
  refine ⟨i.supervisor.command, hi.isFor_command, ?_⟩
  rw [Host.since_append (h.prefix_stopped pid) hrec, Host.since_of_journal (h.journal_stopped pid),
    ← hi.configFile]
  exact .cons_cons _ (.cons _ (began_of_start hr))

end Supervisor

/-! ## Siblings restarted in turn -/

namespace Host

/-- From one host to a later one, those of the processes that there were are killed that the
daemons of some networks ran as. The pid files of other networks are as they were. -/
structure Restarted (m : Mesh) (base : Location) (who : Text → Prop) (h k : Host) : Prop where
  /-- The journal was only added to. -/
  journal : h.journal <+: k.journal
  /-- There are no links. -/
  linkless : k.disk.Linkless m.settings.rootDir base
  /-- The networks are those that there were. -/
  networks : ∀ p, k.disk.HasNetwork base p ↔ h.disk.HasNetwork base p
  /-- Pids are not given again. -/
  nextPid : h.nextPid ≤ k.nextPid
  /-- Other pid files are as they were. -/
  pidFile : ∀ p, Settings.isNetworkName p = true → ¬ who p →
    k.disk.fileText base p pidName = h.disk.fileText base p pidName
  /-- Those processes do not live any more, and the others do. -/
  alive : ∀ pid < h.nextPid, k.isAlive pid = true ↔
    h.isAlive pid = true ∧ ∀ p, who p → m.stateOf h p ≠ .running pid
  /-- They were sent the signal that kills, and no others were signalled. -/
  signalled : ∀ pid < h.nextPid, ∀ signal, .signalled pid signal ∈ h.since k ↔
    signal = Signal.terminate ∧ ∃ p, who p ∧ m.stateOf h p = .running pid
  /-- Each of those daemons was started again. -/
  renewed : ∀ p pid, who p → m.stateOf h p = .running pid →
    Renewed m.settings.rootDir p pid h k

/-- No live process is named by two pid files, and live processes have pids that were given. -/
structure OwnsPids (base : Location) (h : Host) : Prop where
  /-- Pid files share no live process. -/
  unshared : ∀ n p (pid : Nat), h.isAlive pid = true → h.disk.NamesPid base n pid →
    h.disk.NamesPid base p pid → n = p
  /-- Live processes have pids that were given. -/
  given : ∀ pid : Nat, h.isAlive pid = true → pid < h.nextPid

namespace Restarted

variable {m : Mesh} {base : Location} {who : Text → Prop} {h k l : Host} {n : Text}

/-- Nothing was restarted yet. -/
lemma refl (hl : h.disk.Linkless m.settings.rootDir base) :
    Restarted m base (fun _ => False) h h where
  journal := List.prefix_refl _
  linkless := hl
  networks _ := .rfl
  nextPid := le_refl _
  pidFile _ _ _ := rfl
  alive pid _ := by simp
  signalled pid _ signal := by simp [since]
  renewed _ _ hno := hno.elim

/-- The same networks may be named otherwise. -/
lemma congr {who' : Text → Prop} (hr : Restarted m base who h k) (heq : ∀ p, who p ↔ who' p) :
    Restarted m base who' h k := by
  obtain rfl : who = who' := funext fun p => propext (heq p)
  exact hr

/-- A file of a network written that is no pid file.

**Proof sketch.** The effect is a write. The pid files, the processes and the signals are as
before. -/
lemma wrote (hr : Restarted m base who h k) {p f s : Text} (hf : f ≠ pidName)
    (hw : k.Wrote l (base ++ [Name.text p, .text f]) s) : Restarted m base who h l := by
  have hj := Host.Filed.journal hw
  have hsame : l.nextPid = k.nextPid ∧ l.processes = k.processes := by
    obtain ⟨id, x, next, -, rfl⟩ := hw
    exact ⟨rfl, rfl⟩
  have halive : ∀ pid : Nat, l.isAlive pid = k.isAlive pid := fun pid => by
    rw [isAlive, hsame.2, isAlive]
  refine ⟨hr.journal.trans ⟨_, hj.symm⟩, Host.Filed.linkless hw hr.linkless,
    fun q => (Host.Filed.hasNetwork_iff hw).trans (hr.networks q), hsame.1 ▸ hr.nextPid,
    fun q hq hno => ?_, fun pid hpid => ?_, fun pid hpid signal => ?_,
    fun q pid hq hrun => (hr.renewed q pid hq hrun).extend hr.journal ⟨_, hj.symm⟩⟩
  · rw [hw.fileText, if_neg fun he => hf he.2.symm, hr.pidFile q hq hno]
  · rw [halive, hr.alive pid hpid]
  · rw [← hr.signalled pid hpid signal, since_append hr.journal ⟨_, hj.symm⟩, List.mem_append,
      since_of_journal hj]
    simp

/-- An effect that is no signal.

**Proof sketch.** Nothing but the journal is another one, and what is added to it is none of the
signals counted. -/
lemma record (hr : Restarted m base who h k) {e : Event}
    (he : ∀ pid signal, e ≠ .signalled pid signal) : Restarted m base who h (k.record e) where
  journal := hr.journal.trans (List.prefix_append _ _)
  linkless := hr.linkless
  networks := hr.networks
  nextPid := hr.nextPid
  pidFile := hr.pidFile
  alive := hr.alive
  signalled pid hpid signal := by
    rw [← hr.signalled pid hpid signal, since_append hr.journal (List.prefix_append _ _),
      List.mem_append, since_record, List.mem_singleton]
    exact or_iff_left fun heq => he pid signal heq.symm
  renewed p pid hp hrun :=
    (hr.renewed p pid hp hrun).extend hr.journal (List.prefix_append _ _)

/-- **A sibling whose turn comes** runs as the process that it ran as at first.

**Proof sketch.** Its pid file and the networks are as they were. If its process had been killed on
the way, that would have been as the daemon of another network, and each live process belongs to
one. -/
theorem stateOf_eq_running_iff (hr : Restarted m base who h k)
    (hl : h.disk.Linkless m.settings.rootDir base) (ho : OwnsPids base h)
    (hwho : ∀ p, who p → Settings.isNetworkName p = true)
    (hn : Settings.isNetworkName n = true) (hno : ¬ who n) {pid : Nat} (hpid : pid < h.nextPid) :
    m.stateOf k n = .running pid ↔ m.stateOf h n = .running pid := by
  have hnames : k.disk.NamesPid base n pid ↔ h.disk.NamesPid base n pid := by
    unfold NamesPid
    rw [hr.pidFile n hn hno]
  rw [Mesh.stateOf_eq_running_iff hr.linkless hn, Mesh.stateOf_eq_running_iff hl hn, hr.networks,
    hnames, Signal.accepts_iff, Signal.accepts_iff, hr.alive pid hpid]
  refine and_congr_right fun hthis => and_congr_right fun _ => and_iff_left_of_imp ?_
  intro hlive p hp hrun
  -- a process that was killed would be named by two pid files
  obtain ⟨⟨-, -, hthat⟩, -⟩ := (Mesh.stateOf_eq_running_iff hl (hwho p hp)).mp hrun
  exact hno (ho.unshared n p pid hlive hthis.2.2 hthat ▸ hp)

/-- **A sibling's daemon restarted**, if it runs.

**Proof sketch.** Before the restart, the sibling runs as it did at the start, since its pid file
and its process are untouched so far. It alone is signalled and killed. The new process has a fresh
pid, so no process of the start is concerned. -/
theorem restarted (hr : Restarted m base who h k) (hl : h.disk.Linkless m.settings.rootDir base)
    (ho : OwnsPids base h) (hwho : ∀ p, who p → Settings.isNetworkName p = true) {i : Instance}
    (hi : i.IsBelow m.settings.rootDir) (hno : ¬ who i.network)
    (hok : (i.supervisor.restartIfRunning k).1 = .ok ())
    (hf : Faithful m.settings.rootDir base k (i.supervisor.restartIfRunning k).2) :
    Restarted m base (fun p => who p ∨ p = i.network) h (i.supervisor.restartIfRunning k).2 := by
  have htended := i.supervisor.tended_restartIfRunning k
  have hown := fun p f => @Supervisor.eq_of_pidWritten _ base i k hi hr.linkless hf p f
  have hturn : ∀ pid < h.nextPid, i.supervisor.stateOn k = .running pid ↔
      m.stateOf h i.network = .running pid := fun pid hpid => by
    rw [Mesh.stateOf_eq hi]
    exact hr.stateOf_eq_running_iff hl ho hwho hi.name hno hpid
  have halive := fun pid hpid =>
    @Supervisor.isAlive_restartIfRunning_iff i.supervisor k pid hpid
  have hsignalled := fun pid signal =>
    @Supervisor.signalled_restartIfRunning_iff i.supervisor k pid signal
  have hrenewed : ∀ pid, i.supervisor.stateOn k = .running pid →
      Renewed m.settings.rootDir i.network pid k (i.supervisor.restartIfRunning k).2 :=
    fun pid hs => Supervisor.renewed_restartIfRunning hi hs (Prod.ext hok rfl)
  have hnext := hr.nextPid
  generalize (i.supervisor.restartIfRunning k).2 = l at htended hown halive hsignalled hrenewed ⊢
  refine ⟨hr.journal.trans htended.records, htended.linkless hr.linkless,
    fun p => htended.hasNetwork_iff.trans (hr.networks p), hnext.trans htended.nextPid,
    fun p hp hnone => ?_, fun pid hpid => ?_, fun pid hpid signal => ?_, fun p pid hp hrun => ?_⟩
  · rw [not_or] at hnone
    rw [← hr.pidFile p hp hnone.1]
    unfold fileText
    rw [htended.get?_of_not_mem fun hw => hnone.2 ((hown p _ hw).2 hp)]
  · rw [halive pid (by omega), hr.alive pid hpid, Ne, hturn pid hpid, and_assoc]
    refine and_congr_right fun _ => ⟨?_, fun hall => ⟨fun p hp => hall p (.inl hp),
      hall _ (.inr rfl)⟩⟩
    rintro ⟨hothers, hthis⟩ p (hp | rfl)
    · exact hothers p hp
    · exact hthis
  · rw [since_append hr.journal htended.records, List.mem_append, hr.signalled pid hpid signal,
      hsignalled, hturn pid hpid, ← and_or_left]
    refine and_congr_right fun _ => ⟨?_, ?_⟩
    · rintro (⟨p, hp, hrun⟩ | hrun)
      · exact ⟨p, .inl hp, hrun⟩
      · exact ⟨_, .inr rfl, hrun⟩
    · rintro ⟨p, hp | rfl, hrun⟩
      · exact .inl ⟨p, hp, hrun⟩
      · exact .inr hrun
  · rcases hp with hp | rfl
    · exact (hr.renewed p pid hp hrun).extend hr.journal htended.records
    · obtain ⟨-, hacc⟩ := (Mesh.stateOf_eq_running_iff hl hi.name).mp hrun
      have hgiven := ho.given pid (Signal.accepts_iff.mp hacc).2
      exact (hrenewed pid ((hturn pid hgiven).mpr hrun)).of_later hr.journal htended.records

/-- **A sibling told** and its daemon restarted, if it runs.

**Proof sketch.** The update has succeeded, so its write has, and the restart after it. -/
theorem applied (hr : Restarted m base who h k) (hl : h.disk.Linkless m.settings.rootDir base)
    (ho : OwnsPids base h) (hwho : ∀ p, who p → Settings.isNetworkName p = true)
    {u : SiblingUpdate} (hu : u.sibling.IsBelow m.settings.rootDir)
    (hno : ¬ who u.sibling.network) (happly : u.apply k = (.ok (), l))
    (hf : Faithful m.settings.rootDir base k l) :
    Restarted m base (fun p => who p ∨ p = u.sibling.network) h l := by
  rcases hr.linkless.apply_cases hu with ⟨w, hrestart, -, hw⟩ | ⟨fault, hfault⟩
  · have hj := Host.Filed.journal hw
    rw [happly] at hrestart
    obtain rfl : l = (u.sibling.supervisor.restartIfRunning w).2 := congrArg Prod.snd hrestart
    have hrec := (u.sibling.supervisor.tended_restartIfRunning w).records
    exact (hr.wrote (by decide) hw).restarted hl ho hwho hu hno (congrArg Prod.fst hrestart.symm)
      (hf.split ⟨_, hj.symm⟩ hrec).2
  · rw [happly] at hfault
    cases hfault

end Restarted

end Host

/-- A network is a sibling that lacks one of some lines. -/
def Shelf.Lacks (v : Shelf) (n : Text) (own : List Text) (p : Text) : Prop :=
  v.isNetwork p = true ∧ p ≠ n ∧ ∃ l ∈ own, l ∉ v.forwarders p

namespace Propagation

variable {m : Mesh} {base : Location} {who : Text → Prop} {h k l : Host} {names : List Text}
  {instanceOf : Text → Instance} {revision : Text → Forwarders.Revision}

/-- **Siblings told in turn**: the daemons of those that a revision changes are restarted where they
run.

**Proof sketch.** By the list of siblings. An update that changes nothing is not in the plan. One
that does writes the file and restarts the daemon, and the rest follows for the siblings after it.
-/
theorem restarted_applyAll (hr : Host.Restarted m base who h k)
    (hl : h.disk.Linkless m.settings.rootDir base) (ho : Host.OwnsPids base h)
    (hwho : ∀ p, who p → Settings.isNetworkName p = true)
    (hi : ∀ n ∈ names, (instanceOf n).IsBelow m.settings.rootDir ∧ (instanceOf n).network = n)
    (hnd : names.Nodup) (hno : ∀ n ∈ names, ¬ who n)
    (happly : applyAll (plan instanceOf revision names) k = (.ok (), l))
    (hf : Host.Faithful m.settings.rootDir base k l) :
    Host.Restarted m base (fun p => who p ∨ p ∈ names ∧ (revision p).changed = true) h l := by
  induction names generalizing who k with
  | nil =>
    cases happly
    exact hr.congr fun p => by simp
  | cons n names ih =>
    obtain ⟨hn, hnd'⟩ := List.nodup_cons.mp hnd
    obtain ⟨hbelow, hname⟩ := hi n (by simp)
    have hrest : ∀ p ∈ names, (instanceOf p).IsBelow m.settings.rootDir ∧
        (instanceOf p).network = p := fun p hp => hi p (by simp [hp])
    by_cases hc : (revision n).changed = true
    · rw [plan_cons_of_changed hc, applyAll] at happly
      obtain ⟨_, w, hone, hothers⟩ := of_bind_ok happly
      have hrec := SiblingUpdate.records_apply ⟨instanceOf n, (revision n).lines⟩ k
      have hrec' := records_applyAll (plan instanceOf revision names) w
      rw [hone] at hrec
      rw [hothers] at hrec'
      obtain ⟨hf₁, hf₂⟩ := hf.split hrec hrec'
      have hstep := hr.applied hl ho hwho hbelow (by rw [hname]; exact hno n (by simp)) hone hf₁
      rw [hname] at hstep
      refine (ih hstep (fun p hp => ?_) hrest hnd' (fun p hp => ?_) hothers hf₂).congr fun p => ?_
      · exact hp.elim (hwho p) fun hpn => by rw [hpn, ← hname]; exact hbelow.name
      · rintro (hdone | rfl)
        · exact hno p (by simp [hp]) hdone
        · exact hn hp
      · rw [List.mem_cons, or_assoc, or_and_right]
        refine or_congr_right (or_congr_left ⟨fun hpn => ⟨hpn, hpn ▸ hc⟩, And.left⟩)
    · rw [plan_cons_of_unchanged hc] at happly
      refine (ih hr hwho hrest hnd' (fun p hp => hno p (by simp [hp])) happly hf).congr fun p => ?_
      rw [List.mem_cons, or_and_right, or_iff_right (a := p = n ∧ _)]
      rintro ⟨rfl, hpc⟩
      exact hc hpc

/-- **The daemons that an announcement restarts** are those of the siblings that lack a line.

**Proof sketch.** An announcement that succeeds writes the network's own file, applies the updates
and writes what it has learnt. Only the middle part restarts daemons, those of the siblings whose
file changes in the merge: they lack a line. -/
theorem restarted_publish {i : Instance} {servers : List Text}
    (hl : h.disk.Linkless m.settings.rootDir base) (hi : i.IsBelow m.settings.rootDir)
    (ho : Host.OwnsPids base h) (hr : publish m.settings i servers h = (.ok (), k))
    (hf : Host.Faithful m.settings.rootDir base h k) :
    Host.Restarted m base ((h.disk.shelf base).Lacks i.network
      (Forwarders.scopedLines i.domain servers)) h k := by
  obtain ⟨names, known, w, x, y, hc, hk⟩ := carried_publish hl hi hr hf.tame
  have hjw := Host.Filed.journal hc.proclaimed
  have hjy := Host.Filed.journal hc.learnt
  have hrec := hc.briefed.journal
  have hrec' : x.journal <+: k.journal := by
    rw [hk]
    exact .trans ⟨_, hjy.symm⟩ (List.prefix_append _ _)
  obtain ⟨hf₁, -⟩ := (hf.split ⟨_, hjw.symm⟩ (hrec.trans hrec')).2.split hrec hrec'
  have hbegun := (Host.Restarted.refl hl).wrote (by decide) hc.proclaimed
  have happlied := restarted_applyAll hbegun hl ho (fun p hp => hp.elim)
    (fun n hn => siblingInstance_isBelow (hc.proper n hn)) hc.announced.siblings.nodup
    (fun n _ hn => hn) hc.applied hf₁
  rw [hk]
  refine ((happlied.wrote (by decide) hc.learnt).record (by simp)).congr fun p => ?_
  rw [hc.announced.siblings.mem_iff, Forwarders.changed_merge_iff, false_or, and_assoc]
  rfl

end Propagation

end ResolverMesh
