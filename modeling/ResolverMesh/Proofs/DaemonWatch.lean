import ResolverMesh.Proofs.DaemonRuns
import ResolverMesh.Proofs.LastingProperties

set_option autoImplicit false
set_option relaxedAutoImplicit false

/-!
# Daemons under watch

Between any two requests of an operation, each daemon that lives is named by the pid file of its
network. It follows that no daemon of a network lives where the network's daemon is found not to
run, so none is started beside another, and that none lives where the daemon could be stopped, so
none is left when the network's directory goes.

## Main definitions

* `ResolverMesh.Host.SameSetting` — programs are found in the same places and do the same.
* `ResolverMesh.Host.Calm` — a stretch in which no daemon is started.
* `ResolverMesh.Host.Started` — the daemon of a network was started as a process.
* `ResolverMesh.Host.Vacant` — no daemon of a network lives.
* `ResolverMesh.Host.Watched` — all daemons are under watch.

## Main results

* `ResolverMesh.Host.Watched.leftBehind` — a daemon started where none lives.
* `ResolverMesh.Host.Watched.stop` — after a daemon is stopped none lives.
* `ResolverMesh.Host.lastsThroughout_watched` — daemons stay under watch.

## Design

A daemon belongs to the network whose configuration its program was run with, which the journal
tells: the effect of beginning the run is followed by that of leaving the daemon behind. So what a
pid file says is compared with what happened, and not with another pid file.
-/

namespace ResolverMesh

open ResolverMesh.Action Disk

/-! ## Stretches in which no daemon is started -/

namespace Host

/-- From one host to a later one, programs are found in the same places and do the same. -/
structure SameSetting (h k : Host) : Prop where
  /-- The current directory is the same. -/
  workDir : k.disk.workDir = h.disk.workDir
  /-- Programs are searched for in the same directories. -/
  searchPath : k.searchPath = h.searchPath
  /-- What each run of a program does is the same. -/
  outcomes : ∀ n, (k.programs n).outcomes = (h.programs n).outcomes

/-- What is the same over two stretches is the same over both. -/
lemma SameSetting.trans {h k l : Host} (h₁ : SameSetting h k) (h₂ : SameSetting k l) :
    SameSetting h l :=
  ⟨h₂.workDir.trans h₁.workDir, h₂.searchPath.trans h₁.searchPath,
    fun n => (h₂.outcomes n).trans (h₁.outcomes n)⟩

/-- A run of a program is counted. -/
lemma SameSetting.launching (h : Host) (command : List Text) :
    SameSetting h (h.launching command) := by
  refine ⟨rfl, rfl, fun n => ?_⟩
  dsimp only [Host.launching, record]
  split
  · next hn =>
    rw [hn]
    rfl
  · rfl

/-- From one host to a later one no daemon was started, and none came back to life. -/
structure Calm (h k : Host) : Prop where
  /-- Programs are found in the same places. -/
  setting : SameSetting h k
  /-- The journal tells of none. -/
  journal : ∃ es, k.journal = h.journal ++ es ∧ ∀ pid, .daemonStarted pid ∉ es
  /-- The processes are those that there were. -/
  processes : ∀ p ∈ k.processes, ∃ q ∈ h.processes, q.pid = p.pid ∧
    (p.alive = true → q.alive = true)
  /-- No pid was given. -/
  nextPid : k.nextPid = h.nextPid

namespace Calm

variable {h k l : Host} {loc : Location}

/-- The same processes, and effects that tell of none. -/
lemma of_journal {es : List Event} (hj : k.journal = h.journal ++ es)
    (hes : ∀ pid, .daemonStarted pid ∉ es) (hp : k.processes = h.processes)
    (hn : k.nextPid = h.nextPid) (hs : SameSetting h k) : Calm h k :=
  ⟨hs, ⟨es, hj, hes⟩, fun p hmem => ⟨p, hp ▸ hmem, rfl, id⟩, hn⟩

/-- Nothing happens. -/
lemma refl (h : Host) : Calm h h :=
  .of_journal (List.append_nil _).symm (by simp) rfl rfl ⟨rfl, rfl, fun _ => rfl⟩

/-- Two calm stretches, one after the other. -/
lemma trans (h₁ : Calm h k) (h₂ : Calm k l) : Calm h l := by
  obtain ⟨es, hes, hno⟩ := h₁.journal
  obtain ⟨fs, hfs, hno'⟩ := h₂.journal
  refine ⟨h₁.setting.trans h₂.setting, ⟨es ++ fs, by rw [hfs, hes, List.append_assoc],
    fun pid he => ?_⟩, fun p hp => ?_, h₂.nextPid.trans h₁.nextPid⟩
  · exact (List.mem_append.mp he).elim (hno pid) (hno' pid)
  · obtain ⟨q, hq, hqp, hlive⟩ := h₂.processes p hp
    obtain ⟨r, hr, hrq, hlive'⟩ := h₁.processes q hq
    exact ⟨r, hr, hrq.trans hqp, fun hp => hlive' (hlive hp)⟩

/-- An effect other than a daemon's start. -/
lemma record {e : Event} (he : ∀ pid, e ≠ .daemonStarted pid) : Calm h (h.record e) :=
  .of_journal rfl (fun pid hmem => he pid (List.mem_singleton.mp hmem).symm) rfl rfl
    ⟨rfl, rfl, fun _ => rfl⟩

/-- A quiet effect. -/
lemma of_quiet {e : Event} (he : e.isQuiet = true) : Calm h (h.record e) :=
  .record fun pid heq => by rw [heq] at he; cases he

/-- A program that is looked for. -/
lemma of_launched (command : List Text) : Calm h (h.record (.launched command)) :=
  .record (by simp)

/-- A program that has begun to run. -/
lemma launching (command : List Text) : Calm h (h.launching command) :=
  .of_journal (List.append_assoc _ _ _) (by simp) rfl rfl (.launching h command)

/-- A file that is written. -/
lemma wrote {s : Text} (hw : h.Wrote k loc s) : Calm h k := by
  obtain ⟨id, x, next, -, rfl⟩ := hw
  exact .of_journal rfl (by simp) rfl rfl ⟨rfl, rfl, fun _ => rfl⟩

/-- A directory that is made. -/
lemma opened (hp : h.Opened k loc) : Calm h k := by
  obtain ⟨-, id, mode, next, rfl⟩ := hp
  exact .of_journal rfl (by simp) rfl rfl ⟨rfl, rfl, fun _ => rfl⟩

/-- A directory that is removed. -/
lemma removed (hr : h.Removed k loc) : Calm h k := by
  cases hr
  exact .of_journal rfl (by simp) rfl rfl ⟨rfl, rfl, fun _ => rfl⟩

/-- A process killed. -/
lemma kill (pid : Nat) : Calm h (h.kill pid) := by
  refine ⟨⟨rfl, rfl, fun _ => rfl⟩, ⟨[], by simp [Host.kill], by simp⟩, fun p hp => ?_, rfl⟩
  obtain ⟨q, hq, rfl⟩ := List.mem_map.mp hp
  refine ⟨q, hq, ?_⟩
  split <;> simp

/-- A signal sent.

**Proof sketch.** A signal that is sent is an effect of its own, and at most takes a process out. -/
lemma send (pid signal : Int) : Calm h (Signal.send pid signal h).2 := by
  unfold Signal.send
  split
  · exact .refl h
  · unfold Signal.deliver
    dsimp only
    split
    · exact .refl h
    · split
      · exact (Calm.record (by simp)).trans (.kill _)
      · exact .record (by simp)

end Calm

/-- A pid is alive as that of a process that lives. -/
lemma isAlive_iff {h : Host} {pid : Nat} :
    h.isAlive pid = true ↔ ∃ p ∈ h.processes, p.alive = true ∧ p.pid = pid := by
  unfold isAlive
  simp only [List.any_eq_true, Bool.and_eq_true, decide_eq_true_eq, Int.natCast_inj]

/-- What lives has lived before. -/
lemma Calm.isAlive {h k : Host} (hc : Calm h k) {pid : Nat} (hk : k.isAlive pid = true) :
    h.isAlive pid = true := by
  obtain ⟨p, hp, hlive, hpid⟩ := isAlive_iff.mp hk
  obtain ⟨q, hq, hqp, hlive'⟩ := hc.processes p hp
  exact isAlive_iff.mpr ⟨q, hq, hlive' hlive, hqp.trans hpid⟩

/-! ## The daemons of a network -/

/-- From one host to a later one, the daemon of a network was started as a process. -/
structure Started (root : Path) (n : Text) (pid : Nat) (h k : Host) : Prop where
  /-- The network has a proper name. -/
  name : Settings.isNetworkName n = true
  /-- The program that left the process behind was run with the network's configuration. -/
  command : ∃ command, [.began command, .daemonStarted pid] <:+: h.since k ∧
    Launch.IsFor root n command

end Host

/-- Two effects that follow each other do so before effects that the second is none of.

**Proof sketch.** The two effects stand in the first part, or in the second, or across the border
between them. The second effect is in the second part in the last two cases. -/
lemma infix_of_infix_append {a b : Event} {es fs : List Event} (h : [a, b] <:+: es ++ fs)
    (hb : b ∉ fs) : [a, b] <:+: es := by
  rcases List.infix_append_iff_ne_nil.mp h with hes | hfs | ⟨l₁, l₂, h₁, h₂, hab, -, hpre⟩
  · exact hes
  · exact absurd (hfs.subset (by simp)) hb
  · -- what is cut off at the end is not empty, so the second effect is in it
    have hlast : b ∈ l₂ := by
      have hget : ([a, b] : List Event).getLast? = l₂.getLast? := by
        rw [hab, List.getLast?_append_of_ne_nil _ h₂]
      exact List.mem_of_getLast? hget.symm
    exact absurd (hpre.subset hlast) hb

namespace Host

section Started

variable {root : Path} {n p : Text} {pid : Nat} {o h k : Host}

/-- The journal tells of the start of a daemon that was started. -/
lemma Started.mem (hs : Started root n pid o h) : .daemonStarted pid ∈ o.since h := by
  obtain ⟨command, hin, -⟩ := hs.command
  exact hin.subset (by simp)

/-- No daemon has started in a calm stretch. -/
lemma Calm.mem_since_iff (hc : Calm h k) (ho : o.journal <+: h.journal) :
    .daemonStarted pid ∈ o.since k ↔ .daemonStarted pid ∈ o.since h := by
  obtain ⟨es, hes, hno⟩ := hc.journal
  rw [since_append ho ⟨es, hes.symm⟩, since_of_journal hes, List.mem_append]
  simp [hno pid]

/-- The daemons that were started are the same.

**Proof sketch.** A daemon's start is two effects side by side, the second of them the start, and
no such effect is added. -/
lemma Calm.started_iff (hc : Calm h k) (ho : o.journal <+: h.journal) :
    Started root n pid o k ↔ Started root n pid o h := by
  obtain ⟨es, hes, hno⟩ := hc.journal
  have hsince : o.since k = o.since h ++ es := by
    rw [since_append ho ⟨es, hes.symm⟩, since_of_journal hes]
  constructor
  · rintro ⟨hn, command, hin, hfor⟩
    rw [hsince] at hin
    exact ⟨hn, command, infix_of_infix_append hin (hno pid), hfor⟩
  · rintro ⟨hn, command, hin, hfor⟩
    exact ⟨hn, command, by rw [hsince]; exact hin.trans (List.prefix_append _ _).isInfix, hfor⟩

/-- A daemon that was started was so before, or is the one that has been left behind last.

**Proof sketch.** The journal grows by the run of the program and the daemon it leaves behind. A
run followed by a daemon in the whole journal stands in the old part, or in the new one, or across
the two; across them it cannot stand, since the new part begins with the search for the program. -/
lemma started_leftBehind_iff {command : List Text} {c : Disk.Change}
    (ho : o.journal <+: h.journal) :
    Started root n pid o ((h.launching command).leftBehind c) ↔ Started root n pid o h ∨
      pid = h.nextPid ∧ Settings.isNetworkName n = true ∧ Launch.IsFor root n command := by
  have hsince : o.since ((h.launching command).leftBehind c) =
      (o.since h ++ [Event.launched command]) ++
        ([.began command, .daemonStarted h.nextPid] ++ [Event.pidWritten c.loc]) := by
    have hj := h.journal_leftBehind command c
    rw [since_append ho ⟨_, hj.symm⟩, since_of_journal hj]
    simp
  constructor
  · rintro ⟨hn, command', hin, hfor⟩
    rw [hsince, ← List.append_assoc] at hin
    rcases List.infix_append_iff_ne_nil.mp (infix_of_infix_append hin (by simp)) with
      hold | hnew | ⟨l₁, l₂, h₁, h₂, hl, -, hpre⟩
    · exact .inl ⟨hn, command', infix_of_infix_append hold (by simp), hfor⟩
    · have heq := hnew.eq_of_length rfl
      simp only [List.cons.injEq, Event.began.injEq, Event.daemonStarted.injEq, and_true] at heq
      exact .inr ⟨heq.2, hn, heq.1 ▸ hfor⟩
    · -- the second effect alone would have to be the one that the program began
      cases l₁ with
      | nil => exact absurd rfl h₁
      | cons x xs =>
        cases xs with
        | nil =>
          have hboth : x = .began command' ∧ l₂ = [.daemonStarted pid] := by simpa using hl.symm
          obtain ⟨-, rfl⟩ := hboth
          simp at hpre
        | cons y ys =>
          have hnil : ys ++ l₂ = [] := by simpa using (congrArg (List.drop 2) hl).symm
          exact absurd (List.append_eq_nil_iff.mp hnil).2 h₂
  · rintro (⟨hn, command', hin, hfor⟩ | ⟨rfl, hn, hfor⟩)
    · refine ⟨hn, command', ?_, hfor⟩
      rw [hsince, List.append_assoc]
      exact hin.trans (List.prefix_append _ _).isInfix
    · refine ⟨hn, command, ?_, hfor⟩
      rw [hsince, ← List.append_assoc]
      exact ⟨_, _, rfl⟩

end Started

end Host

/-! ## Files after each change -/

section Files

variable {base : Location} {n f s : Text} {h k : Host}

/-- The files of networks after one of them is written. -/
lemma Disk.fileText_put {d d' : Disk} {id : Nat} {x : Bool}
    (ht : d'.tree = d.tree.put (base ++ [Name.text n, .text f]) (.file id x (.text s)))
    (m g : Text) :
    d'.fileText base m g = if m = n ∧ g = f then some s else d.fileText base m g := by
  unfold fileText
  rw [ht, FileTree.get?_put]
  by_cases hmg : m = n ∧ g = f
  · simp [hmg, Entry.text?, Content.text?]
  · rw [if_neg (by simpa using hmg), if_neg hmg]

namespace Host

/-- What the files of a network hold after one was written. -/
lemma Wrote.fileText (hw : h.Wrote k (base ++ [Name.text n, .text f]) s) (m g : Text) :
    k.disk.fileText base m g = if m = n ∧ g = f then some s else h.disk.fileText base m g := by
  obtain ⟨id, x, next, -, rfl⟩ := hw
  exact Disk.fileText_put rfl m g

/-- A new directory has no file with a text. -/
lemma Opened.fileText (hp : h.Opened k (base ++ [Name.text n])) (m g : Text) :
    k.disk.fileText base m g = h.disk.fileText base m g := by
  obtain ⟨-, id, mode, next, rfl⟩ := hp
  simp [Disk.fileText, record, FileTree.get?_put]

/-- A network that was removed has no files, and the others have theirs. -/
lemma Removed.fileText (hr : h.Removed k (base ++ [Name.text n])) (m g : Text) :
    k.disk.fileText base m g = if m = n then none else h.disk.fileText base m g := by
  cases hr
  unfold Disk.fileText
  dsimp only [record]
  rw [FileTree.get?_removeAt]
  by_cases hm : m = n
  · simp [hm]
  · rw [if_neg (by simpa using Ne.symm hm), if_neg hm]

end Host

end Files

/-! ## Pid files that are in order -/

namespace Host

/-- No daemon of a network lives, as long as pids fit into pid files. -/
def Vacant (root : Path) (n : Text) (o k : Host) : Prop :=
  k.nextPid ≤ PidFile.greatestPid + 1 → ∀ pid, Started root n pid o k → k.isAlive pid = false

/-- The daemons that were started since a host `o` are under watch: pid files hold pids of daemons
of their networks, and the pid of each daemon that lives is in the pid file of its network. -/
structure Watched (root : Path) (base : Location) (o k : Host) : Prop where
  /-- The journal was only added to. -/
  journal : o.journal <+: k.journal
  /-- Programs are found in the same places. -/
  setting : SameSetting o k
  /-- The root is in order. -/
  inOrder : k.disk.InOrder root base
  /-- A network's configuration names the pid file of the network. -/
  config : ∀ n t, k.disk.fileText base n configName = some t →
    Launch.pidFileOf? t = some (root.fileOf n pidName)
  /-- A pid file can be reached, and was written by a daemon of the network. -/
  pidFile : ∀ n t, k.disk.fileText base n pidName = some t → Admits (root.fileOf n pidName) n ∧
    ∃ pid, Started root n pid o k ∧ t = Launch.pidLine pid
  /-- A daemon that lives is named by the pid file of its network. -/
  named : k.nextPid ≤ PidFile.greatestPid + 1 → ∀ n pid, Started root n pid o k →
    k.isAlive pid = true → k.disk.fileText base n pidName = some (Launch.pidLine pid)
  /-- A daemon that was started is one of a network, and has a pid that was given. -/
  started : ∀ pid, .daemonStarted pid ∈ o.since k →
    0 < pid ∧ pid < k.nextPid ∧ ∃ n, Started root n pid o k
  /-- It is a daemon of that network only. -/
  unique : ∀ n p pid, Started root n pid o k → Started root p pid o k → n = p
  /-- The next pid is one that was not given yet. -/
  fresh : 0 < k.nextPid ∧ ∀ p ∈ k.processes, p.pid < k.nextPid

section Watched

variable {root : Path} {base : Location} {n : Text} {o h k : Host} {i : Instance}

/-- A network without a living daemon has none after a calm stretch. -/
lemma Vacant.of_calm (hv : Vacant root n o h) (hc : Calm h k) (ho : o.journal <+: h.journal) :
    Vacant root n o k := by
  intro hb pid hs
  rw [hc.nextPid] at hb
  cases hlive : k.isAlive pid with
  | false => rfl
  | true => rw [← hv hb pid ((hc.started_iff ho).mp hs), hc.isAlive hlive]

namespace Watched

/-- **As long as no daemon is started** the daemons stay under watch, if their pid files stay, or
go with a network none of whose daemons lives.

**Proof sketch.** The daemons of each network are the same ones, and no more of them live. So a pid
file that stays names what it named, and one that is gone was that of a network without a living
daemon. -/
theorem of_calm (hw : Watched root base o h) (hc : Calm h k) (ho : k.disk.InOrder root base)
    (hconfig : ∀ n t, k.disk.fileText base n configName = some t →
      h.disk.fileText base n configName = some t ∨
        Launch.pidFileOf? t = some (root.fileOf n pidName))
    (hpid : ∀ n, k.disk.fileText base n pidName = h.disk.fileText base n pidName ∨
      k.disk.fileText base n pidName = none ∧ Vacant root n o h) : Watched root base o k := by
  have hiff : ∀ n pid, Started root n pid o k ↔ Started root n pid o h :=
    fun n pid => hc.started_iff hw.journal
  have hprefix : h.journal <+: k.journal := by
    obtain ⟨es, hes, -⟩ := hc.journal
    exact ⟨es, hes.symm⟩
  refine ⟨hw.journal.trans hprefix, hw.setting.trans hc.setting, ho, fun n t ht => ?_,
    fun n t ht => ?_,
    fun hb n pid hs hlive => ?_, fun pid hmem => ?_, fun n p pid hn hp => ?_, ?_⟩
  · exact (hconfig n t ht).elim (hw.config n t) id
  · rcases hpid n with hsame | ⟨hnone, -⟩
    · rw [hsame] at ht
      obtain ⟨ha, pid, hs, rfl⟩ := hw.pidFile n t ht
      exact ⟨ha, pid, (hiff n pid).mpr hs, rfl⟩
    · rw [hnone] at ht
      cases ht
  · rw [hc.nextPid] at hb
    rw [hiff] at hs
    have hlived := hc.isAlive hlive
    rcases hpid n with hsame | ⟨-, hv⟩
    · rw [hsame]
      exact hw.named hb n pid hs hlived
    · rw [hv hb pid hs] at hlived
      cases hlived
  · obtain ⟨hpos, hlt, n, hs⟩ := hw.started pid ((hc.mem_since_iff hw.journal).mp hmem)
    exact ⟨hpos, hc.nextPid ▸ hlt, n, (hiff n pid).mpr hs⟩
  · exact hw.unique n p pid ((hiff n pid).mp hn) ((hiff p pid).mp hp)
  · rw [hc.nextPid]
    refine ⟨hw.fresh.1, fun p hp => ?_⟩
    obtain ⟨q, hq, hqp, -⟩ := hc.processes p hp
    rw [← hqp]
    exact hw.fresh.2 q hq

/-- The same of a change that does not touch the disk. -/
lemma of_calm_of_disk (hw : Watched root base o h) (hc : Calm h k) (hd : k.disk = h.disk) :
    Watched root base o k := by
  refine hw.of_calm hc ?_ (fun n t ht => .inl ?_) fun n => .inl ?_ <;> rw [hd] at *
  · exact hw.inOrder
  · exact ht

/-- The pid file that a network's daemon writes is that of the network.

**Proof sketch.** The configuration that the command names is the file of the network, since the
path below the root is looked up as it is written. What it says of the pid file is known of each
that is read. -/
lemma pidFile_eq (hw : Watched root base o h) (hi : i.IsBelow root) {pidFile : Path}
    (hp : Launch.pidFileOf? (Launch.configOf h.disk i.supervisor.command) = some pidFile) :
    pidFile = root.fileOf i.network pidName := by
  have hpath : (⟨(Launch.after? Launch.configOption (i.supervisor.command[3]?.getD [])).getD
      (i.supervisor.command[3]?.getD [])⟩ : Path) = root.fileOf i.network configName := by
    rw [← hi.configFile]
    rfl
  unfold Launch.configOf at hp
  dsimp only at hp
  rw [hpath] at hp
  rcases hw.inOrder.find_file hi.name isFileName_configName with
    ⟨-, -, ⟨-, hf⟩ | ⟨id, x, t, ht, hf⟩⟩ | ⟨-, -, hf⟩ | ⟨-, e, -, hf⟩ <;> rw [hf] at hp
  · cases hp
  · exact Option.some.inj (hp.symm.trans (hw.config _ t ht))
  · cases hp
  · cases hp

/-- What a daemon that is left behind has written. -/
lemma wrote_pidFile (hw : Watched root base o h) (hn : Settings.isNetworkName n = true) {s : Text}
    {c : Disk.Change} (hc : h.disk.writeText (root.fileOf n pidName) s = .ok c) :
    Admits (root.fileOf n pidName) n ∧ h.disk.HasNetwork base n ∧
      c.loc = base ++ [Name.text n, .text pidName] ∧ c.disk.workDir = h.disk.workDir ∧
      ∃ id x, (∀ old, h.disk.tree.get? (base ++ [Name.text n, .text pidName]) = some old →
          Entry.Alike old (.file id x (.text s))) ∧
        c.disk.tree =
          h.disk.tree.put (base ++ [Name.text n, .text pidName]) (.file id x (.text s)) := by
  unfold writeText at hc
  rcases hw.inOrder.write_file hn isFileName_pidName (fun _ => .text s) (fun _ => s)
      (fun _ => rfl) with ⟨ha, hnet, id, x, next, halike, hwrite⟩ | ⟨-, e, hwrite⟩
  · rw [hwrite] at hc
    cases hc
    exact ⟨ha, hnet, rfl, rfl, id, x, halike, rfl⟩
  · rw [hwrite] at hc
    cases hc

/-- **A daemon left behind** by the program of a network none of whose daemons lives.

**Proof sketch.** The daemons that were started are those of before and the new one, which is the
network's as its command tells. Its pid is larger than all others, so none is confused with it. The
pid file of the network names it, and those of other networks have not been touched; a daemon of
the network that was started before does not live. -/
theorem leftBehind (hw : Watched root base o h) (hi : i.IsBelow root)
    (hv : Vacant root i.network o h) {c : Disk.Change}
    (hc : h.disk.writeText (root.fileOf i.network pidName) (Launch.pidLine h.nextPid) = .ok c) :
    Watched root base o ((h.launching i.supervisor.command).leftBehind c) := by
  obtain ⟨ha, hnet, -, hdir, id, x, -, htree⟩ := hw.wrote_pidFile hi.name hc
  have hfor := hi.isFor_command
  have hiff : ∀ n pid, Started root n pid o ((h.launching i.supervisor.command).leftBehind c) ↔
      Started root n pid o h ∨ pid = h.nextPid ∧ n = i.network := by
    intro n pid
    rw [started_leftBehind_iff hw.journal]
    refine or_congr_right (and_congr_right fun _ => ⟨fun ⟨hn, hfor'⟩ => ?_, ?_⟩)
    · exact hfor.unique hw.inOrder.rooted.find hi.name hn hfor'
    · rintro rfl
      exact ⟨hi.name, hfor⟩
  have htext : ∀ n f, ((h.launching i.supervisor.command).leftBehind c).disk.fileText base n f =
      if n = i.network ∧ f = pidName then some (Launch.pidLine h.nextPid)
      else h.disk.fileText base n f := Disk.fileText_put htree
  have hsetting : SameSetting h ((h.launching i.supervisor.command).leftBehind c) :=
    (SameSetting.launching h i.supervisor.command).trans ⟨hdir, rfl, fun _ => rfl⟩
  have hold : ∀ n pid, Started root n pid o h → pid < h.nextPid :=
    fun n pid hs => (hw.started pid hs.mem).2.1
  have hlive : ∀ pid : Nat, ((h.launching i.supervisor.command).leftBehind c).isAlive pid = true ↔
      h.isAlive pid = true ∨ pid = h.nextPid := by
    intro pid
    rw [isAlive_iff, isAlive_iff]
    simp only [Host.leftBehind, launching, record, addProcess, List.mem_append, List.mem_singleton]
    constructor
    · rintro ⟨p, hp | rfl, hlive, hpid⟩
      · exact .inl ⟨p, hp, hlive, hpid⟩
      · exact .inr hpid.symm
    · rintro (⟨p, hp, hlive, hpid⟩ | rfl)
      · exact ⟨p, .inl hp, hlive, hpid⟩
      · exact ⟨_, .inr rfl, rfl, rfl⟩
  have hnext : ((h.launching i.supervisor.command).leftBehind c).nextPid = h.nextPid + 1 := rfl
  have hjournal := h.journal_leftBehind i.supervisor.command c
  refine ⟨hw.journal.trans ⟨_, hjournal.symm⟩, hw.setting.trans hsetting,
    hw.inOrder.put_text hnet htree hdir, fun n t ht => ?_, fun n t ht => ?_,
    fun hb n pid hs hl => ?_, fun pid hmem => ?_,
    fun n p pid hn hp => ?_, by omega, fun p hp => ?_⟩
  · rw [htext, if_neg fun h => absurd h.2 (by decide)] at ht
    exact hw.config n t ht
  · rw [htext] at ht
    split at ht
    · next hself =>
      obtain rfl := hself.1
      cases ht
      exact ⟨ha, h.nextPid, (hiff _ _).mpr (.inr ⟨rfl, rfl⟩), rfl⟩
    · obtain ⟨ha', pid, hs, rfl⟩ := hw.pidFile n t ht
      exact ⟨ha', pid, (hiff _ _).mpr (.inl hs), rfl⟩
  · rw [hnext] at hb
    rw [htext]
    rcases (hiff n pid).mp hs with hs | ⟨rfl, rfl⟩
    · -- a daemon that was started before is one of another network
      have hne : pid ≠ h.nextPid := (hold n pid hs).ne
      have hlived := ((hlive pid).mp hl).resolve_right hne
      rw [if_neg, hw.named (by omega) n pid hs hlived]
      rintro ⟨rfl, -⟩
      rw [hv (by omega) pid hs] at hlived
      cases hlived
    · rw [if_pos ⟨rfl, rfl⟩]
  · rw [since_append hw.journal ⟨_, hjournal.symm⟩, since_of_journal hjournal,
      List.mem_append] at hmem
    rcases hmem with hmem | hmem
    · obtain ⟨hpos, hlt, n, hs⟩ := hw.started pid hmem
      exact ⟨hpos, hnext ▸ Nat.lt_succ_of_lt hlt, n, (hiff n pid).mpr (.inl hs)⟩
    · obtain rfl : pid = h.nextPid := by simpa using hmem
      exact ⟨hw.fresh.1, Nat.lt_succ_self _, i.network, (hiff _ _).mpr (.inr ⟨rfl, rfl⟩)⟩
  · rcases (hiff n pid).mp hn with hn | ⟨hpid, rfl⟩ <;>
      rcases (hiff p pid).mp hp with hp | ⟨hpid', rfl⟩
    · exact hw.unique n p pid hn hp
    · exact absurd hpid' (hold n pid hn).ne
    · exact absurd hpid (hold p pid hp).ne
    · rfl
  · rw [hnext]
    rcases List.mem_append.mp hp with hp | hp
    · exact Nat.lt_succ_of_lt (hw.fresh.2 p hp)
    · rw [List.mem_singleton.mp hp]
      exact Nat.lt_succ_self _

/-- **The daemon of a network started**, none of whose daemons lives.

**Proof sketch.** By the ways in which a start ends. A process that is left behind has written the
pid file of the network, and no other daemon of the network lives beside it. -/
theorem start (hw : Watched root base o h) (hi : i.IsBelow root)
    (hv : Vacant root i.network o h) : Watched root base o (i.supervisor.start h).2 := by
  have hlaunched := hw.of_calm_of_disk (Calm.of_launched i.supervisor.command) rfl
  have hlaunching := hw.of_calm_of_disk (Calm.launching i.supervisor.command) rfl
  rcases i.supervisor.start_cases h with
    ⟨fault, hr | hr⟩ | ⟨hr, -⟩ | ⟨pidFile, c, hr, hp, hc⟩ <;> rw [hr]
  · exact hlaunched
  · exact hlaunching
  · exact hlaunching.of_calm_of_disk (.of_quiet rfl) rfl
  · obtain rfl := hw.pidFile_eq hi hp
    exact (hw.leftBehind hi hv hc).of_calm_of_disk (.of_quiet rfl) rfl

/-- **A daemon that lives** is named by the pid file of its network.

**Proof sketch.** The file holds the line of the pid, which is in range, and reading it is not
refused, since the file is there. -/
theorem read_pidFile (hw : Watched root base o h) (hb : h.nextPid ≤ PidFile.greatestPid + 1)
    {pid : Nat} (hs : Started root n pid o h) (hl : h.isAlive pid = true) :
    PidFile.read h.disk (root.fileOf n pidName) = .pid pid := by
  have ht := hw.named hb n pid hs hl
  obtain ⟨hpos, hlt, -⟩ := hw.started pid hs.mem
  unfold PidFile.read
  rcases hw.inOrder.readText_file hs.name isFileName_pidName with ⟨-, hr⟩ | ⟨hno, -⟩
  · rw [hr, ht]
    exact PidFile.ofText_pidLine hpos (by omega)
  · exact absurd ⟨(hw.pidFile n _ ht).1, hw.inOrder.tidy.hasNetwork_of_fileText ht⟩ hno

/-- No daemon lives of a network whose pid file names no live process. -/
lemma vacant_of_read (hw : Watched root base o h) (hr : ∀ pid : Nat, 0 < pid →
    PidFile.read h.disk (root.fileOf n pidName) = .pid pid → h.isAlive pid = false) :
    Vacant root n o h := by
  intro hb pid hs
  cases hl : h.isAlive pid with
  | false => rfl
  | true => rw [← hr pid (hw.started pid hs.mem).1 (hw.read_pidFile hb hs hl), hl]

end Watched

end Watched

end Host

/-! ## Daemons stopped and started again -/

namespace Host

/-- A process that was killed does not live any more, and the others are not concerned.

**Proof sketch.** A kill marks the records of one process as dead and leaves the others as they
are. -/
lemma isAlive_stopped_iff (h : Host) (q pid : Nat) :
    (h.stopped q).isAlive pid = true ↔ h.isAlive pid = true ∧ pid ≠ q := by
  rw [isAlive_iff, isAlive_iff]
  constructor
  · rintro ⟨p, hp, hlive, hpid⟩
    obtain ⟨r, hr, hrp⟩ := List.mem_map.mp hp
    by_cases hq : r.pid = q
    · rw [if_pos hq] at hrp
      rw [← hrp] at hlive
      cases hlive
    · rw [if_neg hq] at hrp
      subst hrp
      exact ⟨⟨r, hr, hlive, hpid⟩, hpid ▸ hq⟩
  · rintro ⟨⟨p, hp, hlive, hpid⟩, hne⟩
    refine ⟨p, List.mem_map.mpr ⟨p, hp, ?_⟩, hlive, hpid⟩
    rw [if_neg (hpid ▸ hne)]

/-- A daemon that has been stopped does not live. -/
lemma isAlive_stopped (h : Host) (pid : Nat) : (h.stopped pid).isAlive pid = false := by
  rw [← Bool.not_eq_true, isAlive_stopped_iff]
  exact fun hl => hl.2 rfl

/-- To stop a daemon starts none. -/
lemma Calm.stopped (h : Host) (pid : Nat) : Calm h (h.stopped pid) :=
  ((Calm.record (by simp)).trans (.kill pid)).trans (.of_quiet rfl)

end Host

namespace Host.Watched

variable {root : Path} {base : Location} {n : Text} {o h k : Host} {i : Instance}

/-- No daemon lives of a network whose daemon does not run.

**Proof sketch.** The daemon would be named in the pid file and take a signal, and then it would be
found running. -/
lemma vacant_of_notRunning (hw : Watched root base o h) (hi : i.IsBelow root)
    (hs : i.supervisor.stateOn h = .notRunning) : Vacant root i.network o h := by
  refine hw.vacant_of_read fun pid hpos hr => ?_
  unfold Supervisor.stateOn at hs
  rw [hi.pidFile, hr] at hs
  dsimp only at hs
  split at hs
  · cases hs
  · next hno =>
    rw [Signal.accepts_iff] at hno
    simpa [hpos] using hno

/-- **The daemon of a network stopped**: if that succeeds, none of its daemons lives.

**Proof sketch.** If the pid file names a process that takes a signal, that process is killed, and
by the watch it was the only living daemon of the network. If not, none lived. -/
theorem stop (hw : Watched root base o h) (hi : i.IsBelow root) :
    Watched root base o (i.supervisor.stop h).2 ∧
      ((i.supervisor.stop h).1 = .ok () → Vacant root i.network o (i.supervisor.stop h).2) := by
  by_cases hacc : ∃ p : Nat, PidFile.read h.disk i.supervisor.pidFile = .pid p ∧
      Signal.accepts h p = true
  · obtain ⟨p, hr, ha⟩ := hacc
    have hcalm : Calm h (h.stopped p) := .stopped h p
    rw [Supervisor.stop_of_accepts hr ha]
    refine ⟨hw.of_calm_of_disk hcalm rfl, fun _ hb pid hs => ?_⟩
    cases hl : (h.stopped p).isAlive pid with
    | false => rfl
    | true =>
      -- a daemon that lived before is the one that was killed
      rw [hi.pidFile, hw.read_pidFile hb ((hcalm.started_iff hw.journal).mp hs)
        (hcalm.isAlive hl)] at hr
      cases hr
      exact hl.symm.trans (h.isAlive_stopped p)
  · have hv : Vacant root i.network o h := by
      refine hw.vacant_of_read fun pid hpos hr => ?_
      rw [← hi.pidFile] at hr
      rw [← Bool.not_eq_true]
      exact fun hl => hacc ⟨pid, hr, Signal.accepts_iff.mpr ⟨hpos, hl⟩⟩
    rcases i.supervisor.stop_of_not_accepts hacc with hr | ⟨fault, hr⟩ | ⟨entry, hr⟩ <;> rw [hr]
    · exact ⟨hw, fun _ => hv⟩
    · exact ⟨hw, fun hok => by cases hok⟩
    · exact ⟨hw.of_calm_of_disk (.of_quiet rfl) rfl, fun _ => hv.of_calm (.of_quiet rfl) hw.journal⟩

/-- **The daemon of a network reads its files again**, or is started. -/
theorem hup (hw : Watched root base o h) (hi : i.IsBelow root) :
    Watched root base o (i.supervisor.hup h).2 := by
  cases hs : i.supervisor.stateOn h with
  | notRunning =>
    rw [Supervisor.hup_of_notRunning hs]
    exact hw.start hi (hw.vacant_of_notRunning hi hs)
  | running p =>
    rw [Supervisor.hup_of_running hs]
    exact hw.of_calm_of_disk (.record (by simp)) rfl

/-- **The daemon of a network restarted**, if it runs.

**Proof sketch.** The daemon is stopped and then started. If both are reached, none of the
network's daemons lives between them, which is what a start needs. -/
theorem restartIfRunning (hw : Watched root base o h) (hi : i.IsBelow root) :
    Watched root base o (i.supervisor.restartIfRunning h).2 := by
  obtain ⟨hstopped, hvacant⟩ := hw.stop hi
  rcases i.supervisor.restartIfRunning_cases h with
    hr | ⟨fault, hr⟩ | ⟨k, hstop, hr | ⟨entry, hr⟩⟩
  · rw [hr]
    exact hw
  · rw [hr] at hstopped
    exact hstopped
  · rw [hstop] at hstopped hvacant
    rw [hr]
    exact hstopped.start hi (hvacant rfl)
  · rw [hstop] at hstopped hvacant
    rw [hr]
    exact (hstopped.of_calm_of_disk (.of_quiet rfl) rfl).start hi
      ((hvacant rfl).of_calm (.of_quiet rfl) hstopped.journal)

/-- **A network closed**: its daemon is stopped before its directory is removed.

**Proof sketch.** The daemon is stopped first. If that succeeds, none of the network's daemons
lives, so its pid file may go with its directory. -/
theorem close (hw : Watched root base o h) (hi : i.IsBelow root) :
    Watched root base o ((do
      i.supervisor.stop
      Files.removeIfThere i.dir : Action Unit) h).2 := by
  obtain ⟨hstopped, hvacant⟩ := hw.stop hi
  rw [run_bind]
  rcases hr : i.supervisor.stop h with ⟨fault | u, k⟩
  · rw [hr] at hstopped
    exact hstopped
  · rw [hr] at hstopped hvacant
    dsimp only at hstopped ⊢
    rw [hi.dir]
    rcases hstopped.inOrder.linkless.removeIfThere_network hi.name with
      ⟨-, hrem⟩ | ⟨hrun, -⟩ | ⟨e, hrun⟩
    · refine hstopped.of_calm (.removed hrem) (hrem.inOrder hstopped.inOrder)
        (fun n t ht => .inl ?_) fun n => ?_
      · rw [hrem.fileText] at ht
        split at ht
        · cases ht
        · exact ht
      · rw [hrem.fileText]
        by_cases hn : n = i.network
        · rw [if_pos hn, hn]
          exact .inr ⟨rfl, hvacant rfl⟩
        · rw [if_neg hn]
          exact .inl rfl
    · rw [hrun]
      exact hstopped
    · rw [hrun]
      exact hstopped

end Host.Watched

/-- **Daemons under watch stay so** throughout all operations.

**Proof sketch.** Each request but those about daemons is a calm stretch, so `Watched.of_calm` is
enough for it. Of the files that are written only a configuration matters, and what it says of the
pid file is what its instance says. -/
theorem Host.lastsThroughout_watched (root : Path) (base : Location) (o : Host) :
    LastsThroughout root base (Watched root base o) where
  inOrder hw := hw.inOrder
  record hw he := hw.of_calm_of_disk (.of_quiet he) rfl
  opened hw hn hp := by
    refine hw.of_calm (.opened hp) (hp.inOrder hw.inOrder hn) (fun n t ht => .inl ?_)
      fun n => .inl ?_
    · rw [hp.fileText] at ht
      exact ht
    · rw [hp.fileText]
  wrote hw hnet hc hp hwrote := by
    refine hw.of_calm (.wrote hwrote) (hwrote.inOrder hw.inOrder hnet) (fun n t ht => .inl ?_)
      fun n => .inl ?_
    · rw [hwrote.fileText, if_neg fun h => hc h.2.symm] at ht
      exact ht
    · rw [hwrote.fileText, if_neg fun h => hp h.2.symm]
  configured hw hi hnet hl hwrote := by
    refine hw.of_calm (.wrote hwrote) (hwrote.inOrder hw.inOrder hnet) (fun n t ht => ?_)
      fun n => .inl ?_
    · rw [hwrote.fileText] at ht
      split at ht
      · next hself =>
        cases ht
        rw [Launch.pidFileOf?_configLines hl, hself.1, ← hi.pidFile]
        exact .inr rfl
      · exact .inl ht
    · rw [hwrote.fileText, if_neg fun h => absurd h.2 (by decide)]
  hup hi _ hw := hw.hup hi
  restartIfRunning hi _ hw := hw.restartIfRunning hi
  closed hi _ hw := hw.close hi

end ResolverMesh
