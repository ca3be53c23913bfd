import ResolverMesh.Proofs.DaemonWatch
import ResolverMesh.Proofs.RequestsAnywhere

set_option autoImplicit false
set_option relaxedAutoImplicit false

/-!
# Requests about a daemon

Whatever is asked about the daemon of one network, be it started, stopped, woken or restarted, and
whatever comes of it: no program is run but the daemon's, no process is signalled but the one that
its pid file names, and nothing is written but the pids of daemons that have been left behind. This
holds on any disk, with daemons that write their pids anywhere.

## Main definitions

* `ResolverMesh.Event.isDaemonic` — an effect of a request about a daemon.
* `ResolverMesh.Host.Tended` — a host before and after such a request.

## Main results

* `ResolverMesh.Supervisor.tended_start`, `ResolverMesh.Supervisor.tended_stop`,
  `ResolverMesh.Supervisor.tended_hup`, `ResolverMesh.Supervisor.tended_restartIfRunning` — the
  requests.
* `ResolverMesh.Host.Tended.linkless` — no links are put on the disk.
* `ResolverMesh.Supervisor.stateOn_stop` — a daemon that has been stopped does not run.
-/

namespace ResolverMesh

open ResolverMesh.Action Disk

/-- An effect of a request about a daemon. -/
def Event.isDaemonic : Event → Bool
  | .launched _ => true
  | .began _ => true
  | .daemonStarted _ => true
  | .pidWritten _ => true
  | .signalled _ _ => true
  | .logged (.startedDaemon _) => true
  | .logged (.stoppedDaemon _) => true
  | .logged (.corruptPidFile _ _) => true
  | _ => false

namespace Host

/-- From one host to a later one there were requests about daemons that are started by one command.
The processes that were signalled are among the `targets`. -/
structure Tended (command : List Text) (targets : Nat → Prop) (h k : Host) : Prop where
  /-- The effects are those of such requests. -/
  journal : ∃ es, k.journal = h.journal ++ es ∧ ∀ e ∈ es, e.isDaemonic = true
  /-- The current directory is the same. -/
  workDir : k.disk.workDir = h.disk.workDir
  /-- Nothing is gone. -/
  grows : h.disk.tree.Grows k.disk.tree
  /-- Daemons that have been left behind have written their pids, and nothing else was written. -/
  files : ∀ loc, k.disk.tree.get? loc = h.disk.tree.get? loc ∨
    .pidWritten loc ∈ h.since k ∧ ∃ id x pid, .daemonStarted pid ∈ h.since k ∧
      k.disk.tree.get? loc = some (.file id x (.text (Launch.pidLine pid)))
  /-- Pids are not given again. -/
  nextPid : h.nextPid ≤ k.nextPid
  /-- Daemons that have been left behind have pids that were not given before. -/
  started : ∀ pid, .daemonStarted pid ∈ h.since k → h.nextPid ≤ pid ∧ pid < k.nextPid
  /-- What lives has lived before, or is a daemon that has been left behind. -/
  alive : ∀ pid : Nat, k.isAlive pid = true → h.isAlive pid = true ∨ .daemonStarted pid ∈ h.since k
  /-- Signals were sent to the targets. -/
  signalled : ∀ pid signal, .signalled pid signal ∈ h.since k → targets pid
  /-- No other command was given. -/
  launched : ∀ c, .launched c ∈ h.since k → c = command

namespace Tended

variable {command : List Text} {targets : Nat → Prop} {h k l : Host}

/-- The journal is only added to. -/
lemma records (ht : Tended command targets h k) : h.journal <+: k.journal := by
  obtain ⟨es, hes, -⟩ := ht.journal
  exact ⟨es, hes.symm⟩

/-- The effects are those of such requests. -/
lemma isDaemonic (ht : Tended command targets h k) {e : Event} (he : e ∈ h.since k) :
    e.isDaemonic = true := by
  obtain ⟨es, hes, hall⟩ := ht.journal
  rw [since_of_journal hes] at he
  exact hall e he

/-- No daemon is left behind, and the disk is not touched.

**Proof sketch.** A calm stretch starts no daemon and revives none, so all that is left to say is
about the effects that are listed. -/
lemma of_calm {es : List Event} (hc : Calm h k) (hd : k.disk = h.disk)
    (hj : k.journal = h.journal ++ es) (hes : ∀ e ∈ es, e.isDaemonic = true)
    (hs : ∀ pid signal, .signalled pid signal ∈ es → targets pid)
    (hl : ∀ c, .launched c ∈ es → c = command) : Tended command targets h k := by
  have hsince := since_of_journal hj
  have hnone : ∀ pid, .daemonStarted pid ∉ es := by
    obtain ⟨es', hes', hno⟩ := hc.journal
    rw [hj] at hes'
    rw [List.append_cancel_left hes']
    exact hno
  refine ⟨⟨es, hj, hes⟩, by rw [hd], by rw [hd]; exact .refl _, fun _ => .inl (by rw [hd]),
    hc.nextPid.ge, fun pid hp => ?_, fun pid hp => .inl (hc.isAlive hp), fun pid signal hp => ?_,
    fun c hp => ?_⟩ <;> rw [hsince] at hp
  · exact absurd hp (hnone pid)
  · exact hs pid signal hp
  · exact hl c hp

/-- Nothing has been done about a daemon. -/
lemma refl (command : List Text) (targets : Nat → Prop) (h : Host) : Tended command targets h h :=
  .of_calm (.refl h) rfl (List.append_nil _).symm (by simp) (by simp) (by simp)

/-- What is done about a daemon in two stretches.

**Proof sketch.** An effect of both is one of the first stretch or of the second. A file that has
changed was written last in the second, or was left by it as the first wrote it; a process that
lives after both lived after the first or was started in the second. -/
lemma trans (h₁ : Tended command targets h k) (h₂ : Tended command targets k l) :
    Tended command targets h l := by
  have hsince := since_append h₁.records h₂.records
  have hleft : ∀ e ∈ h.since k, e ∈ h.since l := by
    intro e he
    rw [hsince]
    exact List.mem_append_left _ he
  have hright : ∀ e ∈ k.since l, e ∈ h.since l := by
    intro e he
    rw [hsince]
    exact List.mem_append_right _ he
  obtain ⟨es, hes, hall⟩ := h₁.journal
  obtain ⟨fs, hfs, hall'⟩ := h₂.journal
  refine ⟨⟨es ++ fs, by rw [hfs, hes, List.append_assoc], fun e he => ?_⟩,
    h₂.workDir.trans h₁.workDir, h₁.grows.trans h₂.grows, fun loc => ?_,
    h₁.nextPid.trans h₂.nextPid, fun pid hp => ?_, fun pid hp => ?_, fun pid signal hp => ?_,
    fun c hp => ?_⟩
  · exact (List.mem_append.mp he).elim (hall e) (hall' e)
  · rcases h₂.files loc with hsame | ⟨hwritten, id, x, pid, hp, hfile⟩
    · rw [hsame]
      rcases h₁.files loc with hsame' | ⟨hwritten, id, x, pid, hp, hfile⟩
      · exact .inl hsame'
      · exact .inr ⟨hleft _ hwritten, id, x, pid, hleft _ hp, hfile⟩
    · exact .inr ⟨hright _ hwritten, id, x, pid, hright _ hp, hfile⟩
  · rw [hsince, List.mem_append] at hp
    have hmono := h₁.nextPid
    have hmono' := h₂.nextPid
    rcases hp with hp | hp
    · have hgiven := h₁.started pid hp
      omega
    · have hgiven := h₂.started pid hp
      omega
  · rcases h₂.alive pid hp with hp | hp
    · exact (h₁.alive pid hp).imp_right (hleft _)
    · exact .inr (hright _ hp)
  · rw [hsince, List.mem_append] at hp
    exact hp.elim (h₁.signalled pid signal) (h₂.signalled pid signal)
  · rw [hsince, List.mem_append] at hp
    exact hp.elim (h₁.launched c) (h₂.launched c)

/-- An entry of the log. -/
lemma log {entry : LogEntry} (he : (Event.logged entry).isDaemonic = true) :
    Tended command targets h (h.record (.logged entry)) :=
  .of_calm (.of_quiet rfl) rfl rfl (by simpa using he) (by simp) (by simp)

/-- **A daemon left behind** by the command.

**Proof sketch.** The pid file is the only place that has changed, and it holds the new pid. The
new process is the only one that was not there before, and it has the next pid. -/
lemma leftBehind {p : Path} {c : Change}
    (hw : h.disk.writeText p (Launch.pidLine h.nextPid) = .ok c) :
    Tended command targets h ((h.launching command).leftBehind c) := by
  have hj := h.journal_leftBehind command c
  have hsince := since_of_journal hj
  obtain ⟨hdir, id, x, htree, halike⟩ := writeText_ok hw
  have hdisk : ((h.launching command).leftBehind c).disk = c.disk := rfl
  have hnext : ((h.launching command).leftBehind c).nextPid = h.nextPid + 1 := rfl
  refine ⟨⟨_, hj, by simp [Event.isDaemonic]⟩, hdir, ?_, fun loc => ?_, by omega, fun pid hp => ?_,
    fun pid hp => ?_, fun pid signal hp => ?_, fun d hp => ?_⟩
  · rw [hdisk, htree]
    exact .put halike
  · rw [hdisk, htree, FileTree.get?_put, hsince]
    by_cases hloc : loc = c.loc
    · rw [if_pos hloc, hloc]
      exact .inr ⟨by simp, id, x, h.nextPid, by simp, rfl⟩
    · rw [if_neg hloc]
      exact .inl rfl
  · rw [hsince] at hp
    have hpid : pid = h.nextPid := by simpa using hp
    omega
  · rw [hsince]
    obtain ⟨q, hq, hlive, hpid⟩ := isAlive_iff.mp hp
    rcases List.mem_append.mp hq with hq | hq
    · exact .inl (isAlive_iff.mpr ⟨q, hq, hlive, hpid⟩)
    · rw [List.mem_singleton.mp hq] at hpid
      right
      rw [← hpid]
      simp [launching, record]
  · rw [hsince] at hp
    simp at hp
  · rw [hsince] at hp
    simpa using hp

/-- **No links** are put on the disk, and a path that leads to a directory still does. -/
theorem linkless (ht : Tended command targets h k) {root : Path} {base : Location}
    (hl : h.disk.Linkless root base) : k.disk.Linkless root base := by
  refine ⟨hl.leads.of_grows ht.grows ht.workDir, fun rest e he => ?_⟩
  rcases ht.files (base ++ rest) with hsame | ⟨-, id, x, pid, -, hfile⟩
  · exact hl.isLink_eq_false rest e (hsame.symm.trans he)
  · rw [hfile] at he
    cases he
    rfl

/-- No file takes the place of a directory, so the networks are those that there were.

**Proof sketch.** The only place that may have changed is that of a pid file. A directory would
have stayed one, as what is written over is a file. -/
lemma hasNetwork_iff (ht : Tended command targets h k) {base : Location} {n : Text} :
    k.disk.HasNetwork base n ↔ h.disk.HasNetwork base n := by
  unfold HasNetwork
  rcases ht.files (base ++ [Name.text n]) with hsame | ⟨-, id, x, pid, -, hfile⟩
  · rw [hsame]
  · refine ⟨fun ⟨i', md, hd⟩ => ?_, fun ⟨i', md, hd⟩ => ?_⟩
    · rw [hfile] at hd
      cases hd
    · obtain ⟨e, he, halike⟩ := ht.grows _ _ hd
      rw [hfile] at he
      cases he
      cases halike

/-- A place at which no daemon has written its pid is as it was. -/
lemma get?_of_not_mem (ht : Tended command targets h k) {loc : Location}
    (hloc : .pidWritten loc ∉ h.since k) : k.disk.tree.get? loc = h.disk.tree.get? loc :=
  (ht.files loc).resolve_right fun hf => hloc hf.1

end Tended

end Host

/-! ## The requests -/

namespace Supervisor

variable {s : Supervisor} {h : Host} {pid : Nat}

/-- A daemon runs as the live process that its pid file names.

**Proof sketch.** Only a pid file that holds a pid can say that a daemon runs, and it does so if
that pid takes a signal. -/
lemma stateOn_eq_running_iff : s.stateOn h = .running pid ↔
    PidFile.read h.disk s.pidFile = .pid pid ∧ Signal.accepts h pid = true := by
  unfold stateOn
  cases PidFile.read h.disk s.pidFile with
  | pid n =>
    dsimp only
    split
    · next hacc =>
      constructor
      · intro hs
        cases hs
        exact ⟨rfl, hacc⟩
      · intro hs
        cases hs.1
        rfl
    · next hno =>
      constructor
      · intro hs
        cases hs
      · intro hs
        cases hs.1
        exact absurd hs.2 hno
  | missing => simp
  | unreadable cause => simp
  | corrupt content => simp

/-- The process that the pid file names. -/
def Names (s : Supervisor) (h : Host) (pid : Nat) : Prop :=
  PidFile.read h.disk s.pidFile = .pid pid ∧ h.isAlive pid = true

/-- A pid that takes a signal is that of a process which lives. -/
lemma names_of_accepts (hr : PidFile.read h.disk s.pidFile = .pid pid)
    (ha : Signal.accepts h pid = true) : s.Names h pid :=
  ⟨hr, (Signal.accepts_iff.mp ha).2⟩

/-- **A daemon started.**

**Proof sketch.** By the ways in which a start ends. In all but one no process is left behind. -/
theorem tended_start (s : Supervisor) (targets : Nat → Prop) (h : Host) :
    Host.Tended s.command targets h (s.start h).2 := by
  have hlaunching : Host.Tended s.command targets h (h.launching s.command) :=
    .of_calm (.launching s.command) rfl (List.append_assoc _ _ _) (by simp [Event.isDaemonic])
      (by simp) (by simp)
  rcases s.start_cases h with ⟨fault, hr | hr⟩ | ⟨hr, -⟩ | ⟨pidFile, c, hr, -, hw⟩ <;> rw [hr]
  · exact .of_calm (.of_launched s.command) rfl rfl (by simp [Event.isDaemonic]) (by simp) (by simp)
  · exact hlaunching
  · exact hlaunching.trans (.log rfl)
  · exact (Host.Tended.leftBehind hw).trans (.log rfl)

/-- The host on which the process that a pid file names has been stopped. -/
lemma tended_stopped (ha : Signal.accepts h pid = true)
    (hr : PidFile.read h.disk s.pidFile = .pid pid) :
    Host.Tended s.command (s.Names h) h (h.stopped pid) := by
  refine .of_calm (.stopped h pid) rfl (h.journal_stopped pid) (by simp [Event.isDaemonic])
    (fun p signal hp => ?_) (by simp)
  have hpid : p = pid := by
    simp only [List.mem_cons, Event.signalled.injEq, reduceCtorEq, List.not_mem_nil,
      or_false] at hp
    exact hp.1
  rw [hpid]
  exact names_of_accepts hr ha

/-- **A daemon stopped.**

**Proof sketch.** Case by case on what the pid file holds. Only where it names a process that takes
a signal is one killed; in the other cases nothing is done, or something is logged. -/
theorem tended_stop (s : Supervisor) (h : Host) :
    Host.Tended s.command (s.Names h) h (s.stop h).2 := by
  cases hr : PidFile.read h.disk s.pidFile with
  | pid p =>
    by_cases ha : Signal.accepts h p = true
    · rw [stop_of_accepts hr ha]
      exact tended_stopped ha hr
    · obtain ⟨fault, hsend⟩ := Signal.send_of_not_accepts (by simpa using ha) Signal.terminate
      have hsame : (s.stop h).2 = h := by
        unfold stop
        rw [run_bind, run_ask, hr]
        dsimp only
        rw [run_bind, run_attempt, hsend]
        cases fault <;> rfl
      rw [hsame]
      exact .refl _ _ h
  | missing =>
    unfold stop
    rw [run_bind, run_ask, hr]
    exact .refl _ _ h
  | unreadable cause =>
    unfold stop
    rw [run_bind, run_ask, hr]
    exact .refl _ _ h
  | corrupt content =>
    unfold stop
    rw [run_bind, run_ask, hr]
    exact .log rfl

/-- **A daemon told to read its files again**, or started.

**Proof sketch.** A daemon that does not run is started. One that runs is sent a signal that does
not kill it, and its pid is the one in its pid file. -/
theorem tended_hup (s : Supervisor) (h : Host) :
    Host.Tended s.command (s.Names h) h (s.hup h).2 := by
  cases hs : s.stateOn h with
  | notRunning =>
    rw [hup_of_notRunning hs]
    exact s.tended_start _ h
  | running p =>
    obtain ⟨hr, ha⟩ := stateOn_eq_running_iff.mp hs
    rw [hup_of_running hs]
    refine .of_calm (.record (by simp)) rfl rfl (by simp [Event.isDaemonic])
      (fun q signal hq => ?_) (by simp)
    have hpid : q = p := by
      simp only [List.mem_singleton, Event.signalled.injEq] at hq
      exact hq.1
    rw [hpid]
    exact names_of_accepts hr ha

/-- A process that was killed takes no signal. -/
lemma accepts_stopped (h : Host) (pid : Nat) : Signal.accepts (h.stopped pid) pid = false := by
  rw [← Bool.not_eq_true, Signal.accepts_iff, h.isAlive_stopped pid]
  exact fun hl => absurd hl.2 (by decide)

/-- The daemon whose pid file named it does not run. -/
lemma stateOn_stopped (hr : PidFile.read h.disk s.pidFile = .pid pid) :
    s.stateOn (h.stopped pid) = .notRunning := by
  have hsame : PidFile.read (h.stopped pid).disk s.pidFile = .pid pid := hr
  unfold stateOn
  rw [hsame]
  dsimp only
  rw [if_neg (by rw [accepts_stopped]; simp)]

/-- A daemon that runs is restarted by being stopped and started.

**Proof sketch.** The process named is stopped, so that it takes no signal any more when it is
asked for, and a new one is started. -/
lemma restartIfRunning_of_running (hs : s.stateOn h = .running pid) :
    s.restartIfRunning h = s.start (h.stopped pid) := by
  obtain ⟨hr, ha⟩ := stateOn_eq_running_iff.mp hs
  have hdead := accepts_stopped h pid
  unfold restartIfRunning state
  rw [run_bind, run_lift, hs]
  dsimp only
  rw [run_bind, stop_of_accepts hr ha]
  dsimp only
  rw [run_bind, run_ask, hdead]
  rfl

/-- A daemon that does not run is not restarted. -/
lemma restartIfRunning_of_notRunning (hs : s.stateOn h = .notRunning) :
    s.restartIfRunning h = (.ok (), h) := by
  unfold restartIfRunning state
  rw [run_bind, run_lift, hs]
  rfl

/-- **A daemon restarted**, if it runs. -/
theorem tended_restartIfRunning (s : Supervisor) (h : Host) :
    Host.Tended s.command (s.Names h) h (s.restartIfRunning h).2 := by
  cases hs : s.stateOn h with
  | notRunning =>
    rw [restartIfRunning_of_notRunning hs]
    exact .refl _ _ h
  | running p =>
    obtain ⟨hr, ha⟩ := stateOn_eq_running_iff.mp hs
    rw [restartIfRunning_of_running hs]
    exact (tended_stopped ha hr).trans (s.tended_start _ _)

/-- **A daemon that has been stopped** does not run, nor does one that could not be.

**Proof sketch.** If the process of the pid file takes signals, it is killed. If not, it did not
run before, and stopping changes nothing but the journal. -/
theorem stateOn_stop (s : Supervisor) (h : Host) : s.stateOn (s.stop h).2 = .notRunning := by
  by_cases hacc : ∃ p : Nat, PidFile.read h.disk s.pidFile = .pid p ∧ Signal.accepts h p = true
  · obtain ⟨p, hr, ha⟩ := hacc
    rw [stop_of_accepts hr ha]
    exact stateOn_stopped hr
  · have hno : s.stateOn h = .notRunning := by
      cases hs : s.stateOn h with
      | notRunning => rfl
      | running p => exact absurd ⟨p, stateOn_eq_running_iff.mp hs⟩ hacc
    rcases s.stop_of_not_accepts hacc with hr | ⟨fault, hr⟩ | ⟨entry, hr⟩ <;> rw [hr]
    · exact hno
    · exact hno
    · exact hno

end Supervisor

end ResolverMesh
