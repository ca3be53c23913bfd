import Mathlib.Tactic.Lemma
import ResolverMesh.Lifecycle

set_option autoImplicit false
set_option relaxedAutoImplicit false

/-!
# Stable properties

An operation changes its host in few ways: it leaves an event, changes the disk, runs a program,
starts a process or kills one, and takes a lock or gives it back. A property that none of these
changes reaches is kept by every action that is made of them, wherever the paths in it lead. The
calls of the forwarding chain hook are left out at first, so that the property may be about them.

## Main definitions

* `ResolverMesh.Action.Keeps` — an action keeps a property.
* `ResolverMesh.Files.ensure` — a file written where it is missing.
* `ResolverMesh.Instance.demolish` — a network's daemon stopped and its directory removed.
* `ResolverMesh.Host.Stable` — no change of the host ends a property, calls of the hook and locks
  apart.

## Main results

* `ResolverMesh.Host.Stable.keeps_publish`, `ResolverMesh.Host.Stable.keeps_withdraw`,
  `ResolverMesh.Host.Stable.keeps_hup`, and one such lemma for every other action.
* `ResolverMesh.Host.Stable.keeps_provisionOrUndo`, `ResolverMesh.Host.Stable.keeps_cleanUp` — the
  operations, for a property that is no matter of the hook's calls.
-/

namespace ResolverMesh

open ResolverMesh.Action

/-! ## Keeping a property -/

/-- An action keeps a property of the host, however it ends. -/
def Action.Keeps {α : Type} (P : Host → Prop) (x : Action α) : Prop :=
  ∀ h, P h → P (x h).2

namespace Action

section Keeps

variable {α β : Type} {P : Host → Prop} {x : Action α}

/-- A result alone keeps everything. -/
lemma keeps_pure (a : α) : Keeps P (pure a) :=
  fun _ hp => hp

/-- So does a failure. -/
lemma keeps_throw (fault : Fault) : Keeps P (throw fault : Action α) :=
  fun _ hp => hp

/-- A query keeps everything, as it has no effect. -/
lemma keeps_ask (q : Query α) : Keeps P (ask q) :=
  fun _ hp => hp

/-- So does a query that an action asks on the way. -/
lemma keeps_lift (q : Query α) : Keeps P (liftM q : Action α) :=
  fun _ hp => hp

/-- An action that is attempted keeps what it keeps by itself. -/
lemma Keeps.attempt (hx : Keeps P x) : Keeps P (attempt x) :=
  hx

/-- Two actions, one after the other, keep what both keep. -/
lemma Keeps.bind {f : α → Action β} (hx : Keeps P x) (hf : ∀ a, Keeps P (f a)) :
    Keeps P (x >>= f) := by
  intro h hh
  have hk := hx h hh
  rw [run_bind]
  rcases hr : x h with ⟨fault | a, k⟩
  · rw [hr] at hk
    exact hk
  · rw [hr] at hk
    exact hf a k hk

/-- An action that goes on from the answer to a query, on the same host. -/
lemma Keeps.bind_lift {q : Query α} {f : α → Action β}
    (hf : ∀ h a, P h → q h = .ok a → P (f a h).2) : Keeps P (liftM q >>= f) := by
  intro h hh
  rw [run_bind, run_lift]
  cases hq : q h with
  | error fault => exact hh
  | ok a => exact hf h a hh hq

/-- An action under a lock, for a property that is no matter of locks.

**Proof sketch.** If the lock is not taken, the action is not begun. If it is, the locks held are
put back behind it. -/
lemma Keeps.hold {take : Action LockGuard} {body : Action α} (ht : Keeps P take)
    (hb : Keeps P body) (hheld : ∀ h ids, P h → P { h with held := ids }) :
    Keeps P (LockGuard.hold take body) := by
  intro h hh
  have hk := ht h hh
  unfold LockGuard.hold
  rcases hr : take h with ⟨fault | g, k⟩
  · rw [hr] at hk
    exact hk
  · rw [hr] at hk
    exact hheld _ _ (hb k hk)

end Keeps

end Action

/-! ## Files put in place -/

/-- A file is written where it is missing. -/
def Files.ensure (p : Path) (s : Text) : Action Unit := do
  unless ← isThere p do
    write p s

/-- A network's configuration is put in place after the file of forwarders that it names. -/
lemma Instance.ensureConfigFile_eq (i : Instance) (interface : Text) :
    i.ensureConfigFile interface = (do
      Files.ensure i.localServersFile []
      Files.ensure i.configFile (Text.unlines (i.configLines interface))) := by
  unfold ensureConfigFile Files.ensure
  rw [bind_assoc]
  congr 1
  funext there
  cases there <;> simp

/-- A file put in place keeps what is kept when it is written. -/
lemma Action.Keeps.ensure {P : Host → Prop} {p : Path} {s : Text}
    (hw : Keeps P (Files.write p s)) : Keeps P (Files.ensure p s) := by
  refine .bind (keeps_lift _) fun there => ?_
  split
  · exact keeps_pure _
  · exact hw

/-! ## Networks taken down -/

/-- What is done to a network itself when it is taken down: its daemon is stopped, and its directory
is removed. -/
def Instance.demolish (i : Instance) : Action Unit := do
  i.supervisor.stop
  Files.removeIfThere i.dir
  Action.log (.removedInstance i.network)

/-- A network is demolished once its lines are taken back from its siblings, if it was made known to
them. -/
lemma Mesh.tearDown_eq_demolish (m : Mesh) (i : Instance) (a : Attachment) : m.tearDown i a =
    if i.multiDomain then Propagation.withdraw m.settings i a.servers >>= fun _ => i.demolish
    else i.demolish := by
  unfold tearDown Instance.demolish
  cases i.multiDomain <;> simp

/-! ## The changes of a host -/

/-- No change of the host ends a property. The calls of the forwarding chain hook are no such
changes, and neither are the locks. -/
structure Host.Stable (P : Host → Prop) : Prop where
  /-- An effect is left. -/
  record : ∀ {h e}, P h → e.chainCall? = none → P (h.record e)
  /-- The disk changes. -/
  disk : ∀ {h} d, P h → P { h with disk := d }
  /-- A program has been run. -/
  programs : ∀ {h} f, P h → P { h with programs := f }
  /-- A process is started. -/
  addProcess : ∀ {h}, P h → P h.addProcess
  /-- A process dies. -/
  kill : ∀ {h} pid, P h → P (h.kill pid)

namespace Host.Stable

variable {P : Host → Prop} (hP : Host.Stable P)

include hP

/-! ## Requests to the disk -/

/-- A line of the log is no call of the hook. -/
lemma keeps_log (entry : LogEntry) : Keeps P (log entry) :=
  fun _ hh => hP.record hh rfl

/-- A request to the disk either fails, and changes nothing, or changes the disk and leaves one
effect, which must be no call of the hook. -/
lemma keeps_onDisk {request : Disk → Except IoError Disk.Change} {event : Location → Event}
    (he : ∀ loc, (event loc).chainCall? = none) : Keeps P (onDisk request event) := by
  intro h hh
  unfold onDisk
  split
  · exact hh
  · exact hP.record (hP.disk _ hh) (he _)

/-- A stable property survives the writing of a file. -/
lemma keeps_write (p : Path) (s : Text) : Keeps P (Files.write p s) :=
  hP.keeps_onDisk fun _ => rfl

/-- It survives that something is added to a file. -/
lemma keeps_append (p : Path) (s : Text) : Keeps P (Files.append p s) :=
  hP.keeps_onDisk fun _ => rfl

/-- It survives that a directory is made. -/
lemma keeps_makeDirectory (mode : Nat) (p : Path) : Keeps P (Files.makeDirectory mode p) :=
  hP.keeps_onDisk fun _ => rfl

/-- It survives that a tree is removed. -/
lemma keeps_removeAll (p : Path) : Keeps P (Files.removeAll p) :=
  hP.keeps_onDisk fun _ => rfl

omit hP in
/-- The fault of a directory that could not be made, unless there is one. -/
lemma keeps_unless_isDirectory (fault : Fault) (p : Path) : Keeps P (do
    unless ← Files.isDirectory p do
      throw fault) := by
  refine .bind (keeps_lift _) fun there => ?_
  split
  · exact keeps_pure _
  · exact keeps_throw _

/-- It survives that a directory is made unless it is there. -/
lemma keeps_settleDirectory (mode : Nat) (p : Path) : Keeps P (Files.settleDirectory mode p) := by
  refine .bind (hP.keeps_makeDirectory mode p).attempt fun r => ?_
  cases r with
  | ok _ => exact keeps_pure _
  | error fault => exact keeps_unless_isDirectory fault p

/-- It survives that a directory and all that are missing above it are made.

**Proof sketch.** Induction on the paths from the directory upwards. Where the making of one fails
because the next above it is missing, that one is made first, which is the induction hypothesis. -/
lemma keeps_makeFromAbove (mode : Nat) (paths : List Path) :
    Keeps P (Files.makeFromAbove mode paths) := by
  induction paths with
  | nil => exact keeps_throw _
  | cons p above ih =>
    unfold Files.makeFromAbove
    split
    · exact keeps_pure _
    · refine .bind (hP.keeps_makeDirectory mode p).attempt fun r => ?_
      cases r with
      | ok _ => exact keeps_pure _
      | error fault =>
        dsimp only
        split
        · exact .bind ih fun _ => hP.keeps_settleDirectory mode p
        · exact keeps_unless_isDirectory fault p

/-- It survives that a directory is made with those above it. -/
lemma keeps_makeDirectories (mode : Nat) (p : Path) : Keeps P (Files.makeDirectories mode p) :=
  hP.keeps_makeFromAbove _ _

/-- It survives that a tree is removed if it is there. -/
lemma keeps_removeIfThere (p : Path) : Keeps P (Files.removeIfThere p) := by
  refine .bind (hP.keeps_removeAll p).attempt fun r => ?_
  cases r with
  | ok _ => exact keeps_pure _
  | error fault =>
    dsimp only
    split
    · exact keeps_pure _
    · exact keeps_throw _

/-! ## Daemons -/

/-- It survives a signal: the process may be gone afterwards, and nothing else is.

**Proof sketch.** A pid that may not be sent a signal leaves the host as it is. Otherwise the
signal is noted, and the process goes if the signal ends it. -/
lemma keeps_send (pid signal : Int) : Keeps P (Signal.send pid signal) := by
  intro h hh
  unfold Signal.send
  split
  · exact hh
  · unfold Signal.deliver
    dsimp only
    have hsent := hP.record (e := .signalled pid.toNat signal) hh rfl
    split
    · exact hh
    · split
      · exact hP.kill _ hsent
      · exact hsent

/-- It survives the last steps of a daemon's start: the pid file written, and the process there. -/
lemma keeps_daemonize (command : List Text) (o : Outcome) (excuse : Excuse) :
    Keeps P (Launch.daemonize command o excuse) := by
  intro h hh
  unfold Launch.daemonize
  split
  · exact hh
  · split
    · exact hh
    · exact hP.record (hP.record (hP.addProcess (hP.disk _ hh)) rfl) rfl

/-- It survives the run of a program, however the run ends.

**Proof sketch.** The run is counted and noted first, and then a daemon is left behind or nothing
else happens. -/
lemma keeps_runProgram (command : List Text) : Keeps P (Launch.runProgram command) := by
  intro h hh
  have hbegan := hP.record (e := .began command) (hP.programs (fun n =>
    if n = Launch.programName command then (h.programs (Launch.programName command)).advance
    else h.programs n) hh) rfl
  unfold Launch.runProgram
  dsimp only
  split
  · exact hbegan
  · exact hbegan
  · exact hP.keeps_daemonize _ _ _ _ hbegan

/-- It survives a program that is run by its path, also where there is none at the path. -/
lemma keeps_run (program : Path) (args : List Text) : Keeps P (Launch.run program args) := by
  refine .bind (fun _ hh => hP.record hh rfl) fun _ => ?_
  dsimp only
  split
  · exact .bind (keeps_throw _) fun _ => .bind (keeps_ask _) fun _ => hP.keeps_runProgram _
  · exact .bind (keeps_ask _) fun _ => hP.keeps_runProgram _

variable (s : Supervisor)

/-- It survives that a daemon is started. -/
lemma keeps_start : Keeps P s.start := by
  refine .bind (hP.keeps_run _ _) fun finished => ?_
  split
  · exact hP.keeps_log _
  · exact keeps_throw _

/-- It survives that a daemon is stopped.

**Proof sketch.** By what the pid file holds, and by how the signal is taken. -/
lemma keeps_stop : Keeps P s.stop := by
  refine .bind (keeps_ask _) fun r => ?_
  cases r with
  | missing => exact keeps_pure _
  | unreadable cause => exact keeps_throw _
  | corrupt content => exact hP.keeps_log _
  | pid n =>
    refine .bind (hP.keeps_send _ _).attempt fun sent => ?_
    split
    · exact hP.keeps_log _
    · exact keeps_pure _
    · exact keeps_throw _

/-- It survives that a daemon reads its files again.

**Proof sketch.** A daemon that does not run, or is gone when the signal is sent, is started. -/
lemma keeps_hup : Keeps P s.hup := by
  refine .bind (keeps_lift _) fun state => ?_
  cases state with
  | notRunning => exact hP.keeps_start s
  | running n =>
    refine .bind (hP.keeps_send _ _).attempt fun sent => ?_
    split
    · exact keeps_pure _
    · exact hP.keeps_start s
    · exact keeps_throw _

/-- It survives that a daemon is restarted.

**Proof sketch.** A daemon that runs is stopped and started. If it outlives the signal, that is
logged. -/
lemma keeps_restartIfRunning : Keeps P s.restartIfRunning := by
  refine .bind (keeps_lift _) fun state => ?_
  cases state with
  | notRunning => exact keeps_pure _
  | running n =>
    refine .bind (hP.keeps_stop s) fun _ => .bind (keeps_ask _) fun b => ?_
    dsimp only
    split
    · exact .bind (hP.keeps_log _) fun _ => hP.keeps_start s
    · exact hP.keeps_start s

/-! ## Propagation -/

/-- It survives the update of one sibling. -/
lemma keeps_apply (u : SiblingUpdate) : Keeps P u.apply :=
  .bind (hP.keeps_write _ _) fun _ => hP.keeps_restartIfRunning _

/-- It survives the updates of several, by induction on their list. -/
lemma keeps_applyAll (us : List SiblingUpdate) : Keeps P (Propagation.applyAll us) := by
  induction us with
  | nil => exact keeps_pure _
  | cons u us ih => exact .bind (hP.keeps_apply u) fun _ => ih

/-- It survives that a network's servers are published. -/
lemma keeps_publish (s : Settings) (i : Instance) (servers : List Text) :
    Keeps P (Propagation.publish s i servers) := by
  refine .bind (hP.keeps_write _ _) fun _ => .bind (keeps_lift _) fun _ => ?_
  refine .bind (keeps_lift _) fun _ => .bind (keeps_lift _) fun found => ?_
  exact .bind (hP.keeps_applyAll _) fun _ => .bind (hP.keeps_write _ _) fun _ => hP.keeps_log _

/-- It survives that lines are withdrawn from a list of networks. -/
lemma keeps_withdrawFrom (s : Settings) (own names : List Text) :
    Keeps P (Propagation.withdrawFrom s own names) := by
  induction names with
  | nil => exact keeps_pure _
  | cons name names ih =>
    refine .bind (keeps_lift _) fun _ => .bind (keeps_lift _) fun _ => ?_
    dsimp only
    split
    · exact .bind (hP.keeps_apply _) fun _ => ih
    · exact ih

/-- It survives that a network's servers are withdrawn from all its siblings. -/
lemma keeps_withdraw (s : Settings) (i : Instance) (servers : List Text) :
    Keeps P (Propagation.withdraw s i servers) :=
  .bind (keeps_lift _) fun _ => .bind (hP.keeps_withdrawFrom _ _ _) fun _ => hP.keeps_log _

/-! ## The files of a network -/

/-- It survives that a daemon's configuration is written where it is missing. -/
lemma keeps_ensureConfigFile (i : Instance) (interface : Text) :
    Keeps P (i.ensureConfigFile interface) := by
  rw [Instance.ensureConfigFile_eq]
  exact .bind (.ensure (hP.keeps_write _ _)) fun _ => .ensure (hP.keeps_write _ _)

/-- It survives that default servers are added to a file of forwarders. -/
lemma keeps_addPlain (p : Path) (servers : List Text) :
    Keeps P (Forwarders.addPlain p servers) := by
  refine .bind (keeps_lift _) fun current => ?_
  dsimp only
  split
  · exact hP.keeps_write _ _
  · exact keeps_pure _

/-- It survives that a pod is taken out of a hosts file. -/
lemma keeps_removePod (p : Path) (pod : Text) : Keeps P (HostsFile.removePod p pod) := by
  refine .bind (keeps_lift _) fun r => ?_
  cases r with
  | none => exact keeps_pure _
  | some t => exact .bind (hP.keeps_write _ _) fun _ => keeps_pure _

/-! ## The parts of the operations -/

variable (m : Mesh) (i : Instance) (a : Attachment)

/-- What an attachment does after the hook was called.

**Proof sketch.** The steps are followed in the order in which they are taken. The file of
forwarders and the publication may be left out, so what comes after them is shown to keep the
property first. -/
lemma keeps_register : Keeps P (do
    HostsFile.append i.hostsFile a.podName a.aliases a.containerIps
    unless a.defaultServers.isEmpty do
      Forwarders.addPlain i.localServersFile a.defaultServers
    if i.multiDomain then
      unless ← i.supervisor.isRunning do
        Propagation.publish m.settings i a.servers
    i.supervisor.hup) := by
  refine .bind (hP.keeps_append _ _) fun _ => ?_
  have hrest : Keeps P (do
      if i.multiDomain then
        unless ← i.supervisor.isRunning do
          Propagation.publish m.settings i a.servers
      i.supervisor.hup) := by
    dsimp only
    split
    · refine .bind (keeps_lift _) fun b => ?_
      split
      · exact hP.keeps_hup _
      · exact .bind (hP.keeps_publish _ _ _) fun _ => hP.keeps_hup _
    · exact hP.keeps_hup _
  dsimp only at hrest ⊢
  split
  · exact hrest
  · exact .bind (hP.keeps_addPlain _ _) fun _ => hrest

/-- It survives that a network is demolished. -/
lemma keeps_demolish : Keeps P i.demolish :=
  .bind (hP.keeps_stop _) fun _ => .bind (hP.keeps_removeIfThere _) fun _ => hP.keeps_log _

/-- It survives that a network is taken down. -/
lemma keeps_tearDown : Keeps P (m.tearDown i a) := by
  rw [Mesh.tearDown_eq_demolish]
  split
  · exact .bind (hP.keeps_withdraw _ _ _) fun _ => hP.keeps_demolish i
  · exact hP.keeps_demolish i

/-- What is done of a clean-up after the hook was called. -/
lemma keeps_unregister : Keeps P (do
    if ← HostsFile.removePod i.hostsFile a.podName then
      i.supervisor.hup
    else
      m.tearDown i a) := by
  refine .bind (hP.keeps_removePod _ _) fun b => ?_
  split
  · exact hP.keeps_hup _
  · exact hP.keeps_tearDown m i a

/-! ## The operations -/

section Calls

variable (hcall : ∀ h call, P h → P (h.record (.chain call)))

omit hP in
include hcall in
/-- It survives a call of the hook, if that is no matter to it. -/
lemma keeps_call (c : ChainHook) (request : ChainCall) : Keeps P (c.call request) := by
  refine .bind (keeps_ask _) fun past => .bind (fun h hh => hcall h request hh) fun _ => ?_
  split
  · exact keeps_pure _
  · exact keeps_throw _

include hcall

/-- It survives that a pod is attached. -/
lemma keeps_provision : Keeps P (m.provision i a) :=
  .bind (hP.keeps_makeDirectories _ _) fun _ => .bind (hP.keeps_ensureConfigFile _ _) fun _ =>
    .bind (keeps_call hcall _ _) fun _ => hP.keeps_register m i a

/-- It survives that the chain is dropped, where a failure is only logged. -/
lemma keeps_dropChain : Keeps P (m.dropChain a) := by
  refine .bind (keeps_call hcall _ _).attempt fun r => ?_
  cases r with
  | ok _ => exact keeps_pure _
  | error fault => exact hP.keeps_log _

/-- It survives that a pod is detached. -/
lemma keeps_cleanUp : Keeps P (m.cleanUp i a) :=
  .bind (hP.keeps_dropChain m a hcall) fun _ => hP.keeps_unregister m i a

/-- It survives an attachment, and the cleanup that follows one that fails. -/
lemma keeps_provisionOrUndo : Keeps P (m.provisionOrUndo i a) := by
  refine .bind (hP.keeps_provision m i a hcall).attempt fun r => ?_
  cases r with
  | ok _ => exact keeps_pure _
  | error fault =>
    refine .bind (hP.keeps_cleanUp m i a hcall).attempt fun r => ?_
    cases r with
    | ok _ => exact keeps_throw _
    | error second => exact .bind (hP.keeps_log _) fun _ => keeps_throw _

end Calls

section Locks

variable (hheld : ∀ h ids, P h → P { h with held := ids })

omit hP in
include hheld in
/-- It survives that the lock of a root is taken, if held locks are no matter to it. -/
lemma keeps_acquireExisting (root : Path) (timeout : Elapsed) :
    Keeps P (LockGuard.acquireExisting root timeout) := by
  intro h hh
  unfold LockGuard.acquireExisting
  split
  · exact hh
  · dsimp only
    split
    · exact hh
    · exact hheld _ _ hh

include hheld

/-- It survives that the root is made first, too. -/
lemma keeps_acquire (root : Path) (timeout : Elapsed) :
    Keeps P (LockGuard.acquire root timeout) :=
  .bind (hP.keeps_makeDirectories _ _) fun _ => keeps_acquireExisting hheld _ _

variable (hcall : ∀ h call, P h → P (h.record (.chain call)))

include hcall

/-- **Attaching a pod** keeps a property that no change of the host ends. -/
theorem keeps_add : Keeps P (m.add a) :=
  .bind (keeps_lift _) fun i => .bind
    (.hold (hP.keeps_acquire hheld _ _) (hP.keeps_provisionOrUndo m i a hcall) hheld)
    fun _ => keeps_pure _

/-- **Detaching a pod** keeps a property that no change of the host ends. -/
theorem keeps_del : Keeps P (m.del a) :=
  .bind (keeps_lift _) fun i =>
    .hold (hP.keeps_acquire hheld _ _) (hP.keeps_cleanUp m i a hcall) hheld

end Locks

end Host.Stable

end ResolverMesh
