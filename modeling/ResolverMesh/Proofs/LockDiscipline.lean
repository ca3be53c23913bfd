import ResolverMesh.Proofs.Supervision

set_option autoImplicit false
set_option relaxedAutoImplicit false

/-!
# Lock discipline

Locks are taken by guards that somebody holds for a while, and by the operations, which give
theirs back before they return. In any sequence of both, the locks that are held are those of the
guards that are alive: every operation returns with the locks that it found, on each of its ways
out, and a lock that is held turns everybody else away.

## Main definitions

* `ResolverMesh.Custody` — a host and the guards that are alive on it.
* `ResolverMesh.LockMove`, `ResolverMesh.Custody.play` — one move, and a sequence of them.
* `ResolverMesh.Custody.Accounted` — the locks that are held are those of the guards.
* `ResolverMesh.Mesh.LocksOut` — the operations of a mesh find the lock on its root held.
* `ResolverMesh.Custody.IsDisciplined` — what holds of locks at any time.

## Main results

* `ResolverMesh.Mesh.held_add`, `ResolverMesh.Mesh.held_del` — an operation returns with the locks
  that it found.
* `ResolverMesh.Custody.Accounted.step` — any move.
* `ResolverMesh.lock_discipline` — lock discipline, after any sequence of moves.
-/

namespace ResolverMesh

open ResolverMesh.Action Disk

/-! ## Taking a lock -/

namespace LockGuard

variable {root : Path} {timeout : Elapsed} {h k : Host} {loc : Location} {id mode : Nat}

/-- Which locks are held is no matter of what else changes on the host. -/
lemma stable_held (ids : List Nat) : Host.Stable (·.held = ids) where
  record hh _ := hh
  disk _ hh := hh
  programs _ hh := hh
  addProcess hh := hh
  kill _ hh := hh

/-- A request for a lock fails and takes none, or it takes one that was free. -/
def Takes (take : Action LockGuard) : Prop :=
  ∀ h, ∃ k, k.held = h.held ∧
    ((∃ fault, take h = (.error fault, k)) ∨
      ∃ g, g.id ∉ h.held ∧ take h = (.ok g, { k with held := g.id :: k.held }))

/-- A lock on what a path leads to is taken if it is free.

**Proof sketch.** Nothing is changed before the lock is asked for, and what is locked is what the
path leads to. -/
lemma takes_acquireExisting (root : Path) (timeout : Elapsed) :
    Takes (acquireExisting root timeout) := by
  intro h
  refine ⟨h, rfl, ?_⟩
  unfold acquireExisting
  split
  · exact .inl ⟨_, rfl⟩
  · next found hf =>
    dsimp only
    split
    · exact .inl ⟨_, rfl⟩
    · next hfree => exact .inr ⟨⟨root, found.entry.id?.getD 0⟩, by simpa using hfree, rfl⟩

/-- Acquiring the lock of a root takes it or fails, and the directories made first hold no lock.

**Proof sketch.** Making the root leaves the locks as they are. The rest is acquiring the lock of a
root that is there. -/
lemma takes_acquire (root : Path) (timeout : Elapsed) : Takes (acquire root timeout) := by
  intro h
  have hheld : (Files.makeDirectories rootMode root h).2.held = h.held :=
    (stable_held h.held).keeps_makeDirectories _ _ h rfl
  unfold acquire
  rw [run_bind]
  rcases hm : Files.makeDirectories rootMode root h with ⟨fault | u, k⟩ <;> rw [hm] at hheld
  · exact ⟨k, hheld, .inl ⟨fault, rfl⟩⟩
  · obtain ⟨l, hl, hcases⟩ := takes_acquireExisting root timeout k
    refine ⟨l, hl.trans hheld, ?_⟩
    rw [show k.held = h.held from hheld] at hcases
    exact hcases

/-- A directory whose lock is held: the request waits in vain. -/
lemma acquireExisting_of_held (hf : h.disk.find root = .ok ⟨loc, .directory id mode⟩)
    (hheld : id ∈ h.held) :
    acquireExisting root timeout h = (.error (.lockTimeout root timeout), h) := by
  unfold acquireExisting
  rw [hf]
  exact if_pos (by simpa [Entry.id?] using hheld)

/-- A directory whose lock is free. -/
lemma acquireExisting_of_free (hf : h.disk.find root = .ok ⟨loc, .directory id mode⟩)
    (hfree : id ∉ h.held) :
    acquireExisting root timeout h = (.ok ⟨root, id⟩, { h with held := id :: h.held }) := by
  unfold acquireExisting
  rw [hf]
  exact if_neg (by simpa [Entry.id?] using hfree)

/-- For a directory that is there it makes no difference whether it would be created. -/
lemma acquire_eq_acquireExisting (hf : h.disk.find root = .ok ⟨loc, .directory id mode⟩) :
    acquire root timeout h = acquireExisting root timeout h := by
  unfold acquire
  rw [run_bind, Files.makeDirectories_of_find hf rootMode]

/-- **An action under a lock** returns with the locks that it found, if it does so itself.

**Proof sketch.** If the lock is refused, nothing is held. If not, its identity is put in front of
the locks, and is the first to be erased in the end. -/
theorem held_hold {α : Type} {take : Action LockGuard} {body : Action α} (ht : Takes take)
    (hb : ∀ ids, Keeps (·.held = ids) body) (h : Host) : (hold take body h).2.held = h.held := by
  obtain ⟨k, hk, ⟨fault, hr⟩ | ⟨g, -, hr⟩⟩ := ht h
  · unfold hold
    rw [hr]
    exact hk
  · unfold hold release
    rw [hr]
    dsimp only
    rw [hb (g.id :: k.held) _ rfl, List.erase_cons_head, hk]

/-- An action under a lock that is held by somebody else. -/
lemma hold_of_error {α : Type} {take : Action LockGuard} {fault : Fault} (body : Action α)
    (hr : take h = (.error fault, k)) : hold take body h = (.error fault, k) := by
  unfold hold
  rw [hr]

end LockGuard

open LockGuard

/-! ## The locks of the operations -/

namespace Mesh

variable (m : Mesh) (a : Attachment) (h : Host)

/-- **Attaching a pod** returns with the locks that it found. -/
theorem held_add : (m.add a h).2.held = h.held := by
  have hlocked : ∀ i, Keeps (·.held = h.held) (m.locked (m.provisionOrUndo i a)) := by
    rintro i k hk
    rw [← hk]
    exact held_hold (takes_acquire _ _) (fun ids =>
      (stable_held ids).keeps_provisionOrUndo m i a fun _ _ hh => hh) k
  exact Keeps.bind (P := (·.held = h.held)) (keeps_lift _)
    (fun i => .bind (hlocked i) fun _ => keeps_pure _) h rfl

/-- **Detaching a pod** returns with the locks that it found. -/
theorem held_del : (m.del a h).2.held = h.held := by
  have hlocked : ∀ i, Keeps (·.held = h.held) (m.locked (m.cleanUp i a)) := by
    rintro i k hk
    rw [← hk]
    exact held_hold (takes_acquire _ _) (fun ids =>
      (stable_held ids).keeps_cleanUp m i a fun _ _ hh => hh) k
  exact Keeps.bind (P := (·.held = h.held)) (keeps_lift _) hlocked h rfl

/-- A turn leaves the held locks as they are.

**Proof sketch.** Turn by turn: an operation gives back what it has taken, a killed process has no
locks, and a check leaves the host as it is. -/
lemma held_takeTurn (turn : Turn) : (m.takeTurn h turn).held = h.held := by
  cases turn with
  | move move =>
    cases move with
    | add a =>
      unfold takeTurn
      dsimp only
      rw [step_add]
      exact m.held_add a h
    | del a => exact m.held_del a h
    | kill pid =>
      unfold takeTurn
      dsimp only
      rw [step_kill]
      exact (stable_held h.held).keeps_send _ _ h rfl
  | check a => exact congrArg Host.held (m.check_eq a h)

/-- The operations on a pod find the lock on the root held: each of them reports that, and leaves
the host as it is. -/
structure LocksOut : Prop where
  /-- The pod is not attached. -/
  add : m.add a h = (.error (.lockTimeout m.settings.rootDir m.settings.lockTimeout), h)
  /-- The pod is not detached. -/
  del : m.del a h = (.error (.lockTimeout m.settings.rootDir m.settings.lockTimeout), h)
  /-- The network is not checked. -/
  check : m.check a h = (.error (.lockTimeout m.settings.rootDir m.settings.lockTimeout), h)

variable {m a h}

/-- An operation whose lock is held by somebody else. -/
lemma locked_of_held {α : Type} {loc : Location} {id mode : Nat} (body : Action α)
    (hf : h.disk.find m.settings.rootDir = .ok ⟨loc, .directory id mode⟩) (hheld : id ∈ h.held) :
    m.locked body h = (.error (.lockTimeout m.settings.rootDir m.settings.lockTimeout), h) := by
  refine hold_of_error body ?_
  rw [acquire_eq_acquireExisting hf]
  exact acquireExisting_of_held hf hheld

/-- **A root that is locked** locks out every pod whose network can be told.

**Proof sketch.** The request is resolved, and the root is there, so each of the operations comes
to take the lock, and is refused it. -/
theorem locksOut_of_held {i : Instance} {loc : Location} {id mode : Nat}
    (hres : m.resolve a h = .ok i)
    (hf : h.disk.find m.settings.rootDir = .ok ⟨loc, .directory id mode⟩) (hheld : id ∈ h.held) :
    m.LocksOut a h := by
  have hdir : h.disk.isDirectory m.settings.rootDir = true := by
    simp [Disk.isDirectory, leadsTo, hf, Entry.isDirectory]
  constructor
  · unfold add
    rw [run_bind, run_lift, hres]
    dsimp only
    rw [run_bind, locked_of_held _ hf hheld]
  · unfold del
    rw [run_bind, run_lift, hres]
    exact locked_of_held _ hf hheld
  · unfold check
    rw [run_bind, run_lift, hres]
    dsimp only
    rw [run_bind, run_lift]
    unfold Files.isDirectory
    dsimp only
    rw [if_pos hdir]
    exact hold_of_error _ (acquireExisting_of_held hf hheld)

end Mesh

/-! ## Guards and operations in sequence -/

/-- A host and the guards that are alive on it. -/
structure Custody where
  /-- The host. -/
  host : Host
  /-- The guards, the newest first. -/
  guards : List LockGuard

/-- One move: a lock is asked for, a guard is dropped, or a mesh takes a turn. -/
inductive LockMove
  /-- The lock on a directory is asked for, which is created if it is missing. -/
  | acquire (root : Path) (timeout : Elapsed)
  /-- The lock on what a path leads to is asked for. -/
  | acquireExisting (root : Path) (timeout : Elapsed)
  /-- A guard is dropped, if it is alive. -/
  | drop (g : LockGuard)
  /-- A mesh takes a turn, without regard to the guards. -/
  | turn (m : Mesh) (turn : Turn)

namespace Custody

/-- A lock asked for: a guard more, if it is given. -/
def take (c : Custody) (request : Action LockGuard) : Custody :=
  match request c.host with
  | (.ok g, h) => ⟨h, g :: c.guards⟩
  | (.error _, h) => ⟨h, c.guards⟩

/-- What a move leads to. -/
def step (c : Custody) : LockMove → Custody
  | .acquire root timeout => c.take (LockGuard.acquire root timeout)
  | .acquireExisting root timeout => c.take (LockGuard.acquireExisting root timeout)
  | .drop g => if g ∈ c.guards then ⟨g.release c.host, c.guards.erase g⟩ else c
  | .turn m turn => ⟨m.takeTurn c.host turn, c.guards⟩

/-- What a sequence of moves leads to. -/
def play (c : Custody) (moves : List LockMove) : Custody :=
  moves.foldl step c

/-- The locks that are held are those of the guards, one for each. -/
structure Accounted (c : Custody) : Prop where
  /-- What is held is held by a guard. -/
  held_eq : c.host.held = c.guards.map LockGuard.id
  /-- No two guards are for one directory. -/
  nodup : (c.guards.map LockGuard.id).Nodup

namespace Accounted

variable {c : Custody} (hc : c.Accounted)

include hc

/-- A lock is held just if a guard holds it. -/
lemma mem_held_iff (id : Nat) : id ∈ c.host.held ↔ ∃ g ∈ c.guards, g.id = id := by
  rw [hc.held_eq]
  exact List.mem_map

/-- A lock that is taken is accounted for by its guard. -/
lemma take {request : Action LockGuard} (hr : Takes request) : (c.take request).Accounted := by
  unfold Custody.take
  obtain ⟨k, hk, ⟨fault, hrun⟩ | ⟨g, hfree, hrun⟩⟩ := hr c.host <;> rw [hrun]
  · exact ⟨hk.trans hc.held_eq, hc.nodup⟩
  · rw [hc.held_eq] at hk hfree
    exact ⟨congrArg (g.id :: ·) hk, List.nodup_cons.mpr ⟨hfree, hc.nodup⟩⟩

/-- The locks of the guards but for one that is dropped. -/
lemma map_erase {g : LockGuard} (hg : g ∈ c.guards) :
    (c.guards.erase g).map LockGuard.id = (c.guards.map LockGuard.id).erase g.id := by
  obtain ⟨before, after, hnot, hsplit, herase⟩ := List.exists_erase_eq hg
  have hid : g.id ∉ before.map LockGuard.id := by
    have hnodup := hc.nodup
    rw [hsplit, List.map_append, List.map_cons, List.nodup_append'] at hnodup
    exact fun hm => hnodup.2.2 hm (List.mem_cons_self ..)
  rw [herase, hsplit, List.map_append, List.map_append, List.map_cons,
    List.erase_append_right _ hid, List.erase_cons_head]

/-- A guard that is dropped gives its lock back. -/
lemma drop {g : LockGuard} (hg : g ∈ c.guards) :
    (⟨g.release c.host, c.guards.erase g⟩ : Custody).Accounted := by
  constructor
  · unfold LockGuard.release
    dsimp only
    rw [hc.held_eq, hc.map_erase hg]
  · rw [hc.map_erase hg]
    exact hc.nodup.erase _

/-- **Any move** leaves the held locks accounted for.

**Proof sketch.** By the kind of move. A guard can be dropped only if there is one. -/
theorem step (move : LockMove) : (c.step move).Accounted := by
  cases move with
  | acquire root timeout => exact hc.take (takes_acquire root timeout)
  | acquireExisting root timeout => exact hc.take (takes_acquireExisting root timeout)
  | drop g =>
    unfold Custody.step
    dsimp only
    split
    · next hg => exact hc.drop hg
    · exact hc
  | turn m turn => exact ⟨(m.held_takeTurn c.host turn).trans hc.held_eq, hc.nodup⟩

/-- The locks are accounted for after any sequence of moves. -/
theorem play (moves : List LockMove) : (c.play moves).Accounted := by
  induction moves generalizing c with
  | nil => exact hc
  | cons move moves ih => exact ih (hc.step move)

end Accounted

/-! ## Lock discipline -/

/-- Somebody holds the lock on the directory of an identity. -/
def IsLocked (c : Custody) (id : Nat) : Prop :=
  ∃ g ∈ c.guards, g.id = id

/-- What holds of locks at any time. -/
structure IsDisciplined (c : Custody) : Prop where
  /-- There is at most one guard for a directory. -/
  atMostOne : (c.guards.map LockGuard.id).Nodup
  /-- The lock on a directory that nobody holds is given to who asks for it. -/
  given : ∀ root timeout loc id mode, c.host.disk.find root = .ok ⟨loc, .directory id mode⟩ →
    ¬ c.IsLocked id → ∀ request ∈ [acquire root timeout, acquireExisting root timeout],
      request c.host = (.ok ⟨root, id⟩, { c.host with held := id :: c.host.held })
  /-- The lock on a directory that somebody holds is waited for in vain, and nothing is changed. -/
  refused : ∀ root timeout loc id mode, c.host.disk.find root = .ok ⟨loc, .directory id mode⟩ →
    c.IsLocked id → ∀ request ∈ [acquire root timeout, acquireExisting root timeout],
      request c.host = (.error (.lockTimeout root timeout), c.host)
  /-- A request that fails, whatever for, gives back nobody's lock. -/
  kept : ∀ root timeout, ∀ request ∈ [acquire root timeout, acquireExisting root timeout],
    ∀ fault k, request c.host = (.error fault, k) → k.held = c.host.held
  /-- A guard that is dropped gives back its own lock, and no other guard's. -/
  dropped : ∀ g ∈ c.guards, ∀ id, id ∈ (g.release c.host).held ↔ id ≠ g.id ∧ c.IsLocked id
  /-- Where somebody holds the lock on the root, no operation does anything. -/
  lockedOut : ∀ (m : Mesh) a i loc id mode, m.resolve a c.host = .ok i →
    c.host.disk.find m.settings.rootDir = .ok ⟨loc, .directory id mode⟩ → c.IsLocked id →
      m.LocksOut a c.host
  /-- Every operation returns with the locks that it found, however it ends. -/
  restored : ∀ (m : Mesh) a, (m.add a c.host).2.held = c.host.held ∧
    (m.del a c.host).2.held = c.host.held ∧ (m.check a c.host).2.held = c.host.held

/-- Where the held locks are accounted for, there is discipline.

**Proof sketch.** What is held is what the guards hold, so a lock is free just if no guard has it.
The answers of both requests then follow from whether the root's lock is free. -/
theorem Accounted.isDisciplined {c : Custody} (hc : c.Accounted) : c.IsDisciplined where
  atMostOne := hc.nodup
  given root timeout loc id mode hf hfree request hr := by
    have hnot : id ∉ c.host.held := fun hid => hfree ((hc.mem_held_iff id).mp hid)
    rcases List.mem_pair.mp hr with rfl | rfl
    · rw [acquire_eq_acquireExisting hf]
      exact acquireExisting_of_free hf hnot
    · exact acquireExisting_of_free hf hnot
  refused root timeout loc id mode hf hlocked request hr := by
    have hheld := (hc.mem_held_iff id).mpr hlocked
    rcases List.mem_pair.mp hr with rfl | rfl
    · rw [acquire_eq_acquireExisting hf]
      exact acquireExisting_of_held hf hheld
    · exact acquireExisting_of_held hf hheld
  kept root timeout request hr fault k hrun := by
    have htakes : Takes request := by
      rcases List.mem_pair.mp hr with rfl | rfl
      · exact takes_acquire root timeout
      · exact takes_acquireExisting root timeout
    obtain ⟨l, hl, ⟨fault', hrun'⟩ | ⟨g, -, hrun'⟩⟩ := htakes c.host <;> rw [hrun] at hrun'
    · cases hrun'
      exact hl
    · cases hrun'
  dropped g hg id := by
    have hnodup := hc.nodup
    rw [← hc.held_eq] at hnodup
    exact hnodup.mem_erase_iff.trans (and_congr_right fun _ => hc.mem_held_iff id)
  lockedOut m a i loc id mode hres hf hlocked :=
    Mesh.locksOut_of_held hres hf ((hc.mem_held_iff id).mpr hlocked)
  restored m a := ⟨m.held_add a _, m.held_del a _, congrArg Host.held (m.check_eq a _)⟩

end Custody

namespace Sample

/-- A root that nobody holds the lock on. -/
def unguarded : Custody := ⟨host [daemon], []⟩

/-- The guard of the root. -/
def rootGuard : LockGuard := ⟨mesh.settings.rootDir, 5⟩

/-- The root is locked while a pod is to be added and another lock on it is asked for; once the
guard is dropped, the pod is added and the root is locked again. -/
def contention : List LockMove :=
  [.acquireExisting mesh.settings.rootDir (.ofMillis 0),
    .turn mesh (.move (.add (pod "a" "x" "p" (octets 10 1 0 1)))),
    .acquire mesh.settings.rootDir (.ofMillis 0), .drop rootGuard,
    .turn mesh (.move (.add (pod "a" "x" "p" (octets 10 1 0 1)))),
    .acquire mesh.settings.rootDir (.ofMillis 0)]

end Sample

/-- **Lock discipline.** From where no lock is held, take any sequence of requests for locks, of
guards dropped and of operations of any meshes, in any order and with any outcome. Then no
directory has two guards; the lock on a directory is given to who asks for it if no guard has it,
and waited for in vain if one has, which takes nothing from it; a guard that is dropped gives back
its own lock only; the operations on a root that somebody has locked report that and leave the host
as it is; and every operation returns with the locks that it found, however it ends.

**Proof sketch.** The held locks are those of the guards, one for each, and every move leaves it
so: an operation keeps the list of held locks but for the one that it takes at first and gives
back at last, whatever it does in between. -/
theorem lock_discipline {c : Custody} (hguards : c.guards = []) (hheld : c.host.held = [])
    (moves : List LockMove) : (c.play moves).IsDisciplined := by
  have hc : c.Accounted := by
    constructor
    · rw [hguards, hheld]
      rfl
    · rw [hguards]
      exact List.nodup_nil
  exact (hc.play moves).isDisciplined

/-- The guard that was taken first kept the pod and a second guard out. The pod was added once it
was dropped, and the guard of the end is alone again. -/
theorem lock_discipline_of_contention :
    (Sample.unguarded.play Sample.contention).IsDisciplined ∧
      (Sample.unguarded.play Sample.contention).guards = [Sample.rootGuard] ∧
      (Sample.unguarded.play (Sample.contention.take 3)).host.journal = [] ∧
      (Sample.unguarded.play Sample.contention).host.journal ≠ [] :=
  ⟨lock_discipline rfl rfl _, by decide +kernel, by decide +kernel, by decide +kernel⟩

end ResolverMesh
