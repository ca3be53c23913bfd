import ResolverMesh.Host.Files

set_option autoImplicit false
set_option relaxedAutoImplicit false

/-!
# The lock on the root

All changes under a root are made by the holder of the lock on it. The lock belongs to what the
root's path leads to, not to the path, and is exclusive.

## Main definitions

* `ResolverMesh.LockGuard` — a lock that is held.
* `ResolverMesh.LockGuard.acquire`, `ResolverMesh.LockGuard.acquireExisting` — taking a lock, with
  the root created or not.
* `ResolverMesh.LockGuard.release` — giving it back.
* `ResolverMesh.LockGuard.hold` — an action under a lock, which is given back however it ends.
-/

namespace ResolverMesh

/-- A lock that is held. -/
structure LockGuard where
  /-- The path that was locked. -/
  path : Path
  /-- The identity of what the path led to. -/
  id : Nat
  deriving DecidableEq, Repr

namespace LockGuard

/-- The permission bits of a root that is created for its lock. -/
def rootMode : Nat := 0o755

/-- The lock on what a path leads to. If it is held, the request waits for its whole timeout and
fails. -/
def acquireExisting (root : Path) (timeout : Elapsed) : Action LockGuard := fun h =>
  match h.disk.find root with
  | .error e => (.error (.io e), h)
  | .ok found =>
    let id := found.entry.id?.getD 0
    if h.held.contains id then (.error (.lockTimeout root timeout), h)
    else (.ok ⟨root, id⟩, { h with held := id :: h.held })

/-- The lock on a directory, which is created if it is missing. -/
def acquire (root : Path) (timeout : Elapsed) : Action LockGuard := do
  Files.makeDirectories rootMode root
  acquireExisting root timeout

/-- A lock given back. -/
def release (g : LockGuard) (h : Host) : Host :=
  { h with held := h.held.erase g.id }

/-- An action under a lock. The lock is given back however the action ends. -/
def hold {α : Type} (take : Action LockGuard) (body : Action α) : Action α := fun h =>
  match take h with
  | (.error fault, h) => (.error fault, h)
  | (.ok g, h) =>
    let done := body h
    (done.1, g.release done.2)

end LockGuard

end ResolverMesh
