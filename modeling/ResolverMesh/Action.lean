import ResolverMesh.Host.Basic

set_option autoImplicit false
set_option relaxedAutoImplicit false

/-!
# Queries and actions

A query looks at the host and leaves it as it is, by its type. An action may change the host, and
what it has changed stays changed if it fails.

## Main definitions

* `ResolverMesh.Query` — a question to the host that may fail.
* `ResolverMesh.Action` — a change of the host that may fail. A query is an action.
* `ResolverMesh.Action.attempt` — an action whose failure is its result.
* `ResolverMesh.Action.record`, `ResolverMesh.Action.log` — leaving an event or a log entry.
* `ResolverMesh.Action.onDisk` — a request to the disk.

## Main results

* `ResolverMesh.Query.run_bind`, `ResolverMesh.Action.run_bind` — one thing after another.
-/

namespace ResolverMesh

/-- A question to the host that may fail. -/
abbrev Query (α : Type) := ReaderT Host (Except Fault) α

/-- A change of the host that may fail; what was changed before the failure stays changed. -/
abbrev Action (α : Type) := ExceptT Fault (StateM Host) α

namespace Action

/-- A query as an action that changes nothing. -/
def ask {α : Type} (q : Query α) : Action α :=
  fun h => (q h, h)

instance : MonadLift Query Action := ⟨ask⟩

/-- An action whose failure is its result. -/
def attempt {α : Type} (x : Action α) : Action (Except Fault α) := fun h =>
  let done := x h
  (.ok done.1, done.2)

/-- An action that changes the host and cannot fail. -/
def change (f : Host → Host) : Action Unit :=
  fun h => (.ok (), f h)

/-- One effect. -/
def record (e : Event) : Action Unit :=
  change (·.record e)

/-- One entry of the log. -/
def log (entry : LogEntry) : Action Unit :=
  record (.logged entry)

/-- A request to the disk, with the event that it leaves at the place it changes. It is made as a
whole, or refused and then changes nothing. -/
def onDisk (request : Disk → Except IoError Disk.Change) (event : Location → Event) :
    Action Unit :=
  fun h =>
    match request h.disk with
    | .error e => (.error (.io e), h)
    | .ok c => (.ok (), { h with disk := c.disk }.record (event c.loc))

/-! ## Running -/

/-- A result leaves the host as it is. -/
@[simp]
theorem run_pure {α : Type} (a : α) (h : Host) : (pure a : Action α) h = (.ok a, h) := rfl

/-- So does a failure. -/
@[simp]
theorem run_throw {α : Type} (fault : Fault) (h : Host) :
    (throw fault : Action α) h = (.error fault, h) := rfl

/-- One action after another: the second runs on the host that the first leaves, unless the first
fails. -/
theorem run_bind {α β : Type} (x : Action α) (f : α → Action β) (h : Host) :
    (x >>= f) h =
      match x h with
      | (.ok a, k) => f a k
      | (.error fault, k) => (.error fault, k) := by
  simp only [bind, ExceptT.bind, ExceptT.mk, StateT.bind]
  rcases x h with ⟨fault | a, k⟩ <;> rfl

/-- A query is answered from the host, and leaves it as it is. -/
@[simp]
theorem run_ask {α : Type} (q : Query α) (h : Host) : ask q h = (q h, h) := rfl

/-- So is a query within an action. -/
@[simp]
theorem run_lift {α : Type} (q : Query α) (h : Host) : (liftM q : Action α) h = (q h, h) := rfl

/-- An attempt always gives a result: what the action came to. -/
@[simp]
theorem run_attempt {α : Type} (x : Action α) (h : Host) :
    attempt x h = (.ok (x h).1, (x h).2) := rfl

/-- A change gives nothing but the changed host. -/
@[simp]
theorem run_change (f : Host → Host) (h : Host) : change f h = (.ok (), f h) := rfl

/-- An effect is recorded on the host. -/
@[simp]
theorem run_record (e : Event) (h : Host) : record e h = (.ok (), h.record e) := rfl

/-- A line of the log is recorded like any effect. -/
@[simp]
theorem run_log (entry : LogEntry) (h : Host) :
    log entry h = (.ok (), h.record (.logged entry)) := rfl

end Action

namespace Query

/-- A result asks nothing of the host. -/
@[simp]
theorem run_pure {α : Type} (a : α) (h : Host) : (pure a : Query α) h = .ok a := rfl

/-- Neither does a failure. -/
@[simp]
theorem run_throw {α : Type} (fault : Fault) (h : Host) :
    (throw fault : Query α) h = .error fault := rfl

/-- One query after another, on the same host. -/
theorem run_bind {α β : Type} (x : Query α) (f : α → Query β) (h : Host) :
    (x >>= f) h =
      match x h with
      | .ok a => f a h
      | .error fault => .error fault := by
  change (x h >>= fun a => f a h) = _
  cases x h <;> rfl

end Query

end ResolverMesh
