import ResolverMesh.Action

set_option autoImplicit false
set_option relaxedAutoImplicit false

/-!
# The forwarding chain hook

The mesh asks a hook to keep the forwarding chain of an interface, and to remove it. What the
hook answers may depend on everything that it has been asked before.

## Main definitions

* `ResolverMesh.ChainHook` — a hook.
* `ResolverMesh.ChainHook.call` — a request to it.
-/

namespace ResolverMesh

/-- A forwarding chain hook: the fault of a request after the requests made so far, if any. -/
structure ChainHook where
  /-- The fault of a request, given those before it, oldest first. -/
  refusal : List ChainCall → ChainCall → Option Fault

namespace ChainHook

/-- The hook that does nothing and never fails. -/
def idle : ChainHook := ⟨fun _ _ => none⟩

/-- A request to the hook. -/
def call (c : ChainHook) (request : ChainCall) : Action Unit := do
  let past ← Action.ask (fun h => .ok h.chainCalls)
  Action.record (.chain request)
  match c.refusal past request with
  | none => return
  | some fault => throw fault

end ChainHook

end ResolverMesh
