import ResolverMesh.Disk.Entry
import ResolverMesh.Host.LogEntry

set_option autoImplicit false
set_option relaxedAutoImplicit false

/-!
# Effects in order

Everything that an operation does to its host leaves an event behind, in the order in which it
happened. The file tree tells what an operation left; the events tell what came before what.

## Main definitions

* `ResolverMesh.ChainCall` — a request to the forwarding chain hook.
* `ResolverMesh.Event` — one effect.
-/

namespace ResolverMesh

/-- A request to the forwarding chain hook. -/
inductive ChainCall
  /-- The chain of an interface shall be there. -/
  | ensure (interface : Text)
  /-- The chain of an interface shall go. -/
  | remove (interface : Text)
  deriving DecidableEq, Repr

/-- A request as text. -/
def ChainCall.text : ChainCall → String
  | .ensure interface => "ensure " ++ String.ofList interface
  | .remove interface => "remove " ++ String.ofList interface

/-- One effect of an operation on its host. -/
inductive Event
  /-- A directory was created. -/
  | madeDirectory (loc : Location)
  /-- A file was created, written anew or appended to. -/
  | wroteFile (loc : Location)
  /-- What was at a place and below it was removed. -/
  | removed (loc : Location)
  /-- The forwarding chain hook was called. -/
  | chain (call : ChainCall)
  /-- A program was asked for. -/
  | launched (command : List Text)
  /-- A program was found and began to run. -/
  | began (command : List Text)
  /-- A program left a daemon behind. -/
  | daemonStarted (pid : Nat)
  /-- A starting daemon wrote its pid file. -/
  | pidWritten (loc : Location)
  /-- A live process was sent a signal. -/
  | signalled (pid : Nat) (signal : Int)
  /-- The mesh logged an entry. -/
  | logged (entry : LogEntry)
  deriving DecidableEq, Repr

/-- The request to the forwarding chain hook that an event is, if it is one. -/
def Event.chainCall? : Event → Option ChainCall
  | .chain call => some call
  | _ => none

end ResolverMesh
