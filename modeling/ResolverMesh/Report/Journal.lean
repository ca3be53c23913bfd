import ResolverMesh.Host.Basic
import ResolverMesh.Host.Signal

set_option autoImplicit false
set_option relaxedAutoImplicit false

/-!
# Reading a journal

The effects of an operation sorted by kind: programs run, requests to the forwarding chain hook,
daemons started, signalled and killed, and the log.

## Main definitions

* `ResolverMesh.Journal.commands`, `ResolverMesh.Journal.chainCalls`, `ResolverMesh.Journal.log`,
  `ResolverMesh.Journal.started` — the effects of one kind in order.
* `ResolverMesh.Journal.news` — what happened to one process.
-/

namespace ResolverMesh.Journal

/-- The programs that were run, each with its arguments. -/
def commands (es : List Event) : List (List Text) :=
  es.filterMap (fun e => match e with | .began command => some command | _ => none)

/-- The requests to the forwarding chain hook. -/
def chainCalls (es : List Event) : List ChainCall :=
  es.filterMap Event.chainCall?

/-- The log. -/
def log (es : List Event) : List LogRecord :=
  es.filterMap (fun e => match e with | .logged entry => some entry.record | _ => none)

/-- The processes that programs left behind. -/
def started (es : List Event) : List Nat :=
  es.filterMap (fun e => match e with | .daemonStarted pid => some pid | _ => none)

/-- The signals that a process was sent. -/
def signals (es : List Event) (pid : Nat) : List Int :=
  es.filterMap (fun e =>
    match e with
    | .signalled p signal => if p = pid then some signal else none
    | _ => none)

/-- What happened to a process. -/
inductive News
  /-- It was asked to read its files again, so many times. -/
  | reloaded (times : Nat)
  /-- It was killed by a signal. -/
  | killed (signal : Int)
  deriving DecidableEq, Repr

/-- What happened to a process. -/
def news (es : List Event) (pid : Nat) : List News :=
  let sent := signals es pid
  let times := (sent.filter (· = Signal.reload)).length
  (if times = 0 then [] else [.reloaded times]) ++
    (match sent.find? Signal.isLethal with
    | some signal => [.killed signal]
    | none => [])

end ResolverMesh.Journal
