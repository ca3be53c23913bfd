import ResolverMesh.Host.Event
import ResolverMesh.Host.Program
import ResolverMesh.Host.SearchPath

set_option autoImplicit false
set_option relaxedAutoImplicit false

/-!
# The host

The machine that the mesh runs on, as one value: its disk, its processes, its installed programs,
its locks, and the effects so far in order.

## Main definitions

* `ResolverMesh.Process` — a daemon that has been started.
* `ResolverMesh.Host` — the machine.
* `ResolverMesh.Host.isAlive` — whether a pid belongs to a live process.
* `ResolverMesh.Host.chainCalls` — the requests to the forwarding chain hook so far.
-/

namespace ResolverMesh

/-- A daemon that has been started. -/
structure Process where
  /-- Its number, which no later process gets. -/
  pid : Nat
  /-- It has not been killed. -/
  alive : Bool
  deriving DecidableEq, Repr

/-- The machine that the mesh runs on. -/
structure Host where
  /-- The file tree and the current directory. -/
  disk : Disk
  /-- How programs are looked up. -/
  searchPath : SearchPath
  /-- The processes, oldest first, dead ones included. -/
  processes : List Process
  /-- The pid that the next process gets. -/
  nextPid : Nat
  /-- What the installed programs do, by the last step of the path they are called by. -/
  programs : Text → Program
  /-- The identities of the files and directories that are locked. -/
  held : List Nat
  /-- The effects so far, oldest first. -/
  journal : List Event

namespace Host

/-- The host after one more effect. -/
def record (h : Host) (e : Event) : Host :=
  { h with journal := h.journal ++ [e] }

/-- The host with one more live process, which gets the next pid. -/
def addProcess (h : Host) : Host :=
  { h with processes := h.processes ++ [⟨h.nextPid, true⟩], nextPid := h.nextPid + 1 }

/-- A pid belongs to a live process. -/
def isAlive (h : Host) (pid : Int) : Bool :=
  h.processes.any (fun p => p.alive && decide ((p.pid : Int) = pid))

/-- The host after a process has died. -/
def kill (h : Host) (pid : Nat) : Host :=
  { h with processes := h.processes.map (fun p => if p.pid = pid then ⟨p.pid, false⟩ else p) }

/-- The requests to the forwarding chain hook so far, oldest first. -/
def chainCalls (h : Host) : List ChainCall :=
  h.journal.filterMap Event.chainCall?

end Host

end ResolverMesh
