import ResolverMesh.Disk.IoError
import ResolverMesh.Disk.Path
import ResolverMesh.Elapsed

set_option autoImplicit false
set_option relaxedAutoImplicit false

/-!
# Faults

The ways in which an operation of the mesh fails, each with what its message names.

## Main definitions

* `ResolverMesh.Fault` — why an operation failed.
* `ResolverMesh.Fault.message` — the text for it.
-/

namespace ResolverMesh

/-- Why an operation of the mesh failed. -/
inductive Fault
  /-- A system call failed. -/
  | io (cause : IoError)
  /-- The daemon's program is not installed. -/
  | binaryNotFound (binary : Text)
  /-- The lock on the root was not released in time. -/
  | lockTimeout (root : Path) (waited : Elapsed)
  /-- Another network claims the domain. -/
  | domainCollision (domain network : Text)
  /-- The daemon's program ended without starting a daemon. -/
  | startFailure (output : Text)
  /-- The process to be signalled is gone. -/
  | processGone (pid : Int)
  /-- The process cannot be signalled. -/
  | signalRefused (pid : Int) (cause : IoError)
  /-- The network's daemon is not running. -/
  | notRunning (network : Text)
  /-- A file of the network's instance is missing. -/
  | missingFile (path : Path)
  /-- The request does not make sense. -/
  | invalidConfig (reason : Text)
  deriving DecidableEq, Repr

namespace Fault

/-- The text for a fault. -/
def message : Fault → String
  | .io cause => "I/O error: " ++ cause.message
  | .binaryNotFound binary =>
    "the dnsname plugin requires the " ++ String.ofList binary ++ " binary to be in PATH"
  | .lockTimeout root waited =>
    "timed out after " ++ waited.text ++ " waiting for lock on " ++
      String.ofList root.text
  | .domainCollision domain network =>
    "domain " ++ String.ofList domain ++ " already exists (claimed by network " ++
      String.ofList network ++ ")"
  | .startFailure output => "failed to start resolver daemon: " ++ String.ofList output
  | .processGone pid => "process " ++ toString pid ++ " already finished"
  | .signalRefused pid cause =>
    "failed to signal process " ++ toString pid ++ ": " ++ cause.message
  | .notRunning network =>
    "dnsmasq instance for network " ++ String.ofList network ++ " not running"
  | .missingFile path => String.ofList path.text ++ " file missing from configuration"
  | .invalidConfig reason => "invalid config: " ++ String.ofList reason

/-- The fault says that a process is gone. -/
def isProcessGone : Fault → Bool
  | .processGone _ => true
  | _ => false

/-- The fault says that a domain is claimed twice. -/
def isDomainCollision : Fault → Bool
  | .domainCollision _ _ => true
  | _ => false

end Fault

end ResolverMesh
