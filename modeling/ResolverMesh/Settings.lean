import ResolverMesh.Disk.Path
import ResolverMesh.Elapsed

set_option autoImplicit false
set_option relaxedAutoImplicit false

/-!
# Settings

What an operator decides once for all networks: where the instances live, which program runs the
daemons and as which user, and how long to wait for the lock.

## Main definitions

* `ResolverMesh.Settings` — the settings.
* `ResolverMesh.Settings.detect` — the settings for a user and a runtime directory.
-/

namespace ResolverMesh

/-- The settings of a mesh. -/
structure Settings where
  /-- The directory that holds one directory per network. -/
  rootDir : Path
  /-- The name or path of the daemon's program. -/
  binary : Text
  /-- The user that the daemon runs as. -/
  user : Text
  /-- How long to wait for the lock on the root. -/
  lockTimeout : Elapsed
  deriving DecidableEq, Repr

namespace Settings

/-- The root that is shared by the whole machine. -/
def systemRoot : Path := ⟨"/run/containers/cni/dnsname".toList⟩

/-- Where the root of an ordinary user lies in the user's runtime directory. -/
def userRoot : Text := "containers/cni/dnsname".toList

/-- The settings where nothing is set. -/
def standard : Settings where
  rootDir := systemRoot
  binary := "dnsmasq".toList
  user := "root".toList
  lockTimeout := .ofMillis 30000

/-- The root for a user: an ordinary user with a runtime directory has one there, everybody else
shares the machine's. -/
def rootFor (uid : Nat) (runtimeDir : Option Text) : Path :=
  match runtimeDir with
  | some dir => if uid ≠ 0 ∧ dir ≠ [] then (Path.mk dir).join userRoot else systemRoot
  | none => systemRoot

/-- The settings for a user and a runtime directory. -/
def detect (uid : Nat) (runtimeDir : Option Text) : Settings :=
  { standard with rootDir := rootFor uid runtimeDir }

end Settings

end ResolverMesh
