import ResolverMesh.Address.Printer
import ResolverMesh.Host.Files
import ResolverMesh.Text.Blank
import ResolverMesh.Text.Lines

set_option autoImplicit false
set_option relaxedAutoImplicit false

/-!
# Hosts files

A hosts file lists the pods of a network: one line per address, with the address, the pod's name
and its aliases. It is appended to as text and read back by its blank-separated fields.

## Main definitions

* `ResolverMesh.HostsFile.entry` — the lines of a pod.
* `ResolverMesh.HostsFile.isOf` — whether a line is a pod's.
* `ResolverMesh.HostsFile.without` — a file's lines without those of a pod.
* `ResolverMesh.HostsFile.append`, `ResolverMesh.HostsFile.removePod` — a pod added to and taken
  out of a file.
-/

namespace ResolverMesh.HostsFile

/-- The names of a pod: its own and its aliases, each after a blank. -/
def names (pod : Text) (aliases : List Text) : Text :=
  pod ++ aliases.flatMap (fun a => ' ' :: a)

/-- The line of one address of a pod. -/
def line (pod : Text) (aliases : List Text) (ip : Address) : Text :=
  ip.text ++ '\t' :: names pod aliases

/-- The lines of a pod, one per address. -/
def entry (pod : Text) (aliases : List Text) (ips : List Address) : Text :=
  Text.unlines (ips.map (line pod aliases))

/-- A line holds nothing but blanks. -/
def isBlankLine (l : Text) : Bool :=
  l.all Text.isBlank

/-- The name that a line is for: its second field. -/
def podOf? (l : Text) : Option Text :=
  (Text.words l)[1]?

/-- A line is a pod's. -/
def isOf (pod l : Text) : Bool :=
  podOf? l = some pod

/-- The lines of a text that are neither blank nor a pod's. -/
def without (pod t : Text) : List Text :=
  (Text.lines t).filter (fun l => !isBlankLine l && !isOf pod l)

/-- A pod added at the end of a hosts file, which is created if it is missing. -/
def append (p : Path) (pod : Text) (aliases : List Text) (ips : List Address) :
    Action Unit :=
  Files.append p (entry pod aliases ips)

/-- A pod taken out of a hosts file. The answer is whether any line is left. -/
def removePod (p : Path) (pod : Text) : Action Bool := do
  match ← Files.readIfThere p with
  | none => return false
  | some t =>
    let kept := without pod t
    Files.write p (Text.unlines kept)
    return !kept.isEmpty

end ResolverMesh.HostsFile
