import ResolverMesh.Disk.FileTree
import Std.Data.HashMap

set_option autoImplicit false
set_option relaxedAutoImplicit false

/-!
# Changes of a file tree

What of a file tree an observer sees, and in which places two trees differ for such an observer.
Identities and the permission to execute are not seen.

## Main definitions

* `ResolverMesh.View` — what is seen of an entry.
* `ResolverMesh.FileTree.below` — what is seen below a place.
* `ResolverMesh.changes` — the differences of two such views.
-/

namespace ResolverMesh

/-- What is seen of an entry. -/
inductive View
  /-- The content of a file. -/
  | file (content : Content)
  /-- The permission bits of a directory. -/
  | directory (mode : Nat)
  /-- The path that a symbolic link stands for. -/
  | link (target : Path)
  deriving DecidableEq, Repr

/-- What is seen of an entry. -/
def Entry.view : Entry → View
  | .file _ _ content => .file content
  | .directory _ mode => .directory mode
  | .link target => .link target

/-- The names that lead from one place to another below it, if it is below. -/
def Location.below? : Location → Location → Option Location
  | [], loc => some loc
  | n :: ns, m :: ms => if n = m then Location.below? ns ms else none
  | _ :: _, [] => none

/-- What is seen below a place, with the names that lead there. -/
def FileTree.below (t : FileTree) (base : Location) : List (Site × View) :=
  t.entries.filterMap (fun e =>
    match Location.below? base e.1.loc with
    | some (n :: ns) => some (.ofLocation (n :: ns), e.2.view)
    | _ => none)

/-- A digest of a name. -/
def Name.digest : Name → UInt64
  | .text t => t.foldl (fun d c => mixHash d c.val.toUInt64) 7
  | .raw bytes => bytes.foldl (fun d b => mixHash d b.toUInt64) 11

instance : Hashable Site := ⟨fun s => s.loc.foldl (fun d n => mixHash d n.digest) 13⟩

/-- The places that are seen differently afterwards, with what is seen there then. -/
def changes (before after : List (Site × View)) : List (Location × Option View) :=
  let old := Std.HashMap.ofList before
  let new := Std.HashMap.ofList after
  (before.filter (fun v => !new.contains v.1)).map (fun v => (v.1.loc, none)) ++
    (after.filter (fun v => old.get? v.1 ≠ some v.2)).map (fun v => (v.1.loc, some v.2))

end ResolverMesh
