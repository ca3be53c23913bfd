import ResolverMesh.Instance.Basic
import ResolverMesh.Settings
import ResolverMesh.Text.Order
import ResolverMesh.Text.Quoted

set_option autoImplicit false
set_option relaxedAutoImplicit false

/-!
# The instances under a root

A network's name is the name of its directory, so it has to be a plain one. The siblings of an
instance are the other directories under the root.

## Main definitions

* `ResolverMesh.Settings.isNetworkName` — which texts can name a network.
* `ResolverMesh.Settings.locate?` — where a program is installed.
* `ResolverMesh.Settings.resolve` — the instance of a network. Nothing is created.
* `ResolverMesh.Settings.siblings` — the other networks under the root.
-/

namespace ResolverMesh

namespace Settings

/-- A text can name a network: it names a directory that is neither the place itself nor the one
above. -/
def isNetworkName (network : Text) : Bool :=
  decide (Path.IsPlain network ∧ network ≠ Path.dot ∧ network ≠ Path.dotDot)

/-- Where a program is installed, if it is. -/
def locate? (h : Host) (binary : Text) : Option Path :=
  h.searchPath.find? h.disk binary

/-- The instance of a network. -/
def resolve (s : Settings) (network domain : Text) (multiDomain : Bool) : Query Instance :=
  fun h =>
    if isNetworkName network then
      match locate? h s.binary with
      | some binary => .ok ⟨network, domain, multiDomain, s.rootDir.join network, binary, s.user⟩
      | none => .error (.binaryNotFound s.binary)
    else .error (.invalidConfig ("invalid network name ".toList ++ Text.quote network))

/-- The networks among the entries of the root, without the one of the directory `current`. -/
def networksIn (current : Path) (entries : List (Name × Entry)) : List Text :=
  entries.filterMap (fun e =>
    match e.1.text? with
    | some name =>
      if e.2.isDirectory ∧ current.fileName? ≠ some name then some name else none
    | none => none)

/-- The networks under the root in dictionary order, without the one of the directory
`current`. A root that is not there holds none. -/
def siblings (s : Settings) (current : Path) : Query (List Text) := fun h =>
  match h.disk.listDirectory s.rootDir with
  | .ok entries => .ok (Text.sorted (networksIn current entries))
  | .error e => if e = .notFound then .ok [] else .error (.io e)

end Settings

end ResolverMesh
