import ResolverMesh.Action

set_option autoImplicit false
set_option relaxedAutoImplicit false

/-!
# Files of the host

The requests to the disk that the mesh makes, as queries and actions.

## Main definitions

* `ResolverMesh.Files.readIfThere` — the text of a file that may be missing.
* `ResolverMesh.Files.write`, `ResolverMesh.Files.append` — a text put into a file.
* `ResolverMesh.Files.makeDirectories` — a directory with the missing ones above it.
* `ResolverMesh.Files.removeIfThere` — a directory with all it holds, gone if it was there.
-/

namespace ResolverMesh.Files

/-- The text of a file, none if nothing is there. -/
def readIfThere (p : Path) : Query (Option Text) := fun h =>
  match h.disk.readText p with
  | .ok s => .ok (some s)
  | .error e => if e = .notFound then .ok none else .error (.io e)

/-- A path leads to something. -/
def isThere (p : Path) : Query Bool := fun h =>
  .ok (h.disk.isThere p)

/-- A path leads to a directory. -/
def isDirectory (p : Path) : Query Bool := fun h =>
  .ok (h.disk.isDirectory p)

/-- A path leads to a regular file. -/
def isFile (p : Path) : Query Bool := fun h =>
  .ok (h.disk.isFile p)

/-- A file with a text in the place of what it held. -/
def write (p : Path) (s : Text) : Action Unit :=
  Action.onDisk (·.writeText p s) .wroteFile

/-- A file with a text after what it held. -/
def append (p : Path) (s : Text) : Action Unit :=
  Action.onDisk (·.appendText p s) .wroteFile

/-- One new directory. -/
def makeDirectory (mode : Nat) (p : Path) : Action Unit :=
  Action.onDisk (·.makeDirectory mode p) .madeDirectory

/-- A directory, or the fault of making it if there is none after all. -/
def settleDirectory (mode : Nat) (p : Path) : Action Unit := do
  match ← Action.attempt (makeDirectory mode p) with
  | .ok () => return
  | .error fault =>
    unless ← isDirectory p do
      throw fault

/-- The directory at the head of a list of paths, the rest of which lead to it from above. Those
above are made only where the request fails for want of them. -/
def makeFromAbove (mode : Nat) : List Path → Action Unit
  | [] => throw (.io .notFound)
  | p :: above => do
    if p.text = [] then
      return
    match ← Action.attempt (makeDirectory mode p) with
    | .ok () => return
    | .error fault =>
      if fault = .io .notFound then
        makeFromAbove mode above
        settleDirectory mode p
      else
        unless ← isDirectory p do
          throw fault

/-- A directory with the missing ones above it, all with the same permission bits. One that is
there already is left as it is. -/
def makeDirectories (mode : Nat) (p : Path) : Action Unit :=
  makeFromAbove mode (p :: p.ancestors)

/-- A directory removed with all it holds. -/
def removeAll (p : Path) : Action Unit :=
  Action.onDisk (·.removeAll p) .removed

/-- A directory removed with all it holds, if it is there. -/
def removeIfThere (p : Path) : Action Unit := do
  match ← Action.attempt (removeAll p) with
  | .ok () => return
  | .error fault =>
    unless fault = .io .notFound do
      throw fault

end ResolverMesh.Files
