import ResolverMesh.Disk.Walk

set_option autoImplicit false
set_option relaxedAutoImplicit false

/-!
# The disk

A file tree as a process sees it: with a current directory, from which relative paths start, and
with fresh identities for what is created. Every request is a function of the disk. Those that
change it tell the place that they changed.

## What is assumed

* A request is made as a whole or not at all. A file that has been opened takes all that is written
  to it: no device fails or fills up on the way, and nobody else changes the disk meanwhile.
* Nothing is refused for want of permission. A request is refused for what is on the disk or for the
  path alone.
* Paths are texts, so they are shown as they are (`ResolverMesh.Path`). Names on the disk need not
  be.

## Main definitions

* `ResolverMesh.Disk` — a file tree with a current directory.
* `ResolverMesh.Disk.find` — what a path leads to, links followed.
* `ResolverMesh.Disk.readText`, `ResolverMesh.Disk.writeText`, `ResolverMesh.Disk.appendText` —
  text files.
* `ResolverMesh.Disk.makeDirectory`, `ResolverMesh.Disk.listDirectory`,
  `ResolverMesh.Disk.removeAll` — directories.
-/

namespace ResolverMesh

/-- A file tree as a process sees it. -/
structure Disk where
  /-- The file tree. -/
  tree : FileTree
  /-- The current directory. -/
  workDir : Location
  /-- The identity that the next new file or directory gets. -/
  nextId : Nat

namespace Disk

/-- A change of the disk at a place. -/
structure Change where
  /-- The place. -/
  loc : Location
  /-- The disk after the change. -/
  disk : Disk

/-- The greatest length of a path in bytes. -/
def longestPath : Nat := 4095

/-- Why no walk along a path begins, whatever is on the disk. -/
def refusal? (p : Path) : Option IoError :=
  if Path.hasNul p.text then some .nulInPath
  else if p.text = [] then some .notFound
  else if longestPath < Text.utf8Size p.text then some .nameTooLong
  else none

/-- Where the given steps of a path lead. -/
def walk (d : Disk) (aim : Aim) (p : Path) (steps : List Text) : Except IoError Spot :=
  match refusal? p with
  | some e => .error e
  | none => d.tree.walk aim FileTree.mostLinks (if p.isAbsolute then [] else d.workDir) steps

/-- An entry with its place. -/
structure Found where
  /-- The place. -/
  loc : Location
  /-- The entry. -/
  entry : Entry
  deriving DecidableEq, Repr

/-- What a path leads to. -/
def lookUp (d : Disk) (aim : Aim) (p : Path) : Except IoError Found :=
  match d.walk aim p p.lookupSteps with
  | .error e => .error e
  | .ok (.vacant _ _) => .error .notFound
  | .ok (.entry loc e) => .ok ⟨loc, e⟩

/-- What a path leads to, a link at its end followed. -/
def find (d : Disk) (p : Path) : Except IoError Found :=
  d.lookUp .target p

/-- A path leads to something. -/
def isThere (d : Disk) (p : Path) : Bool :=
  (d.find p).toBool

/-- A path leads to something that passes a test. -/
def leadsTo (d : Disk) (test : Entry → Bool) (p : Path) : Bool :=
  match d.find p with
  | .ok f => test f.entry
  | .error _ => false

/-- A path leads to a directory. -/
def isDirectory (d : Disk) (p : Path) : Bool :=
  d.leadsTo Entry.isDirectory p

/-- A path leads to a regular file. -/
def isFile (d : Disk) (p : Path) : Bool :=
  d.leadsTo Entry.isFile p

/-! ## Text files -/

/-- The text of a file. -/
def readText (d : Disk) (p : Path) : Except IoError Text :=
  match d.find p with
  | .error e => .error e
  | .ok ⟨_, .file _ _ (.text s)⟩ => .ok s
  | .ok ⟨_, .file _ _ _⟩ => .error .notText
  | .ok _ => .error .isADirectory

/-- Where a file is to be opened for writing, and created if it is not there. A slash at the end
of the path is refused as naming a directory, once the way there has been found. -/
def openSpot (d : Disk) (p : Path) : Except IoError Spot :=
  if p.endsInSlash then
    match d.walk .target p p.parentSteps with
    | .error e => .error e
    | .ok _ => .error .isADirectory
  else d.walk .file p p.steps

/-- A file written: `update` tells the new content from the old one, none for a new file. -/
def write (d : Disk) (p : Path) (update : Option Content → Content) : Except IoError Change :=
  match d.openSpot p with
  | .error e => .error e
  | .ok (.vacant parent name) =>
    let loc := parent ++ [.text name]
    .ok ⟨loc, { d with
      tree := d.tree.put loc (.file d.nextId false (update none)), nextId := d.nextId + 1 }⟩
  | .ok (.entry loc (.file id executable content)) =>
    .ok ⟨loc, { d with tree := d.tree.put loc (.file id executable (update (some content))) }⟩
  | .ok (.entry _ _) => .error .isADirectory

/-- A file with a text in the place of what it held. -/
def writeText (d : Disk) (p : Path) (s : Text) : Except IoError Change :=
  d.write p (fun _ => .text s)

/-- A file with a text after what it held. -/
def appendText (d : Disk) (p : Path) (s : Text) : Except IoError Change :=
  d.write p (fun c => (c.getD (.text [])).append s)

/-! ## Directories -/

/-- A new directory with the given permission bits. -/
def makeDirectory (d : Disk) (mode : Nat) (p : Path) : Except IoError Change :=
  match d.walk .place p p.steps with
  | .error e => .error e
  | .ok (.entry _ _) => .error .alreadyExists
  | .ok (.vacant parent name) =>
    let loc := parent ++ [.text name]
    .ok ⟨loc, { d with
      tree := d.tree.put loc (.directory d.nextId mode), nextId := d.nextId + 1 }⟩

/-- The entries of a directory, in no particular order. -/
def listDirectory (d : Disk) (p : Path) : Except IoError (List (Name × Entry)) :=
  match d.find p with
  | .error e => .error e
  | .ok ⟨loc, .directory _ _⟩ => .ok (d.tree.children loc)
  | .ok _ => .error .notADirectory

/-- A directory removed with all it holds. Of a link only the link is removed; a file is
refused. -/
def removeAll (d : Disk) (p : Path) : Except IoError Change :=
  match d.lookUp .place p with
  | .error e => .error e
  | .ok ⟨_, .file _ _ _⟩ => .error .notADirectory
  | .ok ⟨loc, _⟩ => .ok ⟨loc, { d with tree := d.tree.removeAt loc }⟩

end Disk

end ResolverMesh
