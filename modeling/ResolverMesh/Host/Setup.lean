import ResolverMesh.Host.Files
import ResolverMesh.Host.Signal

set_option autoImplicit false
set_option relaxedAutoImplicit false

/-!
# Setting up a host

What happens to a host from outside the mesh: files appear and go, programs are installed,
daemons are started and killed by others.

## Main definitions

* `ResolverMesh.Setup.boot` — a new host.
* `ResolverMesh.Setup.putFile`, `ResolverMesh.Setup.putDirectory`, `ResolverMesh.Setup.putLink`,
  `ResolverMesh.Setup.delete` — changes of the file tree.
* `ResolverMesh.Setup.install`, `ResolverMesh.Setup.plan` — a program put at a path, and what its
  runs do.
* `ResolverMesh.Setup.startDaemon`, `ResolverMesh.Setup.killDaemon` — a daemon of somebody else's,
  and the end of any daemon.
-/

namespace ResolverMesh.Setup

/-- The permission bits of a directory made from outside. -/
def openMode : Nat := 0o755

/-- A host whose file tree holds only its current directory and the directories above it, and that
looks up programs in the usual way. -/
def boot (workDir : List Text) (dirs : List Path) (firstPid : Nat) : Host where
  disk := {
    tree := (Path.beginnings workDir ++ [workDir]).foldl
      (fun t names => t.put (names.map Name.text) (.directory names.length openMode)) .empty
    workDir := workDir.map Name.text
    nextId := workDir.length + 1 }
  searchPath := .ofDirs dirs
  processes := []
  nextPid := firstPid
  programs := fun _ => .quiet
  held := []
  journal := []

/-- The directories above a path. -/
def makeParents (p : Path) : Action Unit :=
  match p.ancestors with
  | [] => return
  | parent :: above => Files.makeFromAbove openMode (parent :: above)

/-- A file with the given content, and the directories above it. -/
def putFile (p : Path) (content : Content) : Action Unit := do
  makeParents p
  Action.onDisk (·.write p (fun _ => content)) .wroteFile

/-- A directory and those above it. -/
def putDirectory (p : Path) : Action Unit :=
  Files.makeDirectories openMode p

/-- A fresh entry at a place, in the place of what is there and below it. -/
def replace (d : Disk) (loc : Location) (e : Nat → Entry) : Disk :=
  { d with tree := (d.tree.removeAt loc).put loc (e d.nextId), nextId := d.nextId + 1 }

/-- A directory whose name is given by its bytes, in a directory that is made if it is missing.
One that is there already is left as it is. -/
def putRawDirectory (parent : Path) (name : List UInt8) : Action Unit := do
  putDirectory parent
  Action.onDisk (fun d => (if parent.text = [] then .ok d.workDir
      else (d.find parent).map Disk.Found.loc).bind (fun base =>
    let loc := base ++ [Name.ofBytes name]
    if FileTree.longestName < name.length then .error .nameTooLong
    else
      match d.tree.get? loc with
      | some (.directory _ _) => .ok ⟨loc, d⟩
      | some _ => .error .alreadyExists
      | none => .ok ⟨loc, replace d loc (fun id => .directory id openMode)⟩)) .madeDirectory

/-- The place that a path names, a link at its end not followed. -/
def placeOf (d : Disk) (p : Path) : Except IoError Location :=
  (d.walk .place p p.steps).map (fun spot =>
    match spot with
    | .entry loc _ => loc
    | .vacant parent name => parent ++ [.text name])

/-- An entry put at a path, in the place of what is there. -/
def install (p : Path) (e : Nat → Entry) : Action Unit := do
  makeParents p
  Action.onDisk (fun d => (placeOf d p).map (fun loc => ⟨loc, replace d loc e⟩)) .wroteFile

/-- A symbolic link at a path where nothing is yet. -/
def putLink (p target : Path) : Action Unit := do
  makeParents p
  Action.onDisk (fun d =>
    match Disk.refusal? target with
    | some e => .error e
    | none => (d.walk .place p p.steps).bind (fun spot =>
      match spot with
      | .entry _ _ => .error .alreadyExists
      | .vacant parent name =>
        let loc := parent ++ [.text name]
        .ok ⟨loc, { d with tree := d.tree.put loc (.link target) }⟩)) .wroteFile

/-- A file, a link, or a directory with all it holds, removed. -/
def delete (p : Path) : Action Unit :=
  Action.onDisk (fun d => (d.lookUp .place p).map (fun found =>
    ⟨found.loc, { d with tree := d.tree.removeAt found.loc }⟩)) .removed

/-- What the runs of a program do from now on, counted afresh. -/
def plan (name : Text) (program : Program) : Action Unit :=
  Action.change (fun h => { h with
    programs := fun n => if n = name then program else h.programs n })

/-- A live daemon, whose pid goes into a file if one is given. -/
def startDaemon (pidFile : Option Path) : Action Nat := do
  let pid ← Action.ask (fun h => .ok h.nextPid)
  Action.change Host.addProcess
  match pidFile with
  | none => return pid
  | some p =>
    putFile p (.text (Text.decimal pid ++ ['\n']))
    return pid

/-- A daemon killed, if it is alive. -/
def killDaemon (pid : Nat) : Action Bool := do
  match ← Action.attempt (Signal.send pid Signal.terminate) with
  | .ok () => return true
  | .error _ => return false

end ResolverMesh.Setup
