import ResolverMesh.Disk.Basic

set_option autoImplicit false
set_option relaxedAutoImplicit false

/-!
# Looking up programs

Programs are looked up on two ways. The system does it when it is to run a program by a bare name:
it goes through a list of directories. Before that, the mesh asks where the daemon's program is
installed. Who answers is not part of the mesh, so a host may come with any answer that keeps one
law: a program that is found does not get lost while all that could be executed still can.

## Main definitions

* `ResolverMesh.Disk.isExecutable` — a path leads to a program.
* `ResolverMesh.SearchPath` — how programs are looked up on a host.
* `ResolverMesh.SearchPath.ofDirs` — the usual way, by a list of directories.
-/

namespace ResolverMesh

/-- A path leads to a regular file that may be executed. -/
def Disk.isExecutable (d : Disk) (p : Path) : Bool :=
  d.leadsTo (fun e => match e with | .file _ x _ => x | _ => false) p

/-- How programs are looked up on a host. -/
structure SearchPath where
  /-- The directories in which the system looks for a program that it is to run by a bare name. -/
  dirs : List Path
  /-- Where a program is installed on a disk, if it is. It is named by a bare name or by a path. -/
  find? : Disk → Text → Option Path
  /-- As long as all that could be executed still can, and the current directory is the same, a
  program that was found is found, be it another one of the name. -/
  isSome_find? : ∀ {d d' : Disk} {binary : Text}, d'.workDir = d.workDir →
    (∀ p, d.isExecutable p = true → d'.isExecutable p = true) →
    (find? d binary).isSome = true → (find? d' binary).isSome = true

/-- The names of a place as an absolute path. Bytes that are no text are read as far as they
are. -/
def Location.toPath (loc : Location) : Path :=
  .ofComponents true (loc.map (fun n =>
    match n with
    | .text t => t
    | .raw bytes => Text.Utf8.decodeLossy bytes))

namespace SearchPath

/-- The paths at which a program may be installed. A path of several components starts from the
current directory, a bare name is looked up in the directories, none of which stands for a home
directory. -/
def candidates (dirs : List Path) (workDir : Location) (binary : Text) : List Path :=
  if 1 < (Path.mk binary).size then [workDir.toPath.join binary]
  else dirs.map (·.join binary)

/-- The usual way to look up programs: the first candidate that may be executed is the answer. -/
def ofDirs (dirs : List Path) : SearchPath where
  dirs := dirs
  find? d binary := (candidates dirs d.workDir binary).find? d.isExecutable
  isSome_find? hw hexec hfound := by
    rw [List.find?_isSome] at hfound ⊢
    rw [hw]
    obtain ⟨p, hmem, hp⟩ := hfound
    exact ⟨p, hmem, hexec p hp⟩

end SearchPath

end ResolverMesh
