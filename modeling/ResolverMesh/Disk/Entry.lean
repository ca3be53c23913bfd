import ResolverMesh.Disk.Path
import ResolverMesh.Text.Utf8

set_option autoImplicit false
set_option relaxedAutoImplicit false

/-!
# Entries of a file tree

What can stand at a place of a file tree, and how places are named. Names and contents are
texts wherever their bytes are UTF-8, which is where the resolver mesh looks; other bytes are
kept as they are.

## Main definitions

* `ResolverMesh.Name`, `ResolverMesh.Location` — the name of an entry in its directory, and the
  names that lead to it from the root of the tree.
* `ResolverMesh.Content` — what a file holds.
* `ResolverMesh.Entry` — a file, a directory or a symbolic link.
-/

namespace ResolverMesh

/-- The name of an entry in its directory. -/
inductive Name
  /-- A name whose bytes are UTF-8. -/
  | text (t : Text)
  /-- Any other bytes. -/
  | raw (bytes : List UInt8)
  deriving DecidableEq, Repr

namespace Name

/-- The name made of some bytes. -/
def ofBytes (bytes : List UInt8) : Name :=
  match Text.Utf8.decode? bytes with
  | some t => .text t
  | none => .raw bytes

/-- The name as text, if it is one. -/
def text? : Name → Option Text
  | .text t => some t
  | .raw _ => none

end Name

/-- A place in the file tree: the names that lead to it from the root. -/
abbrev Location := List Name

/-- What a file holds. -/
inductive Content
  /-- A text. -/
  | text (t : Text)
  /-- Bytes that are not UTF-8. -/
  | binary (bytes : List UInt8)
  /-- The image of a program that the system can run. -/
  | program
  deriving DecidableEq, Repr

namespace Content

/-- The content made of some bytes. -/
def ofBytes (bytes : List UInt8) : Content :=
  match Text.Utf8.decode? bytes with
  | some t => .text t
  | none => .binary bytes

/-- The content with a text added at its end. Bytes that are not UTF-8 do not become so by more
text after them. -/
def append (c : Content) (s : Text) : Content :=
  match c with
  | .text t => .text (t ++ s)
  | .binary bytes => .binary (bytes ++ Text.Utf8.encode s)
  | .program => .program

/-- The content as text, if it is one. -/
def text? : Content → Option Text
  | .text t => some t
  | _ => none

/-- The content as text, with a replacement character for what is not UTF-8. The image of a
program reads as empty. -/
def lossyText : Content → Text
  | .text t => t
  | .binary bytes => Text.Utf8.decodeLossy bytes
  | .program => []

end Content

/-- What stands at a place of the file tree. A file and a directory have an identity, which they
keep when they are written and which is not given again after they are gone. -/
inductive Entry
  /-- A regular file. -/
  | file (id : Nat) (executable : Bool) (content : Content)
  /-- A directory and its permission bits. -/
  | directory (id : Nat) (mode : Nat)
  /-- A symbolic link and the path it stands for. -/
  | link (target : Path)
  deriving DecidableEq, Repr

namespace Entry

/-- The entry is a directory. -/
def isDirectory : Entry → Bool
  | .directory _ _ => true
  | _ => false

/-- The entry is a regular file. -/
def isFile : Entry → Bool
  | .file _ _ _ => true
  | _ => false

/-- The entry is a symbolic link. -/
def isLink : Entry → Bool
  | .link _ => true
  | _ => false

/-- The identity of a file or directory. -/
def id? : Entry → Option Nat
  | .file id _ _ => some id
  | .directory id _ => some id
  | .link _ => none

end Entry

end ResolverMesh
