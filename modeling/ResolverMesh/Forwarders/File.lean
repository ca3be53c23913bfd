import ResolverMesh.Forwarders.Basic
import ResolverMesh.Host.Files
import ResolverMesh.Text.Lines
import ResolverMesh.Text.Order

set_option autoImplicit false
set_option relaxedAutoImplicit false

/-!
# Forwarder files

A forwarder file holds one line per forwarder. It is written in dictionary order; blank lines in
it count for nothing, and a missing file is an empty one.

## Main definitions

* `ResolverMesh.Forwarders.readLines`, `ResolverMesh.Forwarders.writeLines` — the lines of a file.
* `ResolverMesh.Forwarders.addPlain` — servers for everything added to a file.
-/

namespace ResolverMesh.Forwarders

/-- The lines of a text that are not empty. -/
def ofText (t : Text) : List Text :=
  (Text.lines t).filter (· ≠ [])

/-- Lines in dictionary order, each ended by a line feed. -/
def toText (lines : List Text) : Text :=
  Text.unlines (Text.sorted lines)

/-- The lines of a forwarder file. -/
def readLines (p : Path) : Query (List Text) := do
  match ← Files.readIfThere p with
  | none => return []
  | some t => return ofText t

/-- A forwarder file with the given lines. -/
def writeLines (p : Path) (lines : List Text) : Action Unit :=
  Files.write p (toText lines)

/-- Servers for everything added to a forwarder file, which is left as it is if it names them all
already. -/
def addPlain (p : Path) (servers : List Text) : Action Unit := do
  let current ← readLines p
  let merged := merge current (plainLines servers)
  if merged.changed then
    writeLines p merged.lines

end ResolverMesh.Forwarders
