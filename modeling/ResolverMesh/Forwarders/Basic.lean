import ResolverMesh.Text.Pieces

set_option autoImplicit false
set_option relaxedAutoImplicit false

/-!
# Forwarder lines

A forwarder line tells a daemon where to send its questions: those about one domain, or all that
it cannot answer. Files of forwarders are lists of such lines, which are merged into and removed
from one another as whole lines.

## Main definitions

* `ResolverMesh.Forwarders.scopedLines`, `ResolverMesh.Forwarders.plainLines` — the lines for a
  domain, and those for everything.
* `ResolverMesh.Forwarders.scope?` — the domain that a line is for.
* `ResolverMesh.Forwarders.claims` — whether lines hold one for a domain.
* `ResolverMesh.Forwarders.merge`, `ResolverMesh.Forwarders.remove` — lines added once each, and
  lines taken away once each.

## Main results

* `ResolverMesh.Forwarders.mem_merge` — a merge holds the lines of both lists and no others.
* `ResolverMesh.Forwarders.count_remove` — a removal takes one copy away for each copy to be
  removed.
-/

namespace ResolverMesh.Forwarders

/-! ## Writing and reading lines -/

/-- The forwarder line to a server for a domain. -/
def scopedLine (domain server : Text) : Text :=
  "server=/".toList ++ domain ++ '/' :: server

/-- The forwarder line to a server for everything. -/
def plainLine (server : Text) : Text :=
  "server=".toList ++ server

/-- The forwarder lines to servers for a domain. -/
def scopedLines (domain : Text) (servers : List Text) : List Text :=
  servers.map (scopedLine domain)

/-- The forwarder lines to servers for everything. -/
def plainLines (servers : List Text) : List Text :=
  servers.map plainLine

/-- The domain that a line is for: what stands between its first two slashes. -/
def scope? (line : Text) : Option Text :=
  match Text.pieces (· == '/') line with
  | _ :: domain :: _ :: _ => some domain
  | _ => none

/-- Some line is for the domain. -/
def claims (lines : List Text) (domain : Text) : Bool :=
  lines.any (fun line => scope? line = some domain)

/-! ## Merging and removing -/

/-- The lines after a change, and whether anything changed. -/
structure Revision where
  /-- The lines. -/
  lines : List Text
  /-- A line was added or removed. -/
  changed : Bool
  deriving DecidableEq, Repr

/-- One line added at the end, unless it is there. -/
def Revision.insert (r : Revision) (line : Text) : Revision :=
  if r.lines.contains line then r else ⟨r.lines ++ [line], true⟩

/-- The first copy of one line taken away, if it is there. -/
def Revision.erase (r : Revision) (line : Text) : Revision :=
  if r.lines.contains line then ⟨r.lines.erase line, true⟩ else r

/-- Lines with those of another list that they lack after them, each once. -/
def merge (current incoming : List Text) : Revision :=
  incoming.foldl Revision.insert ⟨current, false⟩

/-- Lines without the first copy of each line of another list. -/
def remove (current outgoing : List Text) : Revision :=
  outgoing.foldl Revision.erase ⟨current, false⟩

/-! ## What they hold -/

/-- Inserting a line adds it if it is not there, and nothing else. -/
theorem Revision.mem_insert {r : Revision} {line x : Text} :
    x ∈ (r.insert line).lines ↔ x ∈ r.lines ∨ x = line := by
  unfold Revision.insert
  split
  · next h =>
    have hm : line ∈ r.lines := by simpa using h
    exact ⟨Or.inl, fun hx => hx.elim (fun h => h) (fun e => e ▸ hm)⟩
  · simp

/-- A merge holds the lines of both lists and no others.

**Proof sketch.** By the lines merged in, for any start. -/
theorem mem_merge {current incoming : List Text} {x : Text} :
    x ∈ (merge current incoming).lines ↔ x ∈ current ∨ x ∈ incoming := by
  have key : ∀ (r : Revision), x ∈ (incoming.foldl Revision.insert r).lines ↔
      x ∈ r.lines ∨ x ∈ incoming := by
    induction incoming with
    | nil => simp
    | cons line rest ih =>
      intro r
      rw [List.foldl_cons, ih, Revision.mem_insert, List.mem_cons, or_assoc]
  exact key _

/-- Erasing a line takes its first copy out. -/
theorem Revision.lines_erase (r : Revision) (line : Text) :
    (r.erase line).lines = r.lines.erase line := by
  unfold Revision.erase
  split
  · rfl
  · next h =>
    have hm : line ∉ r.lines := by simpa using h
    rw [List.erase_of_not_mem hm]

/-- A removal takes one copy away for each copy to be removed.

**Proof sketch.** By the lines removed, for any start: each takes one copy if there is one left, as
subtraction of numbers does. -/
theorem count_remove (current outgoing : List Text) (x : Text) :
    (remove current outgoing).lines.count x = current.count x - outgoing.count x := by
  have key : ∀ (r : Revision), (outgoing.foldl Revision.erase r).lines.count x =
      r.lines.count x - outgoing.count x := by
    induction outgoing with
    | nil => simp
    | cons line rest ih =>
      intro r
      rw [List.foldl_cons, ih, Revision.lines_erase, List.count_erase, List.count_cons]
      omega
  exact key _

end ResolverMesh.Forwarders
