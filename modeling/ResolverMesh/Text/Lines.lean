import ResolverMesh.Text.Pieces

set_option autoImplicit false
set_option relaxedAutoImplicit false

/-!
# Lines of a text

A line ends at a line feed; one carriage return in front of that line feed belongs to the
ending. What follows the last line feed is a line of its own unless it is empty, and keeps a
carriage return at its end.

## Main definitions

* `ResolverMesh.Text.lines` — the lines of a text without their endings.
* `ResolverMesh.Text.unlines` — lines written one after the other, each ended by a line feed.

## Main results

* `ResolverMesh.Text.lines_unlines` — lines without a line feed or a last carriage return are
  read back as they were written.
-/

namespace ResolverMesh.Text

/-- A line without the carriage return at its end, if it has one. -/
def dropReturn (l : Text) : Text :=
  if l.getLast? = some '\r' then l.dropLast else l

/-- The lines that the pieces between line feeds stand for. -/
def linesOfPieces : List Text → List Text
  | [] => []
  | [rest] => if rest.isEmpty then [] else [rest]
  | l :: next :: more => dropReturn l :: linesOfPieces (next :: more)

/-- The lines of a text, without their endings. -/
def lines (t : Text) : List Text :=
  linesOfPieces (pieces (· == '\n') t)

/-- Lines one after the other, each ended by a line feed. -/
def unlines (ls : List Text) : Text :=
  ls.flatMap (fun l => l ++ ['\n'])

/-- No lines make the empty text. -/
theorem unlines_nil : unlines [] = [] := rfl

/-- The first line stands first, and a line feed behind it. -/
theorem unlines_cons (l : Text) (ls : List Text) :
    unlines (l :: ls) = l ++ '\n' :: unlines ls := by
  simp [unlines]

/-- Lines after lines make a text after a text. -/
theorem unlines_append (ks ls : List Text) : unlines (ks ++ ls) = unlines ks ++ unlines ls :=
  List.flatMap_append

/-- A line without a carriage return at its end loses nothing. -/
theorem dropReturn_of_ne {l : Text} (h : l.getLast? ≠ some '\r') : dropReturn l = l := by
  simp [dropReturn, h]

/-- The empty text has no lines. -/
theorem lines_nil : lines [] = [] := rfl

/-- The first line of a text that begins with a text `l` without a line feed and a line feed. -/
theorem lines_cons {l : Text} (h : '\n' ∉ l) (rest : Text) :
    lines (l ++ '\n' :: rest) = dropReturn l :: lines rest := by
  rw [lines, pieces_append (by simp) l rest, pieces_of_not_mem h]
  obtain ⟨w, ws, hw⟩ := List.exists_cons_of_ne_nil (pieces_ne_nil (· == '\n') rest)
  rw [lines, hw]
  rfl

/-- Lines without a line feed and without a carriage return at the end are read back as they
were written. -/
theorem lines_unlines {ls : List Text} (h : ∀ l ∈ ls, '\n' ∉ l ∧ l.getLast? ≠ some '\r') :
    lines (unlines ls) = ls := by
  induction ls with
  | nil => rfl
  | cons l ls ih =>
    have hl := h l (by simp)
    rw [unlines_cons, lines_cons hl.1, dropReturn_of_ne hl.2, ih (fun m hm => h m (by simp [hm]))]

end ResolverMesh.Text
