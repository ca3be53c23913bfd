import ResolverMesh.Text.Basic

set_option autoImplicit false
set_option relaxedAutoImplicit false

/-!
# Pieces of a text

Cutting a text at every character of a class. Lines, path steps, blank-separated fields and
the slash-separated parts of a forwarder line are all read off the same cut.

## Main definitions

* `ResolverMesh.Text.pieces` — what lies between the cut characters, empty pieces included.
* `ResolverMesh.Text.glue` — pieces put back together with one character between neighbours.

## Main results

* `ResolverMesh.Text.glue_pieces` — gluing with the character of the cut restores the text.
* `ResolverMesh.Text.pieces_append` — a cut character splits the cut of the whole in two.
-/

namespace ResolverMesh.Text

/-- The pieces of a text between the characters that satisfy `p`. There is always at least
one piece, and two neighbouring cut characters leave an empty piece between them. -/
def pieces (p : Char → Bool) : Text → List Text
  | [] => [[]]
  | c :: cs =>
    if p c then [] :: pieces p cs
    else
      match pieces p cs with
      | [] => [[c]]
      | w :: ws => (c :: w) :: ws

/-- Pieces in order, with the character `c` between neighbours. -/
def glue (c : Char) : List Text → Text
  | [] => []
  | [w] => w
  | w :: v :: ws => w ++ c :: glue c (v :: ws)

/-- A text has at least one piece. -/
theorem pieces_ne_nil (p : Char → Bool) (cs : Text) : pieces p cs ≠ [] := by
  cases cs with
  | nil => simp [pieces]
  | cons c cs =>
    rw [pieces]
    split
    · simp
    · split <;> simp

/-- A text without a cut character is one piece. -/
theorem pieces_of_forall {p : Char → Bool} {w : Text} (h : ∀ c ∈ w, p c = false) :
    pieces p w = [w] := by
  induction w with
  | nil => rfl
  | cons c w ih =>
    have hc : p c = false := h c (by simp)
    rw [pieces, ih (fun d hd => h d (by simp [hd]))]
    simp [hc]

/-- A text without the only character of the cut is one piece. -/
theorem pieces_of_not_mem {c : Char} {w : Text} (h : c ∉ w) : pieces (· == c) w = [w] := by
  refine pieces_of_forall fun d hd => ?_
  have hne : d ≠ c := fun he => h (he ▸ hd)
  simpa using hne

/-- A cut character splits the cut of the whole into the cuts of its two sides.

**Proof sketch.** By the characters before the cut. -/
theorem pieces_append {p : Char → Bool} {c : Char} (hc : p c = true) (xs ys : Text) :
    pieces p (xs ++ c :: ys) = pieces p xs ++ pieces p ys := by
  induction xs with
  | nil => simp [pieces, hc]
  | cons x xs ih =>
    rw [List.cons_append, pieces, ih]
    by_cases hx : p x = true
    · simp [pieces, hx]
    · obtain ⟨w, ws, hw⟩ := List.exists_cons_of_ne_nil (pieces_ne_nil p xs)
      simp [pieces, hx, hw]

/-- No piece holds a cut character.

**Proof sketch.** By the characters of the text. A cut begins a new piece, and any other character
goes in front of the first piece of the rest. -/
theorem not_cut_of_mem_pieces {p : Char → Bool} {cs w : Text} (hw : w ∈ pieces p cs) :
    ∀ c ∈ w, p c = false := by
  induction cs generalizing w with
  | nil => simp_all [pieces]
  | cons x xs ih =>
    rw [pieces] at hw
    split at hw
    · rcases List.mem_cons.mp hw with rfl | hw
      · simp
      · exact ih hw
    · next hx =>
      split at hw
      · next heq => exact absurd heq (pieces_ne_nil p xs)
      · next v vs heq =>
        rcases List.mem_cons.mp hw with rfl | hw
        · intro c hc
          rcases List.mem_cons.mp hc with rfl | hc
          · simpa using hx
          · exact ih (by simp [heq]) c hc
        · exact ih (by simp [heq, hw])

/-- No piece holds the only character of the cut. -/
theorem not_mem_of_mem_pieces {c : Char} {cs w : Text} (hw : w ∈ pieces (· == c) cs) : c ∉ w :=
  fun hc => by simpa using not_cut_of_mem_pieces hw c hc

/-- Gluing the pieces with the only character of the cut restores the text.

**Proof sketch.** By the characters of the text. A cut puts the glue in front of the pieces of the
rest, and any other character begins the first of them. -/
theorem glue_pieces (c : Char) (cs : Text) : glue c (pieces (· == c) cs) = cs := by
  induction cs with
  | nil => rfl
  | cons x xs ih =>
    rw [pieces]
    obtain ⟨w, ws, hw⟩ := List.exists_cons_of_ne_nil (pieces_ne_nil (· == c) xs)
    rw [hw] at ih
    by_cases hx : x = c
    · subst hx
      simp [hw, glue, ih]
    · cases ws with
      | nil => simp_all [glue]
      | cons v vs => simp_all [glue]

end ResolverMesh.Text
