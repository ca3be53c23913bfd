import ResolverMesh.Text.Basic

set_option autoImplicit false
set_option relaxedAutoImplicit false

/-!
# Dictionary order of texts

Texts are ordered by their first differing character, by code point; a text comes before its
extensions. This is also the order of their UTF-8 bytes.

## Main definitions

* `ResolverMesh.Text.le` — the order.
* `ResolverMesh.Text.sorted` — a list of texts in that order, repeats kept.

## Main results

* `ResolverMesh.Text.le_total`, `ResolverMesh.Text.le_trans`, `ResolverMesh.Text.le_antisymm` —
  it is a linear order.
* `ResolverMesh.Text.sorted_perm`, `ResolverMesh.Text.pairwise_sorted` — sorting rearranges, and
  the result is in order.
-/

namespace ResolverMesh.Text

/-- Whether one text comes before another or equals it. -/
def le : Text → Text → Bool
  | [], _ => true
  | _ :: _, [] => false
  | a :: as, b :: bs => if a = b then le as bs else decide (a.toNat < b.toNat)

/-- A text put into an ordered list at its place. -/
def insertSorted (a : Text) : List Text → List Text
  | [] => [a]
  | b :: bs => if le a b then a :: b :: bs else b :: insertSorted a bs

/-- The texts of a list in dictionary order, repeats kept. -/
def sorted : List Text → List Text
  | [] => []
  | a :: as => insertSorted a (sorted as)

/-! ## The order is linear -/

/-- Each text is in order with itself. -/
theorem le_refl (as : Text) : le as as = true := by
  induction as with
  | nil => rfl
  | cons a as ih => simp [le, ih]

/-- Of two texts one is in order with the other.

**Proof sketch.** By the characters of both. The first ones that differ decide. -/
theorem le_total (as bs : Text) : le as bs = true ∨ le bs as = true := by
  induction as generalizing bs with
  | nil => simp [le]
  | cons a as ih =>
    cases bs with
    | nil => simp [le]
    | cons b bs =>
      by_cases h : a = b
      · subst h
        simpa [le] using ih bs
      · have hne : a.toNat ≠ b.toNat := fun e => h (Char.toNat_inj.mp e)
        have h' : ¬ b = a := fun e => h e.symm
        simp only [le, if_neg h, if_neg h', decide_eq_true_eq]
        omega

/-- Texts in order with each other are the same.

**Proof sketch.** Induction on the first text, along with the second. Where their first characters
differ, only one of the two orders can hold. -/
theorem le_antisymm {as bs : Text} (h₁ : le as bs = true)
    (h₂ : le bs as = true) : as = bs := by
  induction as generalizing bs with
  | nil => cases bs with
    | nil => rfl
    | cons b bs => simp [le] at h₂
  | cons a as ih =>
    cases bs with
    | nil => simp [le] at h₁
    | cons b bs =>
      by_cases h : a = b
      · subst h
        simp only [le, if_true] at h₁ h₂
        rw [ih h₁ h₂]
      · have h' : ¬ b = a := fun e => h e.symm
        simp only [le, if_neg h, if_neg h', decide_eq_true_eq] at h₁ h₂
        omega

/-- The order goes on over a third text.

**Proof sketch.** Induction on the first text, along with the others. The first characters of the
three are compared pairwise; where the first two texts agree, so do the orders with the third. -/
theorem le_trans {as bs cs : Text} (h₁ : le as bs = true)
    (h₂ : le bs cs = true) : le as cs = true := by
  induction as generalizing bs cs with
  | nil => simp [le]
  | cons a as ih =>
    cases bs with
    | nil => simp [le] at h₁
    | cons b bs =>
      cases cs with
      | nil => simp [le] at h₂
      | cons c cs =>
        by_cases hab : a = b
        · subst hab
          simp only [le, if_true] at h₁
          by_cases hac : a = c
          · subst hac
            simp only [le, if_true] at h₂ ⊢
            exact ih h₁ h₂
          · simpa [le, hac] using h₂
        · by_cases hbc : b = c
          · subst hbc
            simpa [le, hab] using h₁
          · simp only [le, if_neg hab, if_neg hbc, decide_eq_true_eq] at h₁ h₂
            have hac : ¬ a = c := fun e => by subst e; omega
            simp only [le, if_neg hac, decide_eq_true_eq]
            omega

/-! ## Sorting -/

/-- Inserting a text adds it, and nothing else. -/
theorem insertSorted_perm (a : Text) (bs : List Text) :
    (insertSorted a bs).Perm (a :: bs) := by
  induction bs with
  | nil => exact .refl _
  | cons b bs ih =>
    rw [insertSorted]
    split
    · exact .refl _
    · exact (ih.cons b).trans (.swap a b bs)

/-- Sorting only rearranges. -/
theorem sorted_perm (as : List Text) : (sorted as).Perm as := by
  induction as with
  | nil => exact .refl _
  | cons a as ih => exact (insertSorted_perm a _).trans (ih.cons a)

/-- Sorting keeps what is in a list. -/
theorem mem_sorted {a : Text} {as : List Text} : a ∈ sorted as ↔ a ∈ as :=
  (sorted_perm as).mem_iff

/-- Inserting into a list in order keeps it in order.

**Proof sketch.** Induction on the list. If the text goes first, it is in order with the head and
so with the rest; if not, the head is in order with it, as the order is total. -/
theorem pairwise_insertSorted (a : Text) {bs : List Text}
    (h : bs.Pairwise (fun x y => le x y = true)) :
    (insertSorted a bs).Pairwise (fun x y => le x y = true) := by
  induction bs with
  | nil => simp [insertSorted]
  | cons b bs ih =>
    have hb := List.pairwise_cons.mp h
    rw [insertSorted]
    split
    · next hab =>
      refine List.pairwise_cons.mpr ⟨?_, h⟩
      intro x hx
      rcases List.mem_cons.mp hx with rfl | hx
      · exact hab
      · exact le_trans hab (hb.1 x hx)
    · next hab =>
      have hba : le b a = true := (le_total a b).resolve_left hab
      refine List.pairwise_cons.mpr ⟨?_, ih hb.2⟩
      intro x hx
      rcases List.mem_cons.mp ((insertSorted_perm a bs).mem_iff.mp hx) with rfl | hx
      · exact hba
      · exact hb.1 x hx

/-- The result of sorting is in order. -/
theorem pairwise_sorted (as : List Text) :
    (sorted as).Pairwise (fun x y => le x y = true) := by
  induction as with
  | nil => exact .nil
  | cons a as ih => exact pairwise_insertSorted a ih

/-- A list in order is already sorted.

**Proof sketch.** By the list. The first text is in order with the next one, so it is inserted in
front. -/
theorem sorted_of_pairwise {as : List Text} (h : as.Pairwise (fun x y => le x y = true)) :
    sorted as = as := by
  induction as with
  | nil => rfl
  | cons a as ih =>
    have ha := List.pairwise_cons.mp h
    rw [sorted, ih ha.2]
    cases as with
    | nil => rfl
    | cons b bs => simp [insertSorted, ha.1 b (by simp)]

end ResolverMesh.Text
