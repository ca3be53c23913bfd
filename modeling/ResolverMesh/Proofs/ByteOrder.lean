import Mathlib.Data.List.Lex
import Mathlib.Tactic.Lemma
import ResolverMesh.Text.Order
import ResolverMesh.Text.Utf8

set_option autoImplicit false
set_option relaxedAutoImplicit false

/-!
# Dictionary order is byte order

Texts are sorted by code point, and what is on the disk are their UTF-8 bytes. The two orders are
the same: of two different characters, the one with the greater number is not shorter, and the first
byte in which they differ is the greater one. So neither is the beginning of the other, and what
follows them does not matter.

## Main results

* `ResolverMesh.Text.Utf8.encodeChar_append_lt` — one character before another.
* `ResolverMesh.Text.Utf8.encode_le_iff` — the order of texts is that of their bytes.
-/

namespace ResolverMesh.Text.Utf8

/-- The bytes of a character: one to four, with its number cut into groups of six bits from
behind.

**Proof sketch.** By the four ranges of the number of the character. In the upper range of each,
the remainder of the leading group is the group itself. -/
lemma encodeChar_cases (c : Char) :
    c.toNat < 0x80 ∧ String.utf8EncodeChar c = [UInt8.ofNat c.toNat] ∨
    (0x80 ≤ c.toNat ∧ c.toNat < 0x800) ∧ String.utf8EncodeChar c =
      [UInt8.ofNat (c.toNat / 64 + 0xC0), UInt8.ofNat (c.toNat % 64 + 0x80)] ∨
    (0x800 ≤ c.toNat ∧ c.toNat < 0x10000) ∧ String.utf8EncodeChar c =
      [UInt8.ofNat (c.toNat / 4096 + 0xE0), UInt8.ofNat (c.toNat / 64 % 64 + 0x80),
        UInt8.ofNat (c.toNat % 64 + 0x80)] ∨
    (0x10000 ≤ c.toNat ∧ c.toNat < 0x110000) ∧ String.utf8EncodeChar c =
      [UInt8.ofNat (c.toNat / 262144 + 0xF0), UInt8.ofNat (c.toNat / 4096 % 64 + 0x80),
        UInt8.ofNat (c.toNat / 64 % 64 + 0x80), UInt8.ofNat (c.toNat % 64 + 0x80)] := by
  have hbound : c.toNat < 0x110000 := by
    have hvalid : c.toNat.isValidChar := c.valid
    unfold Nat.isValidChar at hvalid
    omega
  have hval : c.val.toNat = c.toNat := rfl
  unfold String.utf8EncodeChar
  rw [hval]
  dsimp only
  split
  · exact .inl ⟨by omega, rfl⟩
  · split
    · refine .inr (.inl ⟨by omega, ?_⟩)
      rw [Nat.mod_eq_of_lt (by omega)]
    · split
      · refine .inr (.inr (.inl ⟨by omega, ?_⟩))
        rw [Nat.mod_eq_of_lt (by omega)]
      · refine .inr (.inr (.inr ⟨by omega, ?_⟩))
        rw [Nat.mod_eq_of_lt (by omega)]

/-- Sequences of bytes are compared by their first bytes, and then by the others. -/
lemma cons_lt_cons_iff {m n : Nat} (hm : m < 256) (hn : n < 256) {s t : List UInt8} :
    UInt8.ofNat m :: s < UInt8.ofNat n :: t ↔ m < n ∨ m = n ∧ s < t := by
  rw [List.cons_lt_cons_iff, UInt8.lt_iff_toNat_lt, ← UInt8.toNat_inj, UInt8.toNat_ofNat',
    UInt8.toNat_ofNat', Nat.mod_eq_of_lt (by omega), Nat.mod_eq_of_lt (by omega)]

/-- **A character with a smaller number** comes first in bytes, whatever follows. -/
theorem encodeChar_append_lt {a b : Char} (h : a.toNat < b.toNat) (s t : List UInt8) :
    String.utf8EncodeChar a ++ s < String.utf8EncodeChar b ++ t := by
  -- one case for each pair of lengths: longer characters begin with greater bytes
  rcases encodeChar_cases a with ⟨ha, ea⟩ | ⟨ha, ea⟩ | ⟨ha, ea⟩ | ⟨ha, ea⟩ <;>
  rcases encodeChar_cases b with ⟨hb, eb⟩ | ⟨hb, eb⟩ | ⟨hb, eb⟩ | ⟨hb, eb⟩ <;>
  rw [ea, eb] <;> simp only [List.cons_append, List.nil_append] <;>
  simp (disch := omega) only [cons_lt_cons_iff] <;> omega

/-- The bytes of a character come before those of the rest. -/
lemma encode_cons (a : Char) (t : Text) :
    encode (a :: t) = String.utf8EncodeChar a ++ encode t := by
  rw [encode, List.flatMap_cons, encode]

/-- A common beginning does not matter for the order. -/
lemma append_le_append_iff (xs s t : List UInt8) : xs ++ s ≤ xs ++ t ↔ s ≤ t := by
  induction xs with
  | nil => rfl
  | cons x xs ih =>
    rw [List.cons_append, List.cons_append, List.cons_le_cons_iff]
    simp [ih]

/-- **Dictionary order is byte order.**

**Proof sketch.** The first characters in which two texts differ decide both orders, by
`encodeChar_append_lt`; and where one text ends first, so do its bytes. -/
theorem encode_le_iff {as bs : Text} : encode as ≤ encode bs ↔ le as bs = true := by
  induction as generalizing bs with
  | nil => exact ⟨fun _ => rfl, fun _ => List.nil_le _⟩
  | cons a as ih =>
    cases bs with
    | nil =>
      have hfirst : ∃ b s, encode (a :: as) = b :: s := by
        refine List.exists_cons_of_ne_nil ?_
        rcases encodeChar_cases a with ⟨-, ea⟩ | ⟨-, ea⟩ | ⟨-, ea⟩ | ⟨-, ea⟩ <;>
          simp [encode_cons, ea]
      obtain ⟨b, s, hbs⟩ := hfirst
      rw [hbs]
      simp [encode, le]
    | cons b bs =>
      rw [encode_cons, encode_cons, le]
      rcases Nat.lt_trichotomy a.toNat b.toNat with hlt | heq | hgt
      · have hne : a ≠ b := fun he => Nat.ne_of_lt hlt (congrArg Char.toNat he)
        simp [hne, hlt, List.le_of_lt (encodeChar_append_lt hlt (encode as) (encode bs))]
      · rw [Char.toNat_inj.mp heq, if_pos rfl, append_le_append_iff, ih]
      · have hne : a ≠ b := fun he => Nat.ne_of_gt hgt (congrArg Char.toNat he)
        have hno : ¬ a.toNat < b.toNat := Nat.lt_asymm hgt
        simp [hne, hno, encodeChar_append_lt hgt (encode bs) (encode as)]

end ResolverMesh.Text.Utf8
