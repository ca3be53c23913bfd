import ResolverMesh.Text.Basic

set_option autoImplicit false
set_option relaxedAutoImplicit false

/-!
# Numbers in digits

Reading a number from digits of base ten or sixteen, with no sign, blank or separator.

## Main definitions

* `ResolverMesh.Text.digit?` — the value of a digit.
* `ResolverMesh.Text.number?` — the value of one digit or more.

## Main results

* `ResolverMesh.Text.number?_append` — the value of more digits.
-/

namespace ResolverMesh.Text

/-- The value of a digit below `base`, letters in either case. -/
def digit? (base : Nat) (c : Char) : Option Nat :=
  let n := c.toNat
  let value :=
    if 0x30 ≤ n ∧ n ≤ 0x39 then some (n - 0x30)
    else if 0x41 ≤ n ∧ n ≤ 0x46 then some (n - 0x41 + 10)
    else if 0x61 ≤ n ∧ n ≤ 0x66 then some (n - 0x61 + 10)
    else none
  value.filter (· < base)

/-- The number that digits stand for, `value` being that of the digits already read. -/
def numberFrom (base value : Nat) : Text → Option Nat
  | [] => some value
  | c :: cs => (digit? base c).bind (fun d => numberFrom base (value * base + d) cs)

/-- The number that one digit or more stand for. -/
def number? (base : Nat) (cs : Text) : Option Nat :=
  if cs.isEmpty then none else numberFrom base 0 cs

/-- Digits are read from left to right, each part from the value of the one before. -/
theorem numberFrom_append (base value : Nat) (xs ys : Text) :
    numberFrom base value (xs ++ ys) =
      (numberFrom base value xs).bind (fun v => numberFrom base v ys) := by
  induction xs generalizing value with
  | nil => rfl
  | cons x xs ih => simp [numberFrom, ih, Option.bind_assoc]

/-- The value of digits after a number. -/
theorem number?_append {base : Nat} {xs : Text} (h : xs ≠ []) (ys : Text) :
    number? base (xs ++ ys) = (number? base xs).bind (fun v => numberFrom base v ys) := by
  simp [number?, h, numberFrom_append]

end ResolverMesh.Text
