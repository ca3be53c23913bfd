set_option autoImplicit false
set_option relaxedAutoImplicit false

/-!
# Texts

A text is the list of its characters. Names, lines, paths and the contents of files are all
texts, so the laws of lists are the laws of texts; strings appear only where a message is shown.

## Main definitions

* `ResolverMesh.Text` — a text.
* `ResolverMesh.Text.utf8Size` — the number of bytes that a text takes in UTF-8.
* `ResolverMesh.Text.decimal` — a number in decimal.
-/

namespace ResolverMesh

/-- A text: the list of its characters. -/
abbrev Text := List Char

namespace Text

/-- The number of bytes that a text takes in UTF-8. -/
def utf8Size (t : Text) : Nat :=
  t.foldr (fun c n => c.utf8Size + n) 0

/-- A number in decimal, without leading zeros. -/
def decimal (n : Nat) : Text :=
  Nat.toDigits 10 n

/-- A number in lower-case hexadecimal, without leading zeros. -/
def hexadecimal (n : Nat) : Text :=
  Nat.toDigits 16 n

end Text

end ResolverMesh
