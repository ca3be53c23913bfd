import ResolverMesh.Text.Basic
import ResolverMesh.Text.Glyphless

set_option autoImplicit false
set_option relaxedAutoImplicit false

/-!
# Quoted texts

A text between double quotes on one line: the double quote, the backslash and the usual control
characters have short escapes, every other character without a glyph of its own is written as
its code point in braces, and the rest stands as it is.

## Main definitions

* `ResolverMesh.Text.escape` — one character inside the quotes.
* `ResolverMesh.Text.quote` — a quoted text.
-/

namespace ResolverMesh.Text

/-- How one character stands inside the quotes. -/
def escape (c : Char) : Text :=
  if c = '"' then ['\\', '"']
  else if c = '\\' then ['\\', '\\']
  else if c = '\t' then ['\\', 't']
  else if c = '\r' then ['\\', 'r']
  else if c = '\n' then ['\\', 'n']
  else if c.toNat = 0 then ['\\', '0']
  else if isGlyphless c then ['\\', 'u', '\x7b'] ++ hexadecimal c.toNat ++ ['\x7d']
  else [c]

/-- A text between double quotes, on one line. -/
def quote (t : Text) : Text :=
  ['"'] ++ t.flatMap escape ++ ['"']

end ResolverMesh.Text
