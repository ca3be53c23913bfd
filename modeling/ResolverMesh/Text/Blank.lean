import ResolverMesh.Text.Pieces

set_option autoImplicit false
set_option relaxedAutoImplicit false

/-!
# Blank characters

The characters that count as blank when a pid file is trimmed or a hosts line is split into
fields: those with the Unicode property `White_Space`.

## Main definitions

* `ResolverMesh.Text.isBlank` — the class.
* `ResolverMesh.Text.trim` — a text without the blanks at its two ends.
* `ResolverMesh.Text.words` — the non-empty pieces between blanks.
-/

namespace ResolverMesh.Text

/-- The characters with the Unicode property `White_Space`. -/
def isBlank (c : Char) : Bool :=
  let n := c.toNat
  (0x09 ≤ n && n ≤ 0x0D) || n == 0x20 || n == 0x85 || n == 0xA0 || n == 0x1680 ||
    (0x2000 ≤ n && n ≤ 0x200A) || n == 0x2028 || n == 0x2029 || n == 0x202F || n == 0x205F ||
    n == 0x3000

/-- A text without the blanks at its two ends. -/
def trim (t : Text) : Text :=
  ((t.dropWhile isBlank).reverse.dropWhile isBlank).reverse

/-- The blank-separated fields of a text; runs of blanks separate once. -/
def words (cs : Text) : List Text :=
  (pieces isBlank cs).filter (fun w => !w.isEmpty)

end ResolverMesh.Text
