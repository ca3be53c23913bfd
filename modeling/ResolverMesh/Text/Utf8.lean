import ResolverMesh.Text.Basic

set_option autoImplicit false
set_option relaxedAutoImplicit false

/-!
# Bytes read as text

UTF-8 read one byte at a time. A byte that cannot go on with the character in progress ends it,
and each such broken character reads as one replacement character: the longest run of bytes that
begins some character and cannot be completed.

## Main definitions

* `ResolverMesh.Text.Utf8.Pending` — a character of which some bytes are still to come.
* `ResolverMesh.Text.Utf8.decode` — bytes as characters, each broken one apart.
* `ResolverMesh.Text.Utf8.decode?` — the text of well-formed bytes only.
* `ResolverMesh.Text.Utf8.decodeLossy` — the text with U+FFFD for each broken character.
* `ResolverMesh.Text.Utf8.encode` — the bytes of a text.
-/

namespace ResolverMesh.Text.Utf8

/-- A character of which the first bytes have been read. -/
structure Pending where
  /-- The bits read so far. -/
  bits : Nat
  /-- How many bytes are still to come, at least one. -/
  missing : Nat
  /-- The least value that the next byte may have. -/
  least : Nat := 0x80
  /-- The greatest value that the next byte may have. -/
  greatest : Nat := 0xBF

/-- What one byte makes of the text so far. -/
inductive Step
  /-- The byte ends a character. -/
  | char (c : Char)
  /-- More bytes of the character follow. -/
  | more (p : Pending)
  /-- No character begins or goes on this way. -/
  | broken

/-- A byte between characters. -/
def first (b : Nat) : Step :=
  if b < 0x80 then .char (Char.ofNat b)
  else if b < 0xC2 then .broken
  else if b < 0xE0 then .more ⟨b - 0xC0, 1, 0x80, 0xBF⟩
  else if b = 0xE0 then .more ⟨0, 2, 0xA0, 0xBF⟩
  else if b = 0xED then .more ⟨0xD, 2, 0x80, 0x9F⟩
  else if b < 0xF0 then .more ⟨b - 0xE0, 2, 0x80, 0xBF⟩
  else if b = 0xF0 then .more ⟨0, 3, 0x90, 0xBF⟩
  else if b < 0xF4 then .more ⟨b - 0xF0, 3, 0x80, 0xBF⟩
  else if b = 0xF4 then .more ⟨4, 3, 0x80, 0x8F⟩
  else .broken

/-- A byte inside a character; the restriction on the first one to follow is lifted. -/
def next (p : Pending) (b : Nat) : Step :=
  if p.least ≤ b ∧ b ≤ p.greatest then
    let bits := p.bits * 64 + (b - 0x80)
    if p.missing ≤ 1 then .char (Char.ofNat bits)
    else .more ⟨bits, p.missing - 1, 0x80, 0xBF⟩
  else .broken

/-- The characters of a sequence of bytes, `none` for each broken one. `pending` is the
character in progress. -/
def decodeFrom (pending : Option Pending) : List UInt8 → List (Option Char)
  | [] => if pending.isSome then [none] else []
  | b :: bs =>
    let fresh := fun (_ : Unit) =>
      match first b.toNat with
      | .char c => some c :: decodeFrom none bs
      | .more p => decodeFrom (some p) bs
      | .broken => none :: decodeFrom none bs
    match pending with
    | none => fresh ()
    | some p =>
      match next p b.toNat with
      | .char c => some c :: decodeFrom none bs
      | .more p => decodeFrom (some p) bs
      | .broken => none :: fresh ()

/-- The characters of a sequence of bytes, `none` for each broken one. -/
def decode (bytes : List UInt8) : List (Option Char) :=
  decodeFrom none bytes

/-- The text of well-formed bytes. -/
def decode? (bytes : List UInt8) : Option Text :=
  let cs := decode bytes
  if cs.all Option.isSome then some (cs.filterMap (fun c => c)) else none

/-- The text of any bytes, with a replacement character for each broken character. -/
def decodeLossy (bytes : List UInt8) : Text :=
  (decode bytes).map (fun c => c.getD '\uFFFD')

/-- The bytes of a text. -/
def encode (t : Text) : List UInt8 :=
  t.flatMap String.utf8EncodeChar

end ResolverMesh.Text.Utf8
