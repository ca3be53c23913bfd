import ResolverMesh.Address.Basic
import ResolverMesh.Text.Number
import ResolverMesh.Text.Pieces

set_option autoImplicit false
set_option relaxedAutoImplicit false

/-!
# Reading addresses

Four octets are decimal numbers up to 255 without leading zeros, between dots. Eight groups are
hexadecimal numbers of at most four digits between colons; two colons in a row stand, once, for
one or more zero groups, and the last two groups may be written as four octets. Nothing else is
an address: no blank, zone or length of a network.

## Main definitions

* `ResolverMesh.Address.parse?` — the address that a text stands for, if any.
-/

namespace ResolverMesh.Address

open Text (pieces number?)

/-- A number of at most `most` digits. -/
def numberUpTo? (base most : Nat) (cs : Text) : Option Nat :=
  if most < cs.length then none else number? base cs

/-- A decimal number up to 255 without leading zeros. -/
def octet? (cs : Text) : Option UInt8 :=
  if cs.head? = some '0' ∧ 1 < cs.length then none
  else (numberUpTo? 10 3 cs).bind (fun n => if n ≤ 255 then some n.toUInt8 else none)

/-- Four octets between dots. -/
def octets? (cs : Text) : Option (Vector UInt8 4) :=
  ((pieces (· == '.') cs).mapM octet?).bind (fun os =>
    if h : os.length = 4 then some ⟨os.toArray, by simpa using h⟩ else none)

/-- A hexadecimal number of at most four digits. -/
def group? (cs : Text) : Option UInt16 :=
  (numberUpTo? 16 4 cs).map Nat.toUInt16

/-- Groups between colons; no text is no group. -/
def plainGroups? (cs : Text) : Option (List UInt16) :=
  if cs.isEmpty then some [] else (pieces (· == ':') cs).mapM group?

/-- Two octets as one group. -/
def groupOf (a b : UInt8) : UInt16 :=
  (a.toNat * 256 + b.toNat).toUInt16

/-- The groups that the last of several colon-separated pieces stands for: one group, or two
written as four octets. -/
def lastGroups? (cs : Text) : Option (List UInt16) :=
  match octets? cs with
  | some os => some [groupOf os[0] os[1], groupOf os[2] os[3]]
  | none => (group? cs).map ([·])

/-- Groups between colons, the last two possibly written as four octets; no text is no group. -/
def groups? (cs : Text) : Option (List UInt16) :=
  if cs.isEmpty then some []
  else
    let parts := pieces (· == ':') cs
    (parts.dropLast.mapM group?).bind (fun front =>
      (lastGroups? (parts.getLastD [])).map (front ++ ·))

/-- What stands in front of the first two colons in a row and what follows them. -/
def cutAtGap : Text → Option (Text × Text)
  | ':' :: ':' :: rest => some ([], rest)
  | [] => none
  | c :: cs => (cutAtGap cs).map (fun r => (c :: r.1, r.2))

/-- Eight groups; a gap stands for at least one of them. -/
def eightGroups? (cs : Text) : Option (List UInt16) :=
  match cutAtGap cs with
  | none => groups? cs
  | some (front, back) =>
    (plainGroups? front).bind (fun fs => (groups? back).bind (fun bs =>
      if fs.length + bs.length ≤ 7 then
        some (fs ++ List.replicate (8 - fs.length - bs.length) 0 ++ bs)
      else none))

/-- The address that a text stands for, if any. -/
def parse? (cs : Text) : Option Address :=
  match octets? cs with
  | some os => some (.v4 os)
  | none =>
    (eightGroups? cs).bind (fun gs =>
      if h : gs.length = 8 then some (.v6 ⟨gs.toArray, by simpa using h⟩) else none)

end ResolverMesh.Address
