import ResolverMesh.Address.Basic
import ResolverMesh.Text.Pieces

set_option autoImplicit false
set_option relaxedAutoImplicit false

/-!
# Written addresses

Octets are written in decimal between dots. Groups are written in lower-case hexadecimal between
colons; the first of the longest runs of zero groups, if that is two groups or more, is left out
between two colons. An address whose first five groups are zero and whose sixth is `ffff` stands
for four octets and is written with them.

## Main definitions

* `ResolverMesh.Address.text` — an address as text.
-/

namespace ResolverMesh.Address

/-- Octets in decimal between dots. -/
def dotted (octets : List UInt8) : Text :=
  Text.glue '.' (octets.map (fun o => Text.decimal o.toNat))

/-- Groups in hexadecimal between colons. -/
def colonned (groups : List UInt16) : Text :=
  Text.glue ':' (groups.map (fun g => Text.hexadecimal g.toNat))

/-- A run of zero groups. -/
structure ZeroRun where
  /-- The number of groups in front of it. -/
  start : Nat
  /-- The number of its groups. -/
  size : Nat

/-- The first of the longest runs of zero groups: `best` is the best so far, `current` the run
that ends in front of `groups`, and `index` counts the groups read. -/
def longestRun (best current : ZeroRun) (index : Nat) : List UInt16 → ZeroRun
  | [] => best
  | g :: gs =>
    if g = 0 then
      let run : ZeroRun :=
        if current.size = 0 then ⟨index, 1⟩ else ⟨current.start, current.size + 1⟩
      longestRun (if best.size < run.size then run else best) run (index + 1) gs
    else longestRun best ⟨0, 0⟩ (index + 1) gs

/-- Groups with their first longest run of zeros left out. -/
def compressed (groups : List UInt16) : Text :=
  let run := longestRun ⟨0, 0⟩ ⟨0, 0⟩ 0 groups
  if 2 ≤ run.size then
    colonned (groups.take run.start) ++ [':', ':'] ++ colonned (groups.drop (run.start + run.size))
  else colonned groups

/-- The two octets of a group. -/
def octetsOf (g : UInt16) : List UInt8 :=
  [(g >>> 8).toUInt8, g.toUInt8]

/-- Eight groups as text. -/
def groupsText (groups : List UInt16) : Text :=
  match groups with
  | [0, 0, 0, 0, 0, 0xffff, a, b] => "::ffff:".toList ++ dotted (octetsOf a ++ octetsOf b)
  | _ => compressed groups

/-- An address as text. -/
def text : Address → Text
  | .v4 octets => dotted octets.toList
  | .v6 groups => groupsText groups.toList

end ResolverMesh.Address
