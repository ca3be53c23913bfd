import ResolverMesh.Text.Basic

set_option autoImplicit false
set_option relaxedAutoImplicit false

/-!
# Spans of time

A span of time is counted in nanoseconds. It is written in the largest of the units second,
millisecond, microsecond and nanosecond of which it holds at least one, with all decimals it
needs and no trailing zero.

## Main definitions

* `ResolverMesh.Elapsed` — a span of time.
* `ResolverMesh.Elapsed.text` — how it is written.
-/

namespace ResolverMesh

/-- A span of time. -/
structure Elapsed where
  /-- Its length in nanoseconds. -/
  nanos : Nat
  deriving DecidableEq, Repr

namespace Elapsed

/-- A whole number of milliseconds. -/
def ofMillis (ms : Nat) : Elapsed :=
  ⟨ms * 1000000⟩

/-- Seconds and nanoseconds together. -/
def ofSecs (secs nanos : Nat) : Elapsed :=
  ⟨secs * 1000000000 + nanos⟩

/-- The whole milliseconds of a span. -/
def millis (e : Elapsed) : Nat :=
  e.nanos / 1000000

/-- A unit of time. -/
structure Scale where
  /-- Its length in nanoseconds. -/
  size : Nat
  /-- The number of decimals that it can have. -/
  places : Nat
  /-- Its symbol. -/
  symbol : String
  deriving DecidableEq, Repr

/-- The decimals of a remainder, without trailing zeros and with the point in front if any
decimal is left. -/
def decimals (places rest : Nat) : Text :=
  let ds := Text.decimal rest
  let padded := List.replicate (places - ds.length) '0' ++ ds
  let kept := (padded.reverse.dropWhile (· == '0')).reverse
  if kept.isEmpty then [] else '.' :: kept

/-- A number of nanoseconds in a unit. -/
def inUnit (n : Nat) (u : Scale) : String :=
  String.ofList (Text.decimal (n / u.size) ++ decimals u.places (n % u.size)) ++ u.symbol

/-- The largest unit of which a number of nanoseconds holds at least one. -/
def scaleOf (n : Nat) : Scale :=
  if 1000000000 ≤ n then ⟨1000000000, 9, "s"⟩
  else if 1000000 ≤ n then ⟨1000000, 6, "ms"⟩
  else if 1000 ≤ n then ⟨1000, 3, "µs"⟩
  else ⟨1, 0, "ns"⟩

/-- A span in the largest unit of which it holds at least one. -/
def text (e : Elapsed) : String :=
  inUnit e.nanos (scaleOf e.nanos)

end Elapsed

end ResolverMesh
