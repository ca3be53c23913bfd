set_option autoImplicit false
set_option relaxedAutoImplicit false

/-!
# Network addresses

The addresses of containers and of resolver daemons: four octets, or eight groups of sixteen
bits.

## Main definitions

* `ResolverMesh.Address` — an address of either family.
-/

namespace ResolverMesh

/-- A network address. -/
inductive Address
  /-- Four octets. -/
  | v4 (octets : Vector UInt8 4)
  /-- Eight groups of sixteen bits. -/
  | v6 (groups : Vector UInt16 8)
  deriving DecidableEq, Repr

end ResolverMesh
