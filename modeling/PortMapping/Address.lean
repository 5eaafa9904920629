import PortMapping.Octets

/-!
# Internet addresses and endpoints

An IPv4 address is four octets, an IPv6 address eight groups of sixteen bits.
An endpoint adds a port and, for IPv6, a numeric scope.
-/

namespace PortMapping

/-- An IPv4 address. -/
structure Ipv4 where
  first : UInt8
  second : UInt8
  third : UInt8
  fourth : UInt8
  deriving DecidableEq, Repr

namespace Ipv4

/-- The address that stands for no address, `0.0.0.0`. -/
def unspecified : Ipv4 := ⟨0, 0, 0, 0⟩

instance : Inhabited Ipv4 := ⟨unspecified⟩

/-- Whether an address stands for no address. -/
def isUnspecified (address : Ipv4) : Bool := address = unspecified

/-- The octets of an address, in wire order. -/
def octets (address : Ipv4) : Octets :=
  [address.first, address.second, address.third, address.fourth]

/-- The address in the four octets from a position on. -/
def ofOctetsAt (octets : Octets) (position : Nat) : Ipv4 :=
  ⟨octets.at8 position, octets.at8 (position + 1), octets.at8 (position + 2),
    octets.at8 (position + 3)⟩

@[simp] theorem isUnspecified_iff (address : Ipv4) :
    address.isUnspecified = true ↔ address = unspecified := by
  simp [isUnspecified]

end Ipv4

/-- An IPv6 address. -/
structure Ipv6 where
  groups : List UInt16
  length_groups : groups.length = 8
  deriving DecidableEq, Repr

namespace Ipv6

/-- The address that stands for no address, `::`. -/
def unspecified : Ipv6 := ⟨List.replicate 8 0, rfl⟩

instance : Inhabited Ipv6 := ⟨unspecified⟩

/-- The address with the given groups, if there are eight of them. -/
def ofGroups? (groups : List UInt16) : Option Ipv6 :=
  if length : groups.length = 8 then some ⟨groups, length⟩ else none

/-- Groups written by pairs of octets. -/
def groupsOf : Octets → List UInt16
  | high :: low :: rest => Octets.join16 high low :: groupsOf rest
  | _ => []

/-- The address written by an octet string, if it has sixteen octets. -/
def ofOctets? (octets : Octets) : Option Ipv6 :=
  if octets.length = 16 then ofGroups? (groupsOf octets) else none

/-- The IPv4 address that an IPv4-mapped address stands for. -/
def mapped? (address : Ipv6) : Option Ipv4 :=
  match address.groups with
  | [0, 0, 0, 0, 0, 0xffff, high, low] =>
      some (Ipv4.ofOctetsAt (Octets.ofUInt16 high ++ Octets.ofUInt16 low) 0)
  | _ => none

/-- The first group of an address. -/
def firstGroup (address : Ipv6) : UInt16 := address.groups.headD 0

/-- Whether an address names a group of hosts. -/
def isMulticast (address : Ipv6) : Bool := 0xff00 ≤ address.firstGroup

/-- Whether an address means something only together with an interface: one valid
on a single link, or a group within one link or one machine. -/
def needsScope (address : Ipv6) : Bool :=
  let group := address.firstGroup
  (0xfe80 ≤ group && group ≤ 0xfebf) ||
    (address.isMulticast && (group % 16 = 1 || group % 16 = 2))

end Ipv6

/-- An address of either family. -/
inductive IpAddress where
  | v4 (address : Ipv4)
  | v6 (address : Ipv6)
  deriving DecidableEq, Repr

namespace IpAddress

/-- The IPv4 address, if it is one. -/
def v4? : IpAddress → Option Ipv4
  | .v4 address => some address
  | .v6 _ => none

end IpAddress

/-- An IPv4 address with a port. -/
structure Endpoint4 where
  address : Ipv4
  port : UInt16
  deriving DecidableEq, Repr, Inhabited

/-- An IPv6 address with a numeric scope and a port. -/
structure Endpoint6 where
  address : Ipv6
  scope : UInt32
  port : UInt16
  deriving DecidableEq, Repr, Inhabited

/-- An address of either family with a port. -/
inductive Endpoint where
  | v4 (endpoint : Endpoint4)
  | v6 (endpoint : Endpoint6)
  deriving DecidableEq, Repr

namespace Endpoint

/-- The address of an endpoint, its scope left out. -/
def address : Endpoint → IpAddress
  | .v4 endpoint => .v4 endpoint.address
  | .v6 endpoint => .v6 endpoint.address

/-- The port of an endpoint. -/
def port : Endpoint → UInt16
  | .v4 endpoint => endpoint.port
  | .v6 endpoint => endpoint.port

/-- Whether an endpoint has an IPv4 address. -/
def isV4 : Endpoint → Bool
  | .v4 _ => true
  | .v6 _ => false

/-- An endpoint without a scope. -/
def ofAddress (address : IpAddress) (port : UInt16) : Endpoint :=
  match address with
  | .v4 address => .v4 ⟨address, port⟩
  | .v6 address => .v6 ⟨address, 0, port⟩

/-- The same address at another port. -/
def withPort (endpoint : Endpoint) (port : UInt16) : Endpoint :=
  match endpoint with
  | .v4 endpoint => .v4 { endpoint with port }
  | .v6 endpoint => .v6 { endpoint with port }

end Endpoint

end PortMapping
