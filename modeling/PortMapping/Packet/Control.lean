import PortMapping.Address
import PortMapping.Packet.Header

/-!
# Port control requests

The fixed header of the port control protocol: version, opcode, lifetime and the
address that the client believes it has.  No operation is served; a client is
told to fall back to the mapping protocol.
-/

namespace PortMapping

/-- The operations of the port control protocol. -/
inductive ControlOperation where
  | announce
  | map
  | peer
  deriving DecidableEq, Repr

namespace ControlOperation

/-- The operation with an opcode. -/
def ofOpcode? (opcode : UInt8) : Option ControlOperation :=
  if opcode = 0 then some .announce
  else if opcode = 1 then some .map
  else if opcode = 2 then some .peer
  else none

end ControlOperation

/-- The header of a port control request. -/
structure ControlHeader where
  version : UInt8
  /-- The opcode without the response bit. -/
  opcode : UInt8
  lifetime : UInt32
  clientAddress : IpAddress
  deriving DecidableEq, Repr

/-- Read the address field of a port control packet.  An IPv4-mapped address is
read as the IPv4 address it stands for. -/
def controlAddress (octets : Octets) : Except PacketError IpAddress :=
  match Ipv6.ofOctets? octets with
  | none => .error (.wrongLength .controlAddress octets.length)
  | some address =>
      match address.mapped? with
      | some inner => .ok (.v4 inner)
      | none => .ok (.v6 address)

namespace ControlHeader

/-- Read the header of a port control request, which is at least a header long
and a multiple of four octets. -/
def parse (datagram : Octets) : Except PacketError ControlHeader :=
  if datagram.length < PacketKind.controlRequest.length ∨ datagram.length % 4 ≠ 0 then
    .error (.wrongLength .controlRequest datagram.length)
  else do
    let clientAddress ← controlAddress ((datagram.drop 8).take 16)
    return { version := datagram.at8 0
             opcode := requestOpcode (datagram.at8 1)
             lifetime := datagram.at32 4
             clientAddress }

/-- Why a well-formed port control request gets no service. -/
def refusal (header : ControlHeader) : String :=
  s!"PCP opcode {header.opcode} not implemented"

end ControlHeader

end PortMapping
