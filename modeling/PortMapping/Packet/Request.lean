import PortMapping.Transport
import PortMapping.Packet.Header

/-!
# Mapping protocol requests

A client asks for the external address, for a mapping, or for something this
gateway does not know, which is kept whole so that it can be echoed.

```text
address request   version, opcode 0
mapping request   version, opcode 1 or 2, two unused octets,
                  internal port, external port, lifetime
```
-/

namespace PortMapping

/-- The operations of the mapping protocol. -/
inductive Operation where
  | externalAddress
  | map (transport : Transport)
  deriving DecidableEq, Repr

namespace Operation

/-- The operation with an opcode. -/
def ofOpcode? (opcode : UInt8) : Option Operation :=
  if opcode = 0 then some .externalAddress
  else if opcode = 1 then some (.map .udp)
  else if opcode = 2 then some (.map .tcp)
  else none

/-- The opcode of an operation. -/
def opcode : Operation → UInt8
  | .externalAddress => 0
  | .map .udp => 1
  | .map .tcp => 2

@[simp] theorem ofOpcode?_opcode (operation : Operation) :
    ofOpcode? operation.opcode = some operation := by
  rcases operation with _ | (_ | _) <;> rfl

end Operation

/-- A request for a mapping, or for its deletion. -/
structure MappingRequest where
  transport : Transport
  /-- The port on the client that traffic should reach; zero for every port. -/
  internalPort : UInt16
  /-- The port on the gateway that the client would like. -/
  externalPort : UInt16
  /-- The lifetime in seconds; zero to delete. -/
  lifetime : UInt32
  deriving DecidableEq, Repr

namespace MappingRequest

/-- The datagram that carries a mapping request. -/
def encode (request : MappingRequest) : Octets :=
  [mappingVersion, (Operation.map request.transport).opcode, 0, 0] ++
    Octets.ofUInt16 request.internalPort ++ Octets.ofUInt16 request.externalPort ++
    Octets.ofUInt32 request.lifetime

end MappingRequest

/-- A request of the mapping protocol. -/
inductive Request where
  | externalAddress
  | mapping (request : MappingRequest)
  | unsupported (opcode : UInt8) (datagram : Octets)
  deriving DecidableEq, Repr

namespace Request

/-- Read a request.  The version is not looked at; an operation that is known
must come in a datagram of its one length. -/
def decode (datagram : Octets) : Except PacketError Request :=
  if datagram.length < 2 then .error (.undersized datagram.length)
  else
    match Operation.ofOpcode? (datagram.at8 1) with
    | some .externalAddress =>
        if datagram.length = PacketKind.addressRequest.length then .ok .externalAddress
        else .error (.wrongLength .addressRequest datagram.length)
    | some (.map transport) =>
        if datagram.length = PacketKind.mappingRequest.length then
          .ok (.mapping
            { transport
              internalPort := datagram.at16 4
              externalPort := datagram.at16 6
              lifetime := datagram.at32 8 })
        else .error (.wrongLength .mappingRequest datagram.length)
    | none => .ok (.unsupported (datagram.at8 1) datagram)

end Request

end PortMapping
