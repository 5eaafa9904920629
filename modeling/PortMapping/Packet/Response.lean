import PortMapping.Address
import PortMapping.Packet.Request

/-!
# Mapping protocol responses

Every response repeats version zero, has the response bit set in its opcode, and
carries a result code.  Nearly all carry the gateway's uptime in seconds, the
epoch, by which clients notice that mappings were lost.

```text
address response   0, 128, result, epoch, address                      12 octets
mapping response   0, 129 or 130, result, epoch,
                   internal port, external port, lifetime              16 octets
version refusal    0, 128, result, epoch                                8 octets
opcode refusal     the request with the result filled in
```
-/

namespace PortMapping

/-- What became of a request. -/
inductive ResultCode where
  | success
  | unsupportedVersion
  | notAuthorized
  | networkFailure
  | outOfResources
  | unsupportedOpcode
  deriving DecidableEq, Repr

namespace ResultCode

/-- The number of a result on the wire. -/
def number : ResultCode → UInt16
  | .success => 0
  | .unsupportedVersion => 1
  | .notAuthorized => 2
  | .networkFailure => 3
  | .outOfResources => 4
  | .unsupportedOpcode => 5

/-- The result with a number. -/
def ofNumber? (number : UInt16) : Option ResultCode :=
  if number = 0 then some .success
  else if number = 1 then some .unsupportedVersion
  else if number = 2 then some .notAuthorized
  else if number = 3 then some .networkFailure
  else if number = 4 then some .outOfResources
  else if number = 5 then some .unsupportedOpcode
  else none

/-- The words for a result. -/
def message : ResultCode → String
  | .success => "Success"
  | .unsupportedVersion => "Unsupported NAT-PMP version"
  | .notAuthorized => "Not authorized/refused"
  | .networkFailure => "Network failure"
  | .outOfResources => "Out of resources"
  | .unsupportedOpcode => "Unsupported opcode"

@[simp] theorem ofNumber?_number (result : ResultCode) :
    ofNumber? result.number = some result := by
  cases result <;> rfl

end ResultCode

/-- The answer to an address request, also sent as an announcement. -/
structure AddressResponse where
  result : ResultCode
  epoch : UInt32
  address : Ipv4
  deriving DecidableEq, Repr

namespace AddressResponse

/-- The opcode of an address response. -/
def opcode : UInt8 := responseOpcode Operation.externalAddress.opcode

/-- The datagram that carries an address response. -/
def encode (response : AddressResponse) : Octets :=
  [mappingVersion, opcode] ++ Octets.ofUInt16 response.result.number ++
    Octets.ofUInt32 response.epoch ++ response.address.octets

/-- Read an address response: its length, then its opcode, then its result. -/
def parse (datagram : Octets) : Except PacketError AddressResponse :=
  if datagram.length ≠ PacketKind.addressResponse.length then
    .error (.wrongLength .addressResponse datagram.length)
  else if datagram.at8 1 ≠ opcode then .error (.unexpectedOpcode (datagram.at8 1))
  else
    match ResultCode.ofNumber? (datagram.at16 2) with
    | none => .error (.unknownResult (datagram.at16 2))
    | some result => .ok ⟨result, datagram.at32 4, Ipv4.ofOctetsAt datagram 8⟩

end AddressResponse

/-- The answer to a mapping request. -/
structure MappingResponse where
  transport : Transport
  result : ResultCode
  epoch : UInt32
  internalPort : UInt16
  externalPort : UInt16
  lifetime : UInt32
  deriving DecidableEq, Repr

namespace MappingResponse

/-- The datagram that carries a mapping response. -/
def encode (response : MappingResponse) : Octets :=
  [mappingVersion, responseOpcode (Operation.map response.transport).opcode] ++
    Octets.ofUInt16 response.result.number ++ Octets.ofUInt32 response.epoch ++
    Octets.ofUInt16 response.internalPort ++ Octets.ofUInt16 response.externalPort ++
    Octets.ofUInt32 response.lifetime

/-- Read a mapping response: its length, then its opcode, then its result.  The
response bit of the opcode is not looked at. -/
def parse (datagram : Octets) : Except PacketError MappingResponse :=
  if datagram.length ≠ PacketKind.mappingResponse.length then
    .error (.wrongLength .mappingResponse datagram.length)
  else
    match Operation.ofOpcode? (requestOpcode (datagram.at8 1)) with
    | some (.map transport) =>
        match ResultCode.ofNumber? (datagram.at16 2) with
        | none => .error (.unknownResult (datagram.at16 2))
        | some result =>
            .ok
              { transport
                result
                epoch := datagram.at32 4
                internalPort := datagram.at16 8
                externalPort := datagram.at16 10
                lifetime := datagram.at32 12 }
    | _ => .error (.unexpectedOpcode (datagram.at8 1))

end MappingResponse

/-- The answer to a request of a version this gateway does not speak. -/
def versionRefusal (epoch : UInt32) : Octets :=
  [mappingVersion, responseBit] ++ Octets.ofUInt16 ResultCode.unsupportedVersion.number ++
    Octets.ofUInt32 epoch

/-- The answer to a request with an unknown opcode: the request itself with
version zero, the response bit and the result filled in.  A request too short to
hold a result is padded. -/
def opcodeRefusal (request : Octets) : Octets :=
  [mappingVersion, responseOpcode (request.at8 1)] ++
    Octets.ofUInt16 ResultCode.unsupportedOpcode.number ++ request.drop 4

end PortMapping
