import PortMapping.Octets
import PortMapping.Text.Numeral

/-!
# Refused packets

Why a datagram cannot be read.  A packet whose kind is recognised has one
admitted length, fixed by the kind.
-/

namespace PortMapping

/-- Kinds of packets and packet parts with a length of their own. -/
inductive PacketKind where
  | addressRequest
  | mappingRequest
  | addressResponse
  | mappingResponse
  | controlRequest
  | controlAddress
  deriving DecidableEq, Repr

namespace PacketKind

/-- The admitted length; for a port control request, the least one. -/
def length : PacketKind → Nat
  | .addressRequest => 2
  | .mappingRequest => 12
  | .addressResponse => 12
  | .mappingResponse => 16
  | .controlRequest => 24
  | .controlAddress => 16

/-- The name of a kind in messages. -/
def name : PacketKind → String
  | .addressRequest => "address request"
  | .mappingRequest => "mapping request"
  | .addressResponse => "address response"
  | .mappingResponse => "mapping response"
  | .controlRequest => "PCP request"
  | .controlAddress => "PCP address"

end PacketKind

/-- Why a packet was refused. -/
inductive PacketError where
  /-- Shorter than version and opcode. -/
  | undersized (length : Nat)
  /-- Longer than any request. -/
  | oversized (length : Nat)
  /-- A request whose opcode has the response bit set. -/
  | responseOpcode (opcode : UInt8)
  /-- An opcode that does not fit the kind of packet being read. -/
  | unexpectedOpcode (opcode : UInt8)
  /-- A result code without a meaning. -/
  | unknownResult (code : UInt16)
  /-- A length that the kind of packet does not have. -/
  | wrongLength (kind : PacketKind) (length : Nat)
  deriving DecidableEq, Repr

namespace PacketError

/-- An octet as two hexadecimal digits after `0x`. -/
def octetText (octet : UInt8) : String :=
  "0x" ++ String.ofList (Text.hexadecimal (octet.toNat / 16) ++ Text.hexadecimal (octet.toNat % 16))

/-- The words for a refused packet. -/
def message : PacketError → String
  | .undersized length => s!"datagram too short: {length} bytes"
  | .oversized length => s!"datagram too long: {length} bytes"
  | .responseOpcode opcode => s!"opcode {octetText opcode} has the response bit set"
  | .unexpectedOpcode opcode => s!"unexpected opcode {octetText opcode}"
  | .unknownResult code => s!"unknown result code {code}"
  | .wrongLength kind length => s!"{kind.name}, expected {kind.length} bytes, got {length}"

end PacketError

end PortMapping
