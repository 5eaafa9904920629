import PortMapping.Packet.Error

/-!
# The common header

Every datagram starts with a version and an opcode.  Requests have opcodes below
128; responses have the highest bit of the opcode set, so no response is ever
taken for a request.
-/

namespace PortMapping

/-- The version of the mapping protocol. -/
def mappingVersion : UInt8 := 0

/-- The version of the port control protocol. -/
def controlVersion : UInt8 := 2

/-- The port requests are sent to. -/
def serverPort : UInt16 := 5351

/-- The port clients receive announcements on. -/
def clientPort : UInt16 := 5350

/-- The length of the longest request. -/
def longestRequest : Nat := 1100

/-- The bit that tells responses from requests. -/
def responseBit : UInt8 := 0x80

/-- Whether an opcode belongs to a response. -/
def isResponseOpcode (opcode : UInt8) : Bool := responseBit ≤ opcode

/-- The opcode of the response to a request. -/
def responseOpcode (opcode : UInt8) : UInt8 := opcode ||| responseBit

/-- The opcode of a request without the response bit. -/
def requestOpcode (opcode : UInt8) : UInt8 := opcode &&& 0x7f

/-- Version and opcode of a request. -/
structure Header where
  version : UInt8
  opcode : UInt8
  deriving DecidableEq, Repr

namespace Header

/-- Read the header of a request.  Its length is checked first, then the
response bit. -/
def parse (datagram : Octets) : Except PacketError Header :=
  if datagram.length < 2 then .error (.undersized datagram.length)
  else if longestRequest < datagram.length then .error (.oversized datagram.length)
  else if isResponseOpcode (datagram.at8 1) then .error (.responseOpcode (datagram.at8 1))
  else .ok ⟨datagram.at8 0, datagram.at8 1⟩

end Header

end PortMapping
