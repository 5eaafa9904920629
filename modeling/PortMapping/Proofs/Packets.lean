import PortMapping.Packet.Response

/-!
# Reading what was written

What a datagram must have been for a reader to accept it, and what a reader makes
of the datagrams that this gateway writes.
-/

namespace PortMapping

namespace Operation

/-- No two opcodes stand for one operation. -/
theorem eq_opcode_of_ofOpcode? {opcode : UInt8} {operation : Operation}
    (known : ofOpcode? opcode = some operation) : opcode = operation.opcode := by
  rw [ofOpcode?] at known
  split at known
  next zero =>
    cases known
    exact zero
  · split at known
    next one =>
      cases known
      exact one
    · split at known
      next two =>
        cases known
        exact two
      · contradiction

theorem ofOpcode?_eq_none {opcode : UInt8} (unknown : ofOpcode? opcode = none) :
    opcode ≠ 0 ∧ opcode ≠ 1 ∧ opcode ≠ 2 := by
  refine ⟨?_, ?_, ?_⟩
  all_goals
    rintro rfl
    cases unknown

theorem opcode_of_eq_map {opcode : UInt8} {transport : Transport}
    (mapping : opcode = (map transport).opcode) : opcode = 1 ∨ opcode = 2 := by
  subst mapping
  cases transport with
  | udp => exact .inl rfl
  | tcp => exact .inr rfl

/-- An opcode that belongs to no operation is three or more. -/
theorem three_le_of_unknown {opcode : UInt8}
    (unknown : opcode ≠ 0 ∧ opcode ≠ 1 ∧ opcode ≠ 2) : 3 ≤ opcode := by
  rw [ne_eq, ← UInt8.toNat_inj, ne_eq, ← UInt8.toNat_inj, ne_eq, ← UInt8.toNat_inj] at unknown
  rw [UInt8.le_iff_toNat_le]
  change opcode.toNat ≠ 0 ∧ opcode.toNat ≠ 1 ∧ opcode.toNat ≠ 2 at unknown
  change 3 ≤ opcode.toNat
  omega

@[simp] theorem isResponseOpcode_opcode (operation : Operation) :
    isResponseOpcode operation.opcode = false := by
  rcases operation with _ | _ | _ <;> rfl

@[simp] theorem requestOpcode_responseOpcode (operation : Operation) :
    requestOpcode (responseOpcode operation.opcode) = operation.opcode := by
  rcases operation with _ | _ | _ <;> rfl

end Operation

/-- A mapping request is read from a datagram of twelve octets with the opcode of its
transport. -/
theorem form_of_decode {datagram : Octets} {request : MappingRequest}
    (decoded : Request.decode datagram = .ok (.mapping request)) :
    datagram.length = PacketKind.mappingRequest.length ∧
      datagram.at8 1 = (Operation.map request.transport).opcode := by
  rw [Request.decode] at decoded
  split at decoded
  · contradiction
  · split at decoded
    · split at decoded <;> cases decoded
    next transport operation =>
      split at decoded
      next length =>
        cases decoded
        exact ⟨length, Operation.eq_opcode_of_ofOpcode? operation⟩
      · cases decoded
    · cases decoded

/-- The header of a datagram that a mapping request is read from is in order. -/
theorem header_of_decode {datagram : Octets} {request : MappingRequest}
    (decoded : Request.decode datagram = .ok (.mapping request)) :
    Header.parse datagram = .ok ⟨datagram.at8 0, datagram.at8 1⟩ := by
  rcases form_of_decode decoded with ⟨length, opcode⟩
  have notShorter : ¬datagram.length < 2 := by
    rw [length]
    decide
  have notLonger : ¬longestRequest < datagram.length := by
    rw [length]
    decide
  have notResponse : isResponseOpcode (datagram.at8 1) = false := by
    rw [opcode]
    exact Operation.isResponseOpcode_opcode _
  rw [Header.parse, if_neg notShorter, if_neg notLonger, notResponse]
  rfl

/-- A mapping request is read back as it was written. -/
theorem MappingRequest.decode_encode (request : MappingRequest) :
    Request.decode request.encode = .ok (.mapping request) := by
  have opcode : Operation.ofOpcode? (request.encode.at8 1) = some (.map request.transport) :=
    Operation.ofOpcode?_opcode _
  have internalPort : request.encode.at16 4 = request.internalPort :=
    Octets.join16_split request.internalPort
  have externalPort : request.encode.at16 6 = request.externalPort :=
    Octets.join16_split request.externalPort
  have lifetime : request.encode.at32 8 = request.lifetime :=
    Octets.join32_split request.lifetime
  have long : ¬request.encode.length < 2 := Nat.not_lt.mpr (Nat.le_add_left 2 10)
  have length : request.encode.length = PacketKind.mappingRequest.length := rfl
  rw [Request.decode, if_neg long, opcode]
  simp only [if_pos length, internalPort, externalPort, lifetime]

/-- An address response is read back as it was written. -/
theorem AddressResponse.parse_encode (response : AddressResponse) :
    parse response.encode = .ok response := by
  have length : response.encode.length = PacketKind.addressResponse.length := rfl
  have isOpcode : response.encode.at8 1 = opcode := rfl
  have result : ResultCode.ofNumber? (response.encode.at16 2) = some response.result := by
    have number : response.encode.at16 2 = response.result.number :=
      Octets.join16_split response.result.number
    rw [number, ResultCode.ofNumber?_number]
  have epoch : response.encode.at32 4 = response.epoch := Octets.join32_split response.epoch
  rw [parse, if_neg (not_not_intro length), if_neg (not_not_intro isOpcode)]
  simp only [result, epoch]
  rfl

namespace MappingResponse

/-- A mapping response is read back as it was written. -/
theorem parse_encode (response : MappingResponse) : parse response.encode = .ok response := by
  have opcode : Operation.ofOpcode? (requestOpcode (response.encode.at8 1)) =
      some (.map response.transport) := by
    change Operation.ofOpcode?
      (requestOpcode (responseOpcode (Operation.map response.transport).opcode)) = _
    rw [Operation.requestOpcode_responseOpcode, Operation.ofOpcode?_opcode]
  have result : ResultCode.ofNumber? (response.encode.at16 2) = some response.result := by
    have number : response.encode.at16 2 = response.result.number :=
      Octets.join16_split response.result.number
    rw [number, ResultCode.ofNumber?_number]
  have epoch : response.encode.at32 4 = response.epoch := Octets.join32_split response.epoch
  have internalPort : response.encode.at16 8 = response.internalPort :=
    Octets.join16_split response.internalPort
  have externalPort : response.encode.at16 10 = response.externalPort :=
    Octets.join16_split response.externalPort
  have lifetime : response.encode.at32 12 = response.lifetime :=
    Octets.join32_split response.lifetime
  have length : response.encode.length = PacketKind.mappingResponse.length := rfl
  rw [parse, if_neg (not_not_intro length)]
  simp only [opcode, result, epoch, internalPort, externalPort, lifetime]

end MappingResponse

end PortMapping
