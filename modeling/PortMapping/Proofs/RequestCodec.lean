import PortMapping.Proofs.ResponseCodecs

/-!
# Requests and the datagrams that carry them

What a datagram is read as depends on its opcode and its length, and `Request.Reads` has one case
for each way the two go together.  A mapping request is what is written as the datagram was, once
the octets that are not looked at are zero: the version and the two unused ones.  So nothing else
of the datagram is lost, and a request that is written is read back.
-/

namespace PortMapping

/-! ## Octets that are not looked at -/

namespace Octets

variable {octets : Octets}

/-- Replacing an octet leaves the others. -/
theorem at8_set_of_ne {position other : Nat} (differ : position ≠ other) (octet : UInt8) :
    at8 (octets.set position octet) other = octets.at8 other := by
  rw [at8, at8, List.getD_eq_getElem?_getD, List.getD_eq_getElem?_getD,
    List.getElem?_set_ne differ]

/-- Replacing the first, third and fourth octets leaves the second and what follows. -/
theorem set_zero_two_three (headed : 4 ≤ octets.length) (first third fourth : UInt8) :
    ((octets.set 0 first).set 2 third).set 3 fourth =
      first :: octets.at8 1 :: third :: fourth :: octets.drop 4 := by
  match octets, headed with
  | _ :: _ :: _ :: _ :: _, _ => rfl

end Octets

namespace MappingRequest

/-- A datagram with its version and its unused octets zero. -/
def refill (datagram : Octets) : Octets := ((datagram.set 0 0).set 2 0).set 3 0

/-- Two datagrams have the same octets but for the version and the unused ones. -/
def SameFields (first second : Octets) : Prop :=
  ∀ position, position ≠ 0 → position ≠ 2 → position ≠ 3 →
    first.at8 position = second.at8 position

variable {first second : Octets}

theorem at8_refill {position : Nat} (version : position ≠ 0) (unused : position ≠ 2)
    (alsoUnused : position ≠ 3) (datagram : Octets) :
    (refill datagram).at8 position = datagram.at8 position := by
  rw [refill, Octets.at8_set_of_ne alsoUnused.symm, Octets.at8_set_of_ne unused.symm,
    Octets.at8_set_of_ne version.symm]

/-- Filling in forgets just what is not looked at. -/
theorem refill_eq_iff (headed : 4 ≤ first.length) (length : second.length = first.length) :
    refill first = refill second ↔ SameFields first second := by
  constructor
  · intro same position version unused alsoUnused
    rw [← at8_refill version unused alsoUnused first, same,
      at8_refill version unused alsoUnused second]
  · intro same
    have tails : first.drop 4 = second.drop 4 := by
      apply List.ext_getElem
      · rw [List.length_drop, List.length_drop, length]
      · intro position within alsoWithin
        rw [List.length_drop] at within alsoWithin
        have octet := same (4 + position) (by omega) (by omega) (by omega)
        simpa [Octets.at8, List.getElem_drop, show 4 + position < first.length by omega,
          show 4 + position < second.length by omega] using octet
    rw [refill, refill, Octets.set_zero_two_three headed,
      Octets.set_zero_two_three (headed.trans (Nat.le_of_eq length.symm)), tails,
      same 1 (by decide) (by decide) (by decide)]

theorem encode_injective : Function.Injective encode := by
  intro left right same
  have read := right.decode_encode
  rw [← same, left.decode_encode] at read
  cases read
  rfl

/-- A mapping request has the header of its operation. -/
theorem header_encode (request : MappingRequest) :
    Header.parse request.encode =
      .ok ⟨mappingVersion, (Operation.map request.transport).opcode⟩ :=
  header_of_decode request.decode_encode

end MappingRequest

/-! ## Opcodes -/

namespace Operation

/-- An opcode asks for the address, for a mapping, or for something unknown. -/
theorem opcode_cases (opcode : UInt8) :
    opcode = 0 ∨ (∃ transport, opcode = (map transport).opcode) ∨ 3 ≤ opcode := by
  cases known : ofOpcode? opcode with
  | some operation =>
      rw [eq_opcode_of_ofOpcode? known]
      cases operation with
      | externalAddress => exact .inl rfl
      | map transport => exact .inr (.inl ⟨transport, rfl⟩)
  | none => exact .inr (.inr (three_le_of_unknown (ofOpcode?_eq_none known)))

theorem ofOpcode?_of_three_le {opcode : UInt8} (unknown : 3 ≤ opcode) :
    ofOpcode? opcode = none := by
  cases known : ofOpcode? opcode with
  | none => rfl
  | some operation =>
      rw [eq_opcode_of_ofOpcode? known] at unknown
      rcases operation with _ | _ | _ <;> exact absurd unknown (by decide)

theorem eq_map_opcode_iff {opcode : UInt8} :
    (∃ transport, opcode = (map transport).opcode) ↔ opcode = 1 ∨ opcode = 2 := by
  constructor
  · rintro ⟨transport, mapping⟩
    exact opcode_of_eq_map mapping
  · rintro (rfl | rfl)
    · exact ⟨.udp, rfl⟩
    · exact ⟨.tcp, rfl⟩

end Operation

/-! ## The reader -/

namespace Request

/-- What a datagram is read as, or why it is refused. -/
inductive Reads (datagram : Octets) : Except PacketError Request → Prop where
  /-- No opcode. -/
  | short (short : datagram.length < 2) : Reads datagram (.error (.undersized datagram.length))
  | address (opcode : datagram.at8 1 = 0) (length : datagram.length = 2) :
      Reads datagram (.ok .externalAddress)
  | missizedAddress (long : 2 ≤ datagram.length) (opcode : datagram.at8 1 = 0)
      (length : datagram.length ≠ 2) :
      Reads datagram (.error (.wrongLength .addressRequest datagram.length))
  /-- The request that is written so, but for the octets that are not looked at. -/
  | mapping {request : MappingRequest} (opcode : datagram.at8 1 = 1 ∨ datagram.at8 1 = 2)
      (transport : request.transport = .udp ↔ datagram.at8 1 = 1)
      (length : datagram.length = 12)
      (written : request.encode = MappingRequest.refill datagram) :
      Reads datagram (.ok (.mapping request))
  | missizedMapping (long : 2 ≤ datagram.length)
      (opcode : datagram.at8 1 = 1 ∨ datagram.at8 1 = 2) (length : datagram.length ≠ 12) :
      Reads datagram (.error (.wrongLength .mappingRequest datagram.length))
  /-- Of any length, and kept whole. -/
  | unsupported (opcode : 3 ≤ datagram.at8 1) :
      Reads datagram (.ok (.unsupported (datagram.at8 1) datagram))

variable {datagram : Octets}

theorem decode_of_short (short : datagram.length < 2) :
    decode datagram = .error (.undersized datagram.length) :=
  if_pos short

theorem decode_of_address (long : 2 ≤ datagram.length) (opcode : datagram.at8 1 = 0) :
    decode datagram =
      if datagram.length = 2 then .ok .externalAddress
      else .error (.wrongLength .addressRequest datagram.length) := by
  rw [decode, if_neg (Nat.not_lt.mpr long), opcode]
  rfl

theorem decode_of_missizedMapping {transport : Transport} (long : 2 ≤ datagram.length)
    (opcode : datagram.at8 1 = (Operation.map transport).opcode) (length : datagram.length ≠ 12) :
    decode datagram = .error (.wrongLength .mappingRequest datagram.length) := by
  rw [decode, if_neg (Nat.not_lt.mpr long), opcode, Operation.ofOpcode?_opcode]
  exact if_neg length

/-- A datagram with the length and the opcode of a mapping request carries one. -/
theorem exists_decode_of_mapping {transport : Transport}
    (opcode : datagram.at8 1 = (Operation.map transport).opcode) (length : datagram.length = 12) :
    ∃ request, decode datagram = .ok (.mapping request) ∧ request.transport = transport ∧
      request.encode = MappingRequest.refill datagram := by
  let request : MappingRequest :=
    { transport
      internalPort := datagram.at16 4
      externalPort := datagram.at16 6
      lifetime := datagram.at32 8 }
  have long : ¬datagram.length < 2 := by omega
  have hasLength : datagram.length = PacketKind.mappingRequest.length := length
  have decoded : decode datagram = .ok (.mapping request) := by
    rw [decode, if_neg long, opcode, Operation.ofOpcode?_opcode]
    exact if_pos hasLength
  have written : request.encode =
      0 :: datagram.at8 1 :: 0 :: 0 ::
        ((List.range PacketKind.mappingRequest.length).map datagram.at8).drop 4 := by
    simp only [MappingRequest.encode, request, ← opcode, Octets.ofUInt16_at16,
      Octets.ofUInt32_at32]
    rfl
  have headed : 4 ≤ datagram.length := by omega
  refine ⟨request, decoded, rfl, ?_⟩
  rw [written, datagram.map_at8_range hasLength, MappingRequest.refill,
    Octets.set_zero_two_three headed]

theorem decode_of_unsupported (opcode : 3 ≤ datagram.at8 1) :
    decode datagram = .ok (.unsupported (datagram.at8 1) datagram) := by
  have long : ¬datagram.length < 2 := by
    intro short
    have absent : datagram.at8 1 = 0 := by
      rw [Octets.at8, List.getD_eq_getElem?_getD,
        List.getElem?_eq_none (Nat.le_of_lt_succ short), Option.getD_none]
    rw [absent] at opcode
    exact absurd opcode (by decide)
  rw [decode, if_neg long, Operation.ofOpcode?_of_three_le opcode]

/-- Every datagram is read as its opcode and its length say. -/
theorem reads_decode (datagram : Octets) : Reads datagram (decode datagram) := by
  by_cases short : datagram.length < 2
  · rw [decode_of_short short]
    exact .short short
  have long : 2 ≤ datagram.length := Nat.le_of_not_lt short
  rcases Operation.opcode_cases (datagram.at8 1) with address | ⟨transport, mapping⟩ | unknown
  · rw [decode_of_address long address]
    split
    next length => exact .address address length
    next length => exact .missizedAddress long address length
  · have opcode := Operation.eq_map_opcode_iff.mp ⟨transport, mapping⟩
    by_cases length : datagram.length = 12
    · rcases exists_decode_of_mapping mapping length with ⟨request, decoded, rfl, written⟩
      rw [decoded]
      refine .mapping opcode ?_ length written
      rw [mapping]
      cases request.transport <;> decide
    · rw [decode_of_missizedMapping long mapping length]
      exact .missizedMapping long opcode length
  · rw [decode_of_unsupported unknown]
    exact .unsupported unknown

theorem decode_of_reads {result : Except PacketError Request} (reads : Reads datagram result) :
    decode datagram = result := by
  cases reads with
  | short short => exact decode_of_short short
  | address opcode length =>
      rw [decode_of_address (Nat.le_of_eq length.symm) opcode, if_pos length]
  | missizedAddress long opcode length => rw [decode_of_address long opcode, if_neg length]
  | @mapping request opcode _ length written =>
      rcases Operation.eq_map_opcode_iff.mpr opcode with ⟨transport, mapping⟩
      rcases exists_decode_of_mapping mapping length with ⟨other, decoded, _, alsoWritten⟩
      rw [decoded, MappingRequest.encode_injective (alsoWritten.trans written.symm)]
  | missizedMapping long opcode length =>
      rcases Operation.eq_map_opcode_iff.mpr opcode with ⟨transport, mapping⟩
      exact decode_of_missizedMapping long mapping length
  | unsupported opcode => exact decode_of_unsupported opcode

/-- A datagram is read as one thing only. -/
theorem decode_eq_iff {result : Except PacketError Request} :
    decode datagram = result ↔ Reads datagram result := by
  constructor
  · rintro rfl
    exact reads_decode datagram
  · exact decode_of_reads

theorem exists_mapping_iff :
    (∃ request, decode datagram = .ok (.mapping request)) ↔
      datagram.length = 12 ∧ (datagram.at8 1 = 1 ∨ datagram.at8 1 = 2) := by
  constructor
  · rintro ⟨request, decoded⟩
    cases decode_eq_iff.mp decoded with
    | mapping opcode _ length _ => exact ⟨length, opcode⟩
  · rintro ⟨length, opcode⟩
    rcases Operation.eq_map_opcode_iff.mpr opcode with ⟨transport, mapping⟩
    rcases exists_decode_of_mapping mapping length with ⟨request, decoded, _⟩
    exact ⟨request, decoded⟩

/-- Two datagrams carry one request if they differ only where nothing is looked at. -/
theorem exists_same_mapping_iff {other : Octets} :
    (∃ request, decode datagram = .ok (.mapping request) ∧
        decode other = .ok (.mapping request)) ↔
      (∃ request, decode datagram = .ok (.mapping request)) ∧
        (∃ request, decode other = .ok (.mapping request)) ∧
        MappingRequest.SameFields datagram other := by
  constructor
  · rintro ⟨request, first, second⟩
    refine ⟨⟨request, first⟩, ⟨request, second⟩, ?_⟩
    cases decode_eq_iff.mp first with
    | mapping _ _ length written =>
        cases decode_eq_iff.mp second with
        | mapping _ _ alsoLength alsoWritten =>
            exact (MappingRequest.refill_eq_iff (by omega) (by omega)).mp
              (written.symm.trans alsoWritten)
  · rintro ⟨⟨request, first⟩, ⟨another, second⟩, same⟩
    refine ⟨request, first, ?_⟩
    cases decode_eq_iff.mp first with
    | mapping _ _ length written =>
        cases decode_eq_iff.mp second with
        | mapping _ _ alsoLength alsoWritten =>
            have refilled := (MappingRequest.refill_eq_iff (by omega) (by omega)).mpr same
            rw [← written, ← alsoWritten] at refilled
            rw [second, MappingRequest.encode_injective refilled]

end Request

/-- A mapping request has a header and is read back as it was written.  Conversely every datagram
is read as its opcode and its length say, a mapping request exactly at twelve octets and under the
opcodes one and two, and two datagrams carry the same one if they differ in nothing but the
version and the unused octets. -/
theorem requests_read_back :
    (∀ request : MappingRequest,
        Header.parse request.encode =
            .ok ⟨mappingVersion, (Operation.map request.transport).opcode⟩ ∧
          Request.decode request.encode = .ok (.mapping request)) ∧
      ∀ datagram : Octets,
        (∀ result, Request.decode datagram = result ↔ Request.Reads datagram result) ∧
          ((∃ request, Request.decode datagram = .ok (.mapping request)) ↔
            datagram.length = 12 ∧ (datagram.at8 1 = 1 ∨ datagram.at8 1 = 2)) ∧
          ∀ other : Octets,
            (∃ request, Request.decode datagram = .ok (.mapping request) ∧
                Request.decode other = .ok (.mapping request)) ↔
              (∃ request, Request.decode datagram = .ok (.mapping request)) ∧
                (∃ request, Request.decode other = .ok (.mapping request)) ∧
                MappingRequest.SameFields datagram other := by
  constructor
  · intro request
    exact ⟨request.header_encode, request.decode_encode⟩
  · intro datagram
    refine ⟨fun _ => Request.decode_eq_iff, Request.exists_mapping_iff, ?_⟩
    intro other
    exact Request.exists_same_mapping_iff

/-- A mapping request is read whatever its version and its unused octets are. -/
example :
    Request.decode [2, 2, 255, 1, 0, 80, 31, 144, 0, 0, 14, 16] =
      .ok (.mapping ⟨.tcp, 80, 8080, 3600⟩) := by decide

end PortMapping
