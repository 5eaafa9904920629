import Mathlib.Tactic.IntervalCases
import PortMapping.Proofs.Packets

/-!
# Responses and the packets that carry them

The readers of the two kinds of responses undo what the writers do, and the other way round.
A reader accepts a packet for three reasons, checked in a fixed order: its length, its opcode,
and its result.  What it does not look at is the version, and for a mapping response the
response bit; writing what was read fills in these and gives all other octets back.
`Octets.Codec` says this of a reader and a writer, whatever the kind of response.
-/

namespace PortMapping

namespace Octets

/-- A string of octets is the list of the octets at its positions. -/
theorem map_at8_range (octets : Octets) {length : Nat} (same : octets.length = length) :
    (List.range length).map octets.at8 = octets := by
  subst same
  apply List.ext_getElem
  · simp
  · intro position _ within
    simp [at8, within]

theorem ofUInt16_at16 (octets : Octets) (position : Nat) :
    ofUInt16 (octets.at16 position) = [octets.at8 position, octets.at8 (position + 1)] :=
  ofUInt16_join16 _ _

theorem ofUInt32_at32 (octets : Octets) (position : Nat) :
    ofUInt32 (octets.at32 position) =
      [octets.at8 position, octets.at8 (position + 1), octets.at8 (position + 2),
        octets.at8 (position + 3)] :=
  ofUInt32_join32 _ _ _ _

theorem toNat_at16 (octets : Octets) (position : Nat) :
    (octets.at16 position).toNat =
      (octets.at8 position).toNat * 256 + (octets.at8 (position + 1)).toNat := by
  have high := (octets.at8 position).toNat_lt
  have low := (octets.at8 (position + 1)).toNat_lt
  rw [at16, join16, UInt16.toNat_ofNat']
  apply Nat.mod_eq_of_lt
  omega

/-- Replacing the first octet leaves what follows it. -/
theorem set_zero {octets : Octets} (headed : 1 ≤ octets.length) (first : UInt8) :
    octets.set 0 first = first :: octets.drop 1 := by
  match octets, headed with
  | _ :: _, _ => rfl

/-- Replacing the first two octets leaves what follows them. -/
theorem set_zero_one {octets : Octets} (headed : 2 ≤ octets.length) (first second : UInt8) :
    (octets.set 0 first).set 1 second = first :: second :: octets.drop 2 := by
  match octets, headed with
  | _ :: _ :: _, _ => rfl

/-- The number in the result field of a response. -/
def resultNumber (packet : Octets) : Nat :=
  (packet.at8 2).toNat * 256 + (packet.at8 3).toNat

theorem toNat_at16_two (packet : Octets) : (packet.at16 2).toNat = packet.resultNumber :=
  packet.toNat_at16 2

/-! ## Readers and writers -/

/-- A reader and a writer of one kind of response, of one length and with certain opcodes,
that agree in both directions.  `refill` fills in the parts of a packet that the reader does
not look at. -/
structure Codec {α : Type} (parse : Octets → Except PacketError α) (encode : α → Octets)
    (kind : PacketKind) (length : Nat) (admits : UInt8 → Prop) (refill : Octets → Octets) :
    Prop where
  /-- What is written is read back. -/
  parse_encode : ∀ response, parse (encode response) = .ok response
  /-- The packets that are accepted. -/
  accepts_iff : ∀ packet, (∃ response, parse packet = .ok response) ↔
    packet.length = length ∧ admits (packet.at8 1) ∧ packet.resultNumber ≤ 5
  /-- What is read is written as it was, once the parts not looked at are filled in. -/
  encode_parse : ∀ packet response, parse packet = .ok response → encode response = refill packet
  /-- The length is looked at first. -/
  wrong_length : ∀ packet, packet.length ≠ length →
    parse packet = .error (.wrongLength kind packet.length)
  /-- The opcode comes next. -/
  unexpected_opcode : ∀ packet, packet.length = length → ¬admits (packet.at8 1) →
    parse packet = .error (.unexpectedOpcode (packet.at8 1))
  /-- The result comes last. -/
  unknown_result : ∀ packet, packet.length = length → admits (packet.at8 1) →
    5 < packet.resultNumber → parse packet = .error (.unknownResult (packet.at16 2))

/-- It is enough to know what becomes of a packet in each of the four cases. -/
theorem Codec.of_cases {α : Type} {parse : Octets → Except PacketError α} {encode : α → Octets}
    {kind : PacketKind} {length : Nat} {admits : UInt8 → Prop} {refill : Octets → Octets}
    (parse_encode : ∀ response, parse (encode response) = .ok response)
    (wrong_length : ∀ packet, packet.length ≠ length →
      parse packet = .error (.wrongLength kind packet.length))
    (unexpected_opcode : ∀ packet, packet.length = length → ¬admits (packet.at8 1) →
      parse packet = .error (.unexpectedOpcode (packet.at8 1)))
    (unknown_result : ∀ packet, packet.length = length → admits (packet.at8 1) →
      5 < packet.resultNumber → parse packet = .error (.unknownResult (packet.at16 2)))
    (accepted : ∀ packet, packet.length = length → admits (packet.at8 1) →
      packet.resultNumber ≤ 5 →
        ∃ response, parse packet = .ok response ∧ encode response = refill packet) :
    Codec parse encode kind length admits refill := by
  have accepts : ∀ packet response, parse packet = .ok response →
      packet.length = length ∧ admits (packet.at8 1) ∧ packet.resultNumber ≤ 5 := by
    intro packet response parsed
    by_cases hasLength : packet.length = length
    · by_cases admitted : admits (packet.at8 1)
      · refine ⟨hasLength, admitted, Nat.le_of_not_lt fun large => ?_⟩
        rw [unknown_result packet hasLength admitted large] at parsed
        contradiction
      · rw [unexpected_opcode packet hasLength admitted] at parsed
        contradiction
    · rw [wrong_length packet hasLength] at parsed
      contradiction
  refine ⟨parse_encode, ?_, ?_, wrong_length, unexpected_opcode, unknown_result⟩
  · intro packet
    constructor
    · rintro ⟨response, parsed⟩
      exact accepts packet response parsed
    · rintro ⟨hasLength, admitted, small⟩
      rcases accepted packet hasLength admitted small with ⟨response, parsed, _⟩
      exact ⟨response, parsed⟩
  · intro packet response parsed
    rcases accepts packet response parsed with ⟨hasLength, admitted, small⟩
    rcases accepted packet hasLength admitted small with ⟨other, alsoParsed, written⟩
    rw [parsed] at alsoParsed
    cases alsoParsed
    exact written

end Octets

/-! ## Opcodes and results -/

/-- Clearing the response bit leaves the lower seven bits. -/
theorem toNat_requestOpcode (opcode : UInt8) :
    (requestOpcode opcode).toNat = opcode.toNat % 128 := by
  rw [requestOpcode, UInt8.toNat_and]
  exact Nat.and_two_pow_sub_one_eq_mod _ 7

/-- Setting the response bit again makes up for clearing it. -/
theorem responseOpcode_requestOpcode (opcode : UInt8) :
    responseOpcode (requestOpcode opcode) = opcode ||| 0x80 := by
  rw [responseOpcode, requestOpcode, responseBit]
  apply UInt8.eq_of_toBitVec_eq
  ext position within
  simp only [UInt8.toBitVec_or, UInt8.toBitVec_and]
  interval_cases position <;> simp

namespace Operation

/-- Two opcodes stand for mapping operations. -/
theorem exists_map_iff {opcode : UInt8} :
    (∃ transport, ofOpcode? opcode = some (map transport)) ↔
      opcode.toNat = 1 ∨ opcode.toNat = 2 := by
  constructor
  · rintro ⟨transport, known⟩
    rw [eq_opcode_of_ofOpcode? known]
    cases transport with
    | udp => exact .inl rfl
    | tcp => exact .inr rfl
  · rintro (one | two)
    · have known : opcode = 1 := UInt8.toNat_inj.mp one
      exact ⟨.udp, by rw [known]; rfl⟩
    · have known : opcode = 2 := UInt8.toNat_inj.mp two
      exact ⟨.tcp, by rw [known]; rfl⟩

end Operation

namespace ResultCode

/-- A result has a number from zero to five. -/
theorem ofNumber?_of_le {number : UInt16} (small : number.toNat ≤ 5) :
    ∃ result, ofNumber? number = some result ∧ result.number = number := by
  have cases : number = 0 ∨ number = 1 ∨ number = 2 ∨ number = 3 ∨ number = 4 ∨ number = 5 := by
    simp only [← UInt16.toNat_inj]
    change _ = 0 ∨ _ = 1 ∨ _ = 2 ∨ _ = 3 ∨ _ = 4 ∨ _ = 5
    omega
  rcases cases with rfl | rfl | rfl | rfl | rfl | rfl
  all_goals exact ⟨_, rfl, rfl⟩

theorem ofNumber?_of_lt {number : UInt16} (large : 5 < number.toNat) :
    ofNumber? number = none := by
  have other : ∀ known : UInt16, known.toNat ≤ 5 → number ≠ known := by
    rintro known small rfl
    exact Nat.not_le.mpr large small
  rw [ofNumber?, if_neg (other 0 (by decide)), if_neg (other 1 (by decide)),
    if_neg (other 2 (by decide)), if_neg (other 3 (by decide)), if_neg (other 4 (by decide)),
    if_neg (other 5 (by decide))]

end ResultCode

/-! ## Mapping responses -/

namespace MappingResponse

/-- The opcodes of mapping responses, the response bit left out. -/
def Admits (opcode : UInt8) : Prop := opcode.toNat % 128 = 1 ∨ opcode.toNat % 128 = 2

/-- A packet with version zero and the response bit set. -/
def refill (packet : Octets) : Octets := (packet.set 0 0).set 1 (packet.at8 1 ||| 0x80)

variable {packet : Octets}

theorem exists_transport_iff {opcode : UInt8} :
    (∃ transport, Operation.ofOpcode? (requestOpcode opcode) = some (.map transport)) ↔
      Admits opcode := by
  rw [Operation.exists_map_iff, toNat_requestOpcode]
  rfl

theorem parse_of_length_ne (other : packet.length ≠ PacketKind.mappingResponse.length) :
    parse packet = .error (.wrongLength .mappingResponse packet.length) :=
  if_pos other

theorem parse_of_not_admits (length : packet.length = PacketKind.mappingResponse.length)
    (unknown : ¬Admits (packet.at8 1)) :
    parse packet = .error (.unexpectedOpcode (packet.at8 1)) := by
  rw [parse, if_neg (not_not_intro length)]
  split
  next transport known => exact (unknown (exists_transport_iff.mp ⟨transport, known⟩)).elim
  · rfl

theorem parse_of_result_lt (length : packet.length = PacketKind.mappingResponse.length)
    (admitted : Admits (packet.at8 1)) (large : 5 < packet.resultNumber) :
    parse packet = .error (.unknownResult (packet.at16 2)) := by
  rcases exists_transport_iff.mpr admitted with ⟨transport, known⟩
  rw [← Octets.toNat_at16_two] at large
  rw [parse, if_neg (not_not_intro length)]
  simp only [known, ResultCode.ofNumber?_of_lt large]

/-- What is read from a packet is written as the packet was, its unread parts filled in. -/
theorem exists_parse (length : packet.length = PacketKind.mappingResponse.length)
    (admitted : Admits (packet.at8 1)) (small : packet.resultNumber ≤ 5) :
    ∃ response, parse packet = .ok response ∧ response.encode = refill packet := by
  rcases exists_transport_iff.mpr admitted with ⟨transport, known⟩
  rw [← Octets.toNat_at16_two] at small
  rcases ResultCode.ofNumber?_of_le small with ⟨result, found, number⟩
  let response : MappingResponse :=
    { transport
      result
      epoch := packet.at32 4
      internalPort := packet.at16 8
      externalPort := packet.at16 10
      lifetime := packet.at32 12 }
  have parsed : parse packet = .ok response := by
    rw [parse, if_neg (not_not_intro length)]
    simp only [known, found, response]
  have opcode : responseOpcode (Operation.map transport).opcode = packet.at8 1 ||| 0x80 := by
    rw [← Operation.eq_opcode_of_ofOpcode? known, responseOpcode_requestOpcode]
  have written : response.encode =
      0 :: (packet.at8 1 ||| 0x80) ::
        ((List.range PacketKind.mappingResponse.length).map packet.at8).drop 2 := by
    simp only [encode, response, opcode, number, Octets.ofUInt16_at16, Octets.ofUInt32_at32]
    rfl
  have headed : 2 ≤ packet.length := by
    rw [length]
    decide
  refine ⟨response, parsed, ?_⟩
  rw [written, packet.map_at8_range length, refill, Octets.set_zero_one headed]

end MappingResponse

/-! ## Address responses -/

namespace AddressResponse

variable {packet : Octets}

theorem parse_of_length_ne (other : packet.length ≠ PacketKind.addressResponse.length) :
    parse packet = .error (.wrongLength .addressResponse packet.length) :=
  if_pos other

theorem parse_of_opcode_ne (length : packet.length = PacketKind.addressResponse.length)
    (unknown : ¬packet.at8 1 = opcode) :
    parse packet = .error (.unexpectedOpcode (packet.at8 1)) := by
  rw [parse, if_neg (not_not_intro length), if_pos unknown]

theorem parse_of_result_lt (length : packet.length = PacketKind.addressResponse.length)
    (known : packet.at8 1 = opcode) (large : 5 < packet.resultNumber) :
    parse packet = .error (.unknownResult (packet.at16 2)) := by
  rw [← Octets.toNat_at16_two] at large
  rw [parse, if_neg (not_not_intro length), if_neg (not_not_intro known)]
  simp only [ResultCode.ofNumber?_of_lt large]

/-- What is read from a packet is written as the packet was, its version filled in. -/
theorem exists_parse (length : packet.length = PacketKind.addressResponse.length)
    (known : packet.at8 1 = opcode) (small : packet.resultNumber ≤ 5) :
    ∃ response, parse packet = .ok response ∧ response.encode = packet.set 0 0 := by
  rw [← Octets.toNat_at16_two] at small
  rcases ResultCode.ofNumber?_of_le small with ⟨result, found, number⟩
  let response : AddressResponse := ⟨result, packet.at32 4, Ipv4.ofOctetsAt packet 8⟩
  have parsed : parse packet = .ok response := by
    rw [parse, if_neg (not_not_intro length), if_neg (not_not_intro known)]
    simp only [found, response]
  have written : response.encode =
      0 :: ((List.range PacketKind.addressResponse.length).map packet.at8).drop 1 := by
    simp only [encode, response, number, Octets.ofUInt16_at16, Octets.ofUInt32_at32, ← known]
    rfl
  have headed : 1 ≤ packet.length := by
    rw [length]
    decide
  refine ⟨response, parsed, ?_⟩
  rw [written, packet.map_at8_range length, Octets.set_zero headed]

end AddressResponse

/-- Both kinds of responses are read back as they were written, and whatever is read is written
as it was, but for the version, and for the response bit of a mapping response, which are not
looked at.  A packet is refused for its length, then for its opcode, then for its result. -/
theorem responses_read_back :
    Octets.Codec MappingResponse.parse MappingResponse.encode .mappingResponse 16
        MappingResponse.Admits MappingResponse.refill ∧
      Octets.Codec AddressResponse.parse AddressResponse.encode .addressResponse 12
        (fun opcode => opcode = 0x80) (fun packet => packet.set 0 0) := by
  constructor
  · apply Octets.Codec.of_cases
    case parse_encode => exact MappingResponse.parse_encode
    case wrong_length => exact fun _ => MappingResponse.parse_of_length_ne
    case unexpected_opcode => exact fun _ => MappingResponse.parse_of_not_admits
    case unknown_result => exact fun _ => MappingResponse.parse_of_result_lt
    case accepted => exact fun _ => MappingResponse.exists_parse
  · apply Octets.Codec.of_cases
    case parse_encode => exact AddressResponse.parse_encode
    case wrong_length => exact fun _ => AddressResponse.parse_of_length_ne
    case unexpected_opcode => exact fun _ => AddressResponse.parse_of_opcode_ne
    case unknown_result => exact fun _ => AddressResponse.parse_of_result_lt
    case accepted => exact fun _ => AddressResponse.exists_parse

end PortMapping
