import PortMapping.Interface.Routing
import PortMapping.Text.Utf8

/-!
# A decoder of routing messages

Decodes the messages about addresses and links, which are all that a gateway acts
on, and control messages.  A message has a header of sixteen octets that begins with
its length and its type, a fixed part that depends on the type, and attributes that
are padded to multiples of four octets.  Numbers are least significant first.

Messages about anything else are refused, and of the attributes other than names
only those with a usual length are checked; nothing is proved of it but that it is
a decoder of frames.
-/

namespace PortMapping

namespace Octets

variable {octets : Octets} {position count : Nat}

theorem at8_take (within : position < count) : at8 (octets.take count) position =
    octets.at8 position := by
  rw [at8, at8, List.getD_eq_getElem?_getD, List.getD_eq_getElem?_getD,
    List.getElem?_take_of_lt within]

theorem little32_take (within : position + 4 ≤ count) :
    little32 (octets.take count) position = octets.little32 position := by
  rw [little32, little32, little16, little16, little16, little16, at8_take (by omega),
    at8_take (by omega), at8_take (by omega), at8_take (by omega)]

end Octets

namespace Routing

namespace Plain

/-- One attribute of a message. -/
structure Attribute where
  kind : Nat
  value : Octets

/-- The length of an attribute's own header. -/
def attributeHeader : Nat := 4

/-- A length rounded up to a multiple of four. -/
def aligned (length : Nat) : Nat := (length + 3) / 4 * 4

/-- The attributes that fill an octet string.  Each states its length, header
included; the next starts at that length rounded up to a multiple of four. -/
def attributes? (octets : Octets) : Option (List Attribute) :=
  if octets.isEmpty then some []
  else
    let length := octets.little16 0
    if _fits : attributeHeader ≤ length ∧ length ≤ octets.length then
      let entry : Attribute :=
        { kind := octets.little16 2 % 0x4000
          value := (octets.take length).drop attributeHeader }
      (attributes? (octets.drop (aligned length))).map (entry :: ·)
    else none
termination_by octets.length
decreasing_by
  simp only [attributeHeader, aligned, List.length_drop] at *
  omega

/-- The kind of the attribute that holds an address's label or a link's name. -/
def nameKind : Nat := 3

/-- The text in an attribute, one closing zero octet left out. -/
def textValue? (value : Octets) : Option String :=
  Text.utf8? (if value.getLast? = some 0 then value.dropLast else value)

/-- What decoding the attributes of a kind of subject depends on. -/
structure Subject (α : Type) where
  /-- The length of the fixed part before the attributes. -/
  fixed : Nat
  /-- The attribute that holds a name. -/
  named : String → α
  /-- An attribute that holds anything else. -/
  other : α
  /-- The length that an attribute's value must have, where it has one. -/
  valueLength? : Nat → Option Nat

/-- Addresses. -/
def address : Subject AddressAttribute where
  fixed := 8
  named := .label
  other := .other
  valueLength?
    | 8 => some 4
    | _ => none

/-- Links. -/
def link : Subject LinkAttribute where
  fixed := 16
  named := .name
  other := .other
  valueLength?
    | 4 => some 4
    | 13 => some 4
    | 17 => some 1
    | 27 => some 4
    | _ => none

/-- Decode one attribute. -/
def Subject.attribute? {α : Type} (subject : Subject α) (entry : Attribute) : Option α :=
  if entry.kind = nameKind then (textValue? entry.value).map subject.named
  else
    match subject.valueLength? entry.kind with
    | none => some subject.other
    | some length => if entry.value.length = length then some subject.other else none

/-- Decode the attributes in a payload, after its fixed part. -/
def Subject.decode? {α : Type} (subject : Subject α) (payload : Octets) : Option (List α) :=
  if payload.length < subject.fixed then none
  else (attributes? (payload.drop subject.fixed)).bind (List.mapM subject.attribute?)

/-- Check a payload that nothing is taken from.  A query may also have four octets
and no attributes. -/
def Subject.skip? {α : Type} (subject : Subject α) (query : Bool) (payload : Octets) :
    Option Payload :=
  if query && payload.length = 4 then some (.routing .other)
  else (subject.decode? payload).map fun _ => .routing .other

/-- What a message of some type carries. -/
def payload? (type : Nat) (payload : Octets) : Option Payload :=
  match type with
  | 1 => some .control
  | 2 => if payload.length < 4 then none else some .control
  | 3 => if payload.length < 4 then none else some .control
  | 4 => some .control
  | 16 => link.skip? false payload
  | 17 => (link.decode? payload).map (.routing <| .deleteLink ·)
  | 18 => link.skip? true payload
  | 19 => link.skip? false payload
  | 20 => (address.decode? payload).map (.routing <| .newAddress ·)
  | 21 => (address.decode? payload).map (.routing <| .deleteAddress ·)
  | 22 => address.skip? true payload
  | _ => none

end Plain

/-- Decodes the messages about addresses and links. -/
def plainDecoder : Decoder := fun octets =>
  let length := octets.little32 0
  if packetHeader ≤ length ∧ length ≤ octets.length then
    let frame : Octets := octets.take length
    match Plain.payload? (frame.little16 4) (frame.drop packetHeader) with
    | some payload => .ok ⟨length, payload⟩
    | none => .error "malformed message"
  else .error "malformed length"

/-- A decoded packet is what its own octets say. -/
theorem plainDecoder_eq_ok_iff {octets : Octets} {packet : Packet} :
    plainDecoder octets = .ok packet ↔
      packet.length = octets.little32 0 ∧ packetHeader ≤ packet.length ∧
        packet.length ≤ octets.length ∧
        Plain.payload? (Octets.little16 (octets.take packet.length) 4)
          ((octets.take packet.length).drop packetHeader) = some packet.payload := by
  rw [plainDecoder]
  constructor
  · intro decoded
    dsimp only at decoded
    split at decoded
    next bounds =>
      split at decoded
      next payload carried =>
        cases decoded
        exact ⟨rfl, bounds.1, bounds.2, carried⟩
      · cases decoded
    · cases decoded
  · rintro ⟨length, headed, within, carried⟩
    rw [length] at headed within carried
    simp only [if_pos (And.intro headed within), carried]
    rw [← length]

/-- The length that a packet states bounds it, and its own octets are all that is read. -/
theorem plainDecoder_framing : plainDecoder.Framing where
  bounds decoded := by
    rcases plainDecoder_eq_ok_iff.mp decoded with ⟨_, headed, within, _⟩
    exact ⟨headed, within⟩
  own := by
    intro octets other packet decoded same
    rcases plainDecoder_eq_ok_iff.mp decoded with ⟨length, headed, within, carried⟩
    have number : 0 + 4 ≤ packet.length := Nat.le_trans (by decide) headed
    rw [plainDecoder_eq_ok_iff, ← Octets.little32_take number, same, Octets.little32_take number]
    refine ⟨length, headed, ?_, carried⟩
    have lengths := congrArg List.length same
    rw [List.length_take, List.length_take] at lengths
    omega

end Routing

end PortMapping
