import Mathlib.Data.Set.Function
import PortMapping.Packet.Control
import PortMapping.Proofs.AddressReading
import PortMapping.Proofs.ResponseCodecs

/-!
# Port control headers read back

A header is read at fixed places: the version, seven bits of the opcode, and twenty octets with
the lifetime and the client's address.  Writing what was read gives these back, although addresses
of both families come out of one field: an IPv4 address stands for the IPv6 address it is mapped
to, and that one is never read as itself.  So no two fields are read as one address.
-/

namespace PortMapping

/-- The refusals of a reader that has one reason to refuse, and reads whatever it has no reason to
refuse. -/
theorem eq_error_iff_of_cases {α : Type} {result : Except PacketError α} {admitted : Prop}
    {reason : PacketError} (read : admitted → ∃ value, result = .ok value)
    (refused : ¬admitted → result = .error reason) {error : PacketError} :
    result = .error error ↔ ¬admitted ∧ error = reason := by
  constructor
  · intro failed
    by_cases holds : admitted
    · rcases read holds with ⟨value, succeeded⟩
      rw [succeeded] at failed
      contradiction
    · rw [refused holds] at failed
      cases failed
      exact ⟨holds, rfl⟩
  · rintro ⟨missing, rfl⟩
    exact refused missing

namespace Octets

variable {octets : Octets}

theorem ofUInt32_injective : Function.Injective ofUInt32 := by
  intro left right same
  have read : at32 (ofUInt32 left) 0 = at32 (ofUInt32 right) 0 := by rw [same]
  exact (join32_split left).symm.trans (read.trans (join32_split right))

theorem at8_drop (octets : Octets) (position step : Nat) :
    at8 (octets.drop position) step = octets.at8 (position + step) := by
  rw [at8, at8, List.getD_eq_getElem?_getD, List.getD_eq_getElem?_getD, List.getElem?_drop]

/-- The number read from a position on is written by the four octets there. -/
theorem ofUInt32_at32_of_le {position : Nat} (within : position + 4 ≤ octets.length) :
    ofUInt32 (octets.at32 position) = (octets.drop position).take 4 := by
  have following := octets.at8_drop position
  have start : octets.at8 position = at8 (octets.drop position) 0 := (following 0).symm
  have headed : 4 ≤ (octets.drop position).length := by
    rw [List.length_drop]
    omega
  rw [ofUInt32_at32, start, ← following 1, ← following 2, ← following 3]
  match octets.drop position, headed with
  | _ :: _ :: _ :: _ :: _, _ => rfl

end Octets

/-! ## Address fields -/

namespace Ipv6

/-- The octets of an address, in wire order. -/
def octets (address : Ipv6) : Octets := address.groups.flatMap Octets.ofUInt16

/-- What an IPv4 address is preceded by in the IPv6 address that it is mapped to. -/
def mappedHead : Octets := List.replicate 10 0 ++ [0xff, 0xff]

theorem length_flatMap_ofUInt16 (groups : List UInt16) :
    (groups.flatMap Octets.ofUInt16).length = 2 * groups.length := by
  induction groups with
  | nil => rfl
  | cons group rest ih =>
      rw [List.flatMap_cons, List.length_append, ih, List.length_cons, Octets.length_ofUInt16]
      omega

theorem groupsOf_flatMap (groups : List UInt16) :
    groupsOf (groups.flatMap Octets.ofUInt16) = groups := by
  induction groups with
  | nil => rfl
  | cons group rest ih =>
      change Octets.join16 _ _ :: groupsOf (rest.flatMap Octets.ofUInt16) = group :: rest
      rw [ih, Octets.join16_split]

/-- Octets that pair up are those of their groups. -/
theorem flatMap_groupsOf {octets : Octets} (even : octets.length % 2 = 0) :
    (groupsOf octets).flatMap Octets.ofUInt16 = octets := by
  induction octets using groupsOf.induct with
  | case1 high low rest ih =>
      have restEven : rest.length % 2 = 0 := by
        rw [List.length_cons, List.length_cons] at even
        omega
      rw [groupsOf, List.flatMap_cons, ih restEven, Octets.ofUInt16_join16]
      rfl
  | case2 octets unpaired =>
      match octets, unpaired with
      | [], _ => rfl
      | [_], _ => cases even
      | high :: low :: rest, unpaired => exact (unpaired high low rest rfl).elim

@[simp] theorem length_octets (address : Ipv6) : address.octets.length = 16 := by
  rw [octets, length_flatMap_ofUInt16, address.length_groups]

theorem ofOctets?_octets (address : Ipv6) : ofOctets? address.octets = some address := by
  rw [ofOctets?, if_pos address.length_octets, octets, groupsOf_flatMap, ofGroups?_groups]

/-- Any sixteen octets are those of an address. -/
theorem exists_octets_eq {octets : Octets} (length : octets.length = 16) :
    ∃ address : Ipv6, address.octets = octets := by
  have written : (groupsOf octets).flatMap Octets.ofUInt16 = octets :=
    flatMap_groupsOf (by omega)
  have groups : (groupsOf octets).length = 8 := by
    have lengths := length_flatMap_ofUInt16 (groupsOf octets)
    rw [written] at lengths
    omega
  exact ⟨⟨groupsOf octets, groups⟩, written⟩

variable {address : Ipv6}

theorem mapped?_eq_some_iff {inner : Ipv4} :
    address.mapped? = some inner ↔ address.octets = mappedHead ++ inner.octets := by
  constructor
  · intro mapped
    rw [octets, groups_of_mapped? mapped, groupsOfIpv4]
    change mappedHead ++ (Octets.ofUInt16 (Octets.join16 inner.first inner.second) ++
      (Octets.ofUInt16 (Octets.join16 inner.third inner.fourth) ++ [])) = _
    rw [Octets.ofUInt16_join16, Octets.ofUInt16_join16]
    rfl
  · intro written
    have groups : address.groups = [0, 0, 0, 0, 0, 0xffff] ++ groupsOfIpv4 inner := by
      rw [← groupsOf_flatMap address.groups]
      exact congrArg groupsOf written
    rw [mapped?, groups, groupsOfIpv4]
    simp only [List.cons_append, List.nil_append, Octets.ofUInt16_join16]
    rfl

/-- An IPv4 address is mapped to any address that begins so, whatever its last octets are. -/
theorem exists_mapped?_iff :
    (∃ inner, address.mapped? = some inner) ↔ mappedHead <+: address.octets := by
  constructor
  · rintro ⟨inner, mapped⟩
    exact ⟨inner.octets, (mapped?_eq_some_iff.mp mapped).symm⟩
  · rintro ⟨rest, written⟩
    -- The address has sixteen octets, so what is left of them makes up an IPv4 address.
    have four : rest.length = 4 := by
      have lengths := congrArg List.length written
      rw [List.length_append, length_octets] at lengths
      exact Nat.add_left_cancel lengths
    match rest, four with
    | [first, second, third, fourth], _ =>
        exact ⟨⟨first, second, third, fourth⟩, mapped?_eq_some_iff.mpr written.symm⟩

end Ipv6

namespace IpAddress

/-- The octets of an address in a port control packet, where an IPv4 address stands for the IPv6
address that it is mapped to. -/
def octets : IpAddress → Octets
  | .v4 address => Ipv6.mappedHead ++ address.octets
  | .v6 address => address.octets

/-- An address that is read as itself: no IPv6 address that an IPv4 address is mapped to. -/
def Unwrapped : IpAddress → Prop
  | .v4 _ => True
  | .v6 address => ¬Ipv6.mappedHead <+: address.octets

@[simp] theorem length_octets (address : IpAddress) : address.octets.length = 16 := by
  cases address with
  | v4 address => rfl
  | v6 address => exact address.length_octets

end IpAddress

section ControlAddress

variable {octets : Octets}

theorem controlAddress_of_length_ne (length : octets.length ≠ 16) :
    controlAddress octets = .error (.wrongLength .controlAddress octets.length) := by
  rw [controlAddress, Ipv6.ofOctets?, if_neg length]

theorem controlAddress_of_mapped {address : Ipv6} {inner : Ipv4}
    (mapped : address.mapped? = some inner) :
    controlAddress address.octets = .ok (.v4 inner) := by
  rw [controlAddress, address.ofOctets?_octets]
  simp only [mapped]

theorem controlAddress_of_unmapped {address : Ipv6} (unmapped : address.mapped? = none) :
    controlAddress address.octets = .ok (.v6 address) := by
  rw [controlAddress, address.ofOctets?_octets]
  simp only [unmapped]

/-- Sixteen octets are read as an address, which is written as they are. -/
theorem exists_controlAddress (length : octets.length = 16) :
    ∃ address, controlAddress octets = .ok address ∧ address.Unwrapped ∧
      address.octets = octets := by
  rcases Ipv6.exists_octets_eq length with ⟨address, rfl⟩
  cases mapped : address.mapped? with
  | some inner =>
      exact ⟨.v4 inner, controlAddress_of_mapped mapped, trivial,
        (Ipv6.mapped?_eq_some_iff.mp mapped).symm⟩
  | none =>
      refine ⟨.v6 address, controlAddress_of_unmapped mapped, ?_, rfl⟩
      intro headed
      rcases Ipv6.exists_mapped?_iff.mpr headed with ⟨inner, alsoMapped⟩
      rw [mapped] at alsoMapped
      contradiction

/-- An address that is read as itself is read back as it was written. -/
theorem controlAddress_octets {address : IpAddress} (unwrapped : address.Unwrapped) :
    controlAddress address.octets = .ok address := by
  cases address with
  | v4 inner =>
      rcases Ipv6.exists_octets_eq (IpAddress.v4 inner).length_octets with ⟨address, written⟩
      rw [← written]
      exact controlAddress_of_mapped (Ipv6.mapped?_eq_some_iff.mpr written)
  | v6 address =>
      apply controlAddress_of_unmapped
      cases mapped : address.mapped? with
      | none => rfl
      | some inner => exact (unwrapped (Ipv6.exists_mapped?_iff.mp ⟨inner, mapped⟩)).elim

theorem controlAddress_eq_ok_iff {address : IpAddress} :
    controlAddress octets = .ok address ↔ address.Unwrapped ∧ address.octets = octets := by
  constructor
  · intro read
    by_cases length : octets.length = 16
    · rcases exists_controlAddress length with ⟨other, alsoRead, written⟩
      rw [read] at alsoRead
      cases alsoRead
      exact written
    · rw [controlAddress_of_length_ne length] at read
      contradiction
  · rintro ⟨unwrapped, rfl⟩
    exact controlAddress_octets unwrapped

theorem controlAddress_eq_error_iff {error : PacketError} :
    controlAddress octets = .error error ↔
      octets.length ≠ 16 ∧ error = .wrongLength .controlAddress octets.length := by
  refine eq_error_iff_of_cases ?_ controlAddress_of_length_ne
  intro length
  rcases exists_controlAddress length with ⟨address, read, _⟩
  exact ⟨address, read⟩

/-- An IPv4 address is read from what begins as a mapped address does. -/
theorem exists_controlAddress_v4_iff :
    (∃ address, controlAddress octets = .ok (.v4 address)) ↔
      octets.length = 16 ∧ Ipv6.mappedHead <+: octets := by
  constructor
  · rintro ⟨address, read⟩
    rcases controlAddress_eq_ok_iff.mp read with ⟨_, rfl⟩
    exact ⟨IpAddress.length_octets _, List.prefix_append _ _⟩
  · rintro ⟨length, headed⟩
    rcases Ipv6.exists_octets_eq length with ⟨address, rfl⟩
    rcases Ipv6.exists_mapped?_iff.mpr headed with ⟨inner, mapped⟩
    exact ⟨inner, controlAddress_of_mapped mapped⟩

/-- No two fields are read as one address. -/
theorem controlAddress_injOn : Set.InjOn controlAddress {octets | octets.length = 16} := by
  intro first length second _ same
  rcases exists_controlAddress length with ⟨address, read, _, written⟩
  rw [same] at read
  exact written.symm.trans (controlAddress_eq_ok_iff.mp read).2

/-- Addresses that are read as themselves are told apart by their octets. -/
theorem IpAddress.eq_of_octets_eq {left right : IpAddress} (unwrapped : left.Unwrapped)
    (alsoUnwrapped : right.Unwrapped) (same : left.octets = right.octets) : left = right := by
  have read := controlAddress_octets unwrapped
  rw [same, controlAddress_octets alsoUnwrapped] at read
  cases read
  rfl

end ControlAddress

/-! ## Headers -/

namespace ControlHeader

variable {datagram other : Octets} {header : ControlHeader}

/-- A datagram is long enough for a header, and its length is a multiple of four. -/
def Admits (datagram : Octets) : Prop := 24 ≤ datagram.length ∧ 4 ∣ datagram.length

/-- The lifetime and the client's address, as a request carries them. -/
def octets (header : ControlHeader) : Octets :=
  Octets.ofUInt32 header.lifetime ++ header.clientAddress.octets

/-- A datagram begins with a header: its version, the lower seven bits of its opcode, and what is
written from its fifth octet on. -/
structure Heads (header : ControlHeader) (datagram : Octets) : Prop where
  version : header.version = datagram.at8 0
  opcode : header.opcode.toNat = (datagram.at8 1).toNat % 128
  unwrapped : header.clientAddress.Unwrapped
  written : header.octets = datagram.extract 4 24

/-- Two datagrams have the same octets, and the same bits of the opcode, where a header is read. -/
structure SameFields (first second : Octets) : Prop where
  version : first.at8 0 = second.at8 0
  opcode : (first.at8 1).toNat % 128 = (second.at8 1).toNat % 128
  fields : first.extract 4 24 = second.extract 4 24

/-- A datagram begins with one header at most. -/
theorem Heads.unique {first second : ControlHeader} (heads : first.Heads datagram)
    (alsoHeads : second.Heads datagram) : first = second := by
  have opcode : first.opcode = second.opcode :=
    UInt8.toNat_inj.mp (heads.opcode.trans alsoHeads.opcode.symm)
  have octets : first.octets = second.octets := heads.written.trans alsoHeads.written.symm
  rcases List.append_inj octets rfl with ⟨lifetimes, addresses⟩
  cases first
  cases second
  rw [ControlHeader.mk.injEq]
  exact ⟨heads.version.trans alsoHeads.version.symm, opcode, Octets.ofUInt32_injective lifetimes,
    IpAddress.eq_of_octets_eq heads.unwrapped alsoHeads.unwrapped addresses⟩

theorem Heads.of_sameFields (heads : header.Heads datagram) (same : SameFields datagram other) :
    header.Heads other where
  version := heads.version.trans same.version
  opcode := heads.opcode.trans same.opcode
  unwrapped := heads.unwrapped
  written := heads.written.trans same.fields

theorem Heads.sameFields (heads : header.Heads datagram) (alsoHeads : header.Heads other) :
    SameFields datagram other where
  version := heads.version.symm.trans alsoHeads.version
  opcode := heads.opcode.symm.trans alsoHeads.opcode
  fields := heads.written.symm.trans alsoHeads.written

theorem missized_iff :
    datagram.length < PacketKind.controlRequest.length ∨ datagram.length % 4 ≠ 0 ↔
      ¬Admits datagram := by
  rw [Admits, Nat.dvd_iff_mod_eq_zero, not_and_or, Nat.not_le]
  rfl

theorem parse_of_not_admits (missized : ¬Admits datagram) :
    parse datagram = .error (.wrongLength .controlRequest datagram.length) :=
  if_pos (missized_iff.mpr missized)

/-- A datagram of an admitted length begins with a header, whose address is always read. -/
theorem exists_parse (admitted : Admits datagram) :
    ∃ header, parse datagram = .ok header ∧ header.Heads datagram := by
  have long : 24 ≤ datagram.length := admitted.1
  have field : ((datagram.drop 8).take 16).length = 16 := by
    rw [List.length_take, List.length_drop]
    omega
  rcases exists_controlAddress field with ⟨clientAddress, read, unwrapped, address⟩
  let header : ControlHeader :=
    { version := datagram.at8 0
      opcode := requestOpcode (datagram.at8 1)
      lifetime := datagram.at32 4
      clientAddress }
  have parsed : parse datagram = .ok header := by
    rw [parse, if_neg (fun missized => missized_iff.mp missized admitted), read]
    rfl
  -- The two fields stand side by side, so together they are one stretch of the datagram.
  have written : header.octets = datagram.extract 4 24 := by
    calc
      header.octets = Octets.ofUInt32 (datagram.at32 4) ++ clientAddress.octets := rfl
      _ = (datagram.drop 4).take 4 ++ ((datagram.drop 4).drop 4).take 16 := by
          rw [Octets.ofUInt32_at32_of_le (by omega), address, List.drop_drop]
      _ = datagram.extract 4 24 := by rw [← List.take_add]
  exact ⟨header, parsed, rfl, toNat_requestOpcode _, unwrapped, written⟩

theorem parse_eq_ok_iff :
    parse datagram = .ok header ↔ Admits datagram ∧ header.Heads datagram := by
  constructor
  · intro parsed
    by_cases admitted : Admits datagram
    · rcases exists_parse admitted with ⟨another, alsoParsed, heads⟩
      rw [parsed] at alsoParsed
      cases alsoParsed
      exact ⟨admitted, heads⟩
    · rw [parse_of_not_admits admitted] at parsed
      contradiction
  · rintro ⟨admitted, heads⟩
    rcases exists_parse admitted with ⟨another, parsed, alsoHeads⟩
    rw [parsed, heads.unique alsoHeads]

theorem exists_parse_iff : (∃ header, parse datagram = .ok header) ↔ Admits datagram := by
  constructor
  · rintro ⟨header, parsed⟩
    exact (parse_eq_ok_iff.mp parsed).1
  · intro admitted
    rcases exists_parse admitted with ⟨header, parsed, _⟩
    exact ⟨header, parsed⟩

theorem parse_eq_error_iff {error : PacketError} :
    parse datagram = .error error ↔
      ¬Admits datagram ∧ error = .wrongLength .controlRequest datagram.length :=
  eq_error_iff_of_cases exists_parse_iff.mpr parse_of_not_admits

/-- Two datagrams carry one header if they differ only where nothing is looked at. -/
theorem exists_same_parse_iff :
    (∃ header, parse datagram = .ok header ∧ parse other = .ok header) ↔
      Admits datagram ∧ Admits other ∧ SameFields datagram other := by
  constructor
  · rintro ⟨header, first, second⟩
    rcases parse_eq_ok_iff.mp first with ⟨admitted, heads⟩
    rcases parse_eq_ok_iff.mp second with ⟨alsoAdmitted, alsoHeads⟩
    exact ⟨admitted, alsoAdmitted, heads.sameFields alsoHeads⟩
  · rintro ⟨admitted, alsoAdmitted, same⟩
    rcases exists_parse admitted with ⟨header, parsed, heads⟩
    exact ⟨header, parsed, parse_eq_ok_iff.mpr ⟨alsoAdmitted, heads.of_sameFields same⟩⟩

end ControlHeader

/-- A header is read from a datagram of at least twenty-four octets whose length is a multiple of
four.  Any other is refused as a request of a wrong length, and none for its address.  What was
read gives back all that was looked at.  In an address field of sixteen octets, and in no other,
an address is found: an IPv4 address just where one is mapped, and different addresses in
different fields. -/
theorem controlHeaders_read_back :
    (∀ datagram : Octets,
        ((∃ header, ControlHeader.parse datagram = .ok header) ↔
            24 ≤ datagram.length ∧ 4 ∣ datagram.length) ∧
          (∀ error, ControlHeader.parse datagram = .error error ↔
            ¬ControlHeader.Admits datagram ∧
              error = .wrongLength .controlRequest datagram.length) ∧
          (∀ header, ControlHeader.parse datagram = .ok header ↔
            ControlHeader.Admits datagram ∧ header.Heads datagram) ∧
          ∀ other : Octets,
            (∃ header, ControlHeader.parse datagram = .ok header ∧
                ControlHeader.parse other = .ok header) ↔
              ControlHeader.Admits datagram ∧ ControlHeader.Admits other ∧
                ControlHeader.SameFields datagram other) ∧
      PacketKind.controlRequest.length = 24 ∧
      (∀ octets : Octets,
        (∀ address, controlAddress octets = .ok address ↔
            address.Unwrapped ∧ address.octets = octets) ∧
          ((∃ address, controlAddress octets = .ok (.v4 address)) ↔
            octets.length = 16 ∧ Ipv6.mappedHead <+: octets) ∧
          ∀ error, controlAddress octets = .error error ↔
            octets.length ≠ 16 ∧ error = .wrongLength .controlAddress octets.length) ∧
      Set.InjOn controlAddress {octets | octets.length = 16} := by
  refine ⟨?headers, rfl, ?addresses, controlAddress_injOn⟩
  case headers =>
    intro datagram
    exact ⟨ControlHeader.exists_parse_iff, fun _ => ControlHeader.parse_eq_error_iff,
      fun _ => ControlHeader.parse_eq_ok_iff, fun _ => ControlHeader.exists_same_parse_iff⟩
  case addresses =>
    intro octets
    exact ⟨fun _ => controlAddress_eq_ok_iff, exists_controlAddress_v4_iff,
      fun _ => controlAddress_eq_error_iff⟩

/-- The client's IPv4 address comes mapped; what follows the header is not looked at. -/
example :
    ControlHeader.parse
        ([2, 0x81, 0, 0, 0, 0, 14, 16] ++ Ipv6.mappedHead ++ [192, 168, 1, 100] ++ [1, 2, 3, 4]) =
      .ok ⟨2, 1, 3600, .v4 ⟨192, 168, 1, 100⟩⟩ := by decide

end PortMapping
