import PortMapping.Interface.RoutingDecoder
import Mathlib.Data.List.Forall2
import Mathlib.Data.List.TakeWhile

/-!
# The routing feed

A packet is decoded from its own octets, so what follows it in a datagram never matters to it,
and a datagram reports what its packets report, one after the other, whatever the decoder makes
of them.  What one packet reports is stated by relations on names, labels and attributes.
-/

namespace PortMapping

namespace Routing

/-! ## Packets in a row -/

variable {decode : Decoder} {octets : Octets} {packet : Packet}

/-- A decoded packet reports first, and the reading goes on after it. -/
theorem events_of_ok (occupied : octets ≠ []) (decoded : decode octets = .ok packet)
    (moves : packet.length ≠ 0) :
    events decode octets = do
      let later ← events decode (octets.drop packet.length)
      return packet.event?.toList ++ later := by
  have unended : ¬octets.isEmpty = true := mt List.isEmpty_iff.mp occupied
  conv => lhs; rw [events]
  simp only [unended, decoded, moves, dite_false, Bool.false_eq_true]

theorem value_events_of_error {words : String} (refused : decode octets = .error words) :
    (events decode octets).value = [] := by
  rw [events, refused]
  split <;> rfl

namespace Decoder

/-- A packet is decoded from octets whose number is the length it states. -/
structure Fills (decode : Decoder) (packet : Packet) (octets : Octets) : Prop where
  decoded : decode octets = .ok packet
  length : packet.length = octets.length

namespace Framing

variable (framing : decode.Framing)
include framing

theorem length_ne_zero (decoded : decode octets = .ok packet) : packet.length ≠ 0 := by
  have headed := (framing.bounds decoded).1
  rw [packetHeader] at headed
  omega

theorem ne_nil (decoded : decode octets = .ok packet) : octets ≠ [] := by
  rintro rfl
  exact framing.length_ne_zero decoded (Nat.le_zero.mp (framing.bounds decoded).2)

/-- Decoding reads nothing past the end of the packet. -/
theorem decode_append (decoded : decode octets = .ok packet) (rest : Octets) :
    decode (octets ++ rest) = .ok packet :=
  framing.own decoded (List.take_append_of_le_length (framing.bounds decoded).2)

/-- A packet that fills its octets reports first, and then whatever follows it. -/
theorem events_append (fills : decode.Fills packet octets) (rest : Octets) :
    events decode (octets ++ rest) = do
      let later ← events decode rest
      return packet.event?.toList ++ later := by
  have decoded := framing.decode_append fills.decoded rest
  rw [events_of_ok (framing.ne_nil decoded) decoded (framing.length_ne_zero decoded), fills.length,
    List.drop_left]

/-- So does a row of packets. -/
theorem events_flatten_append {packets : List Packet} {frames : List Octets}
    (fill : List.Forall₂ decode.Fills packets frames) (rest : Octets) :
    (events decode (frames.flatten ++ rest)).value =
        packets.filterMap Packet.event? ++ (events decode rest).value ∧
      (events decode (frames.flatten ++ rest)).log = (events decode rest).log := by
  induction fill with
  | nil => exact ⟨rfl, rfl⟩
  | @cons packet octets packets frames first _ ih =>
      rw [List.flatten_cons, List.append_assoc, framing.events_append first]
      constructor
      · rw [Logged.value_bind, Logged.value_pure, ih.1, List.filterMap_cons]
        cases packet.event? <;> rfl
      · rw [Logged.log_bind, Logged.log_pure, List.append_nil, ih.2]

end Framing

end Decoder

/-! ## Names -/

/-- The name of an interface in the label of one of its addresses: what stands before the first
colon, unless nothing stands there. -/
structure Names (label name : String) : Prop where
  nonempty : name ≠ ""
  plain : ':' ∉ name.toList
  /-- The label of an alias goes on after a colon. -/
  label : label.toList = name.toList ∨ ∃ suffix, label.toList = name.toList ++ ':' :: suffix

theorem takeWhile_eq_iff {label name : List Char} :
    label.takeWhile (· ≠ ':') = name ↔
      ':' ∉ name ∧ (label = name ∨ ∃ suffix, label = name ++ ':' :: suffix) := by
  have whole := List.takeWhile_append_dropWhile (p := (· ≠ ':')) (l := label)
  constructor
  · rintro rfl
    constructor
    · intro colon
      simpa using List.mem_takeWhile_imp colon
    · cases left : label.dropWhile (· ≠ ':') with
      | nil =>
          left
          rw [left, List.append_nil] at whole
          exact whole.symm
      | cons first suffix =>
          right
          have stops := List.head?_dropWhile_not (· ≠ ':') label
          rw [left] at stops whole
          have colon : first = ':' := by simpa using stops
          rw [colon] at whole
          exact ⟨suffix, whole.symm⟩
  · rintro ⟨plain, ends⟩
    have taken : ∀ char ∈ name, decide (char ≠ ':') = true := by
      intro char member
      apply decide_eq_true
      rintro rfl
      exact plain member
    rcases ends with rfl | ⟨suffix, rfl⟩
    · exact List.takeWhile_eq_self_iff.mpr taken
    · rw [List.takeWhile_append_of_pos taken, List.takeWhile_cons_of_neg (by simp),
        List.append_nil]

theorem labelInterface?_eq_some_iff {label name : String} :
    labelInterface? label = some name ↔ Names label name := by
  rw [labelInterface?]
  constructor
  · intro named
    split at named
    · cases named
    next some =>
      cases named
      rcases takeWhile_eq_iff.mp (rfl : label.toList.takeWhile (· ≠ ':') = _) with ⟨plain, ends⟩
      constructor
      · intro empty
        rw [← String.toList_eq_nil_iff, String.toList_ofList] at empty
        exact some (List.isEmpty_iff.mpr empty)
      · rw [String.toList_ofList]
        exact plain
      · rw [String.toList_ofList]
        exact ends
  · rintro ⟨nonempty, plain, ends⟩
    have taken := takeWhile_eq_iff.mpr ⟨plain, ends⟩
    have some : ¬name.toList.isEmpty = true := by
      rw [List.isEmpty_iff, String.toList_eq_nil_iff]
      exact nonempty
    simp only [taken, if_neg some, String.ofList_toList]

/-! ## What a packet reports -/

/-- An attribute of an address holds a label that names an interface. -/
def AddressAttribute.Labels (entry : AddressAttribute) (name : String) : Prop :=
  ∃ label, entry = .label label ∧ Names label name

theorem AddressAttribute.labels_iff (entry : AddressAttribute) (name : String) :
    entry.interface? = some name ↔ entry.Labels name := by
  cases entry with
  | label text => simp [interface?, labelInterface?_eq_some_iff, Labels]
  | other => simp [interface?, Labels]

theorem LinkAttribute.interface?_eq_some_iff (entry : LinkAttribute) (name : String) :
    entry.interface? = some name ↔ entry = .name name := by
  cases entry <;> simp [interface?]

section Given

variable {α : Type}

/-- The first attribute to give a name gives this one. -/
def FirstGiven (gives : α → String → Prop) (attributes : List α) (name : String) : Prop :=
  ∃ before entry after, attributes = before ++ entry :: after ∧ gives entry name ∧
    ∀ earlier ∈ before, ∀ other, ¬gives earlier other

/-- No attribute gives a name. -/
def NoneGiven (gives : α → String → Prop) (attributes : List α) : Prop :=
  ∀ entry ∈ attributes, ∀ name, ¬gives entry name

variable {gives : α → String → Prop} {given? : α → Option String}
variable (agrees : ∀ entry name, given? entry = some name ↔ gives entry name)
variable {attributes : List α} {name : String}
include agrees

theorem given?_eq_none_iff {entry : α} :
    given? entry = none ↔ ∀ name, ¬gives entry name := by
  simp only [Option.eq_none_iff_forall_ne_some, ne_eq, agrees]

theorem findSome?_eq_some_iff_firstGiven :
    attributes.findSome? given? = some name ↔ FirstGiven gives attributes name := by
  simp only [List.findSome?_eq_some_iff, agrees, given?_eq_none_iff agrees, FirstGiven]

theorem findSome?_eq_none_iff_noneGiven :
    attributes.findSome? given? = none ↔ NoneGiven gives attributes := by
  simp only [List.findSome?_eq_none_iff, given?_eq_none_iff agrees, NoneGiven]

end Given

/-- What a packet reports: an address that was added or removed under the first label that
names an interface, a link that departed under its first name, and nothing else. -/
inductive Reports : Packet → Option InterfaceEvent → Prop where
  | added {length : Nat} {attributes : List AddressAttribute} {name : String}
      (labelled : FirstGiven AddressAttribute.Labels attributes name) :
      Reports ⟨length, .routing (.newAddress attributes)⟩ (some ⟨.addressAdded, name⟩)
  | removed {length : Nat} {attributes : List AddressAttribute} {name : String}
      (labelled : FirstGiven AddressAttribute.Labels attributes name) :
      Reports ⟨length, .routing (.deleteAddress attributes)⟩ (some ⟨.addressRemoved, name⟩)
  | departed {length : Nat} {attributes : List LinkAttribute} {name : String}
      (named : FirstGiven (fun entry name => entry = .name name) attributes name) :
      Reports ⟨length, .routing (.deleteLink attributes)⟩ (some ⟨.departed, name⟩)
  | unlabelledAdded {length : Nat} {attributes : List AddressAttribute}
      (unlabelled : NoneGiven AddressAttribute.Labels attributes) :
      Reports ⟨length, .routing (.newAddress attributes)⟩ none
  | unlabelledRemoved {length : Nat} {attributes : List AddressAttribute}
      (unlabelled : NoneGiven AddressAttribute.Labels attributes) :
      Reports ⟨length, .routing (.deleteAddress attributes)⟩ none
  | unnamed {length : Nat} {attributes : List LinkAttribute}
      (unnamed : NoneGiven (fun entry name => entry = .name name) attributes) :
      Reports ⟨length, .routing (.deleteLink attributes)⟩ none
  | unrelated {length : Nat} : Reports ⟨length, .routing .other⟩ none
  | control {length : Nat} : Reports ⟨length, .control⟩ none

theorem event?_of_reports {packet : Packet} {event : Option InterfaceEvent}
    (reports : Reports packet event) : packet.event? = event := by
  have labels := AddressAttribute.labels_iff
  have names := LinkAttribute.interface?_eq_some_iff
  cases reports with
  | added labelled | removed labelled =>
      simp only [Packet.event?, Message.event?,
        (findSome?_eq_some_iff_firstGiven labels).mpr labelled, Option.map_some]
  | departed named =>
      simp only [Packet.event?, Message.event?,
        (findSome?_eq_some_iff_firstGiven names).mpr named, Option.map_some]
  | unlabelledAdded unlabelled | unlabelledRemoved unlabelled =>
      simp only [Packet.event?, Message.event?,
        (findSome?_eq_none_iff_noneGiven labels).mpr unlabelled, Option.map_none]
  | unnamed unnamed =>
      simp only [Packet.event?, Message.event?,
        (findSome?_eq_none_iff_noneGiven names).mpr unnamed, Option.map_none]
  | unrelated => rfl
  | control => rfl

theorem reports_event? (packet : Packet) : Reports packet packet.event? := by
  have labels := AddressAttribute.labels_iff
  have names := LinkAttribute.interface?_eq_some_iff
  rcases packet with ⟨length, message | _⟩
  case control => exact .control
  cases message with
  | newAddress attributes =>
      simp only [Packet.event?, Message.event?]
      cases found : attributes.findSome? AddressAttribute.interface? with
      | none => exact .unlabelledAdded ((findSome?_eq_none_iff_noneGiven labels).mp found)
      | some name => exact .added ((findSome?_eq_some_iff_firstGiven labels).mp found)
  | deleteAddress attributes =>
      simp only [Packet.event?, Message.event?]
      cases found : attributes.findSome? AddressAttribute.interface? with
      | none => exact .unlabelledRemoved ((findSome?_eq_none_iff_noneGiven labels).mp found)
      | some name => exact .removed ((findSome?_eq_some_iff_firstGiven labels).mp found)
  | deleteLink attributes =>
      simp only [Packet.event?, Message.event?]
      cases found : attributes.findSome? LinkAttribute.interface? with
      | none => exact .unnamed ((findSome?_eq_none_iff_noneGiven names).mp found)
      | some name => exact .departed ((findSome?_eq_some_iff_firstGiven names).mp found)
  | other => exact .unrelated

/-- A packet reports its event and nothing else. -/
theorem reports_iff {packet : Packet} {event : Option InterfaceEvent} :
    Reports packet event ↔ packet.event? = event := by
  constructor
  · exact event?_of_reports
  · rintro rfl
    exact reports_event? packet

/-- An address is reported for an interface with a name and without the suffix of an alias. -/
theorem Reports.plain {packet : Packet} {event : InterfaceEvent}
    (reports : Reports packet (some event)) (address : event.change ≠ .departed) :
    event.interface ≠ "" ∧ ':' ∉ event.interface.toList := by
  cases reports with
  | added labelled | removed labelled =>
      rcases labelled with ⟨_, _, _, _, ⟨_, _, names⟩, _⟩
      exact ⟨names.nonempty, names.plain⟩
  | departed => exact (address rfl).elim

/-! ## What a datagram reports -/

/-- Every event of a datagram is one that some packet reports. -/
theorem exists_reports_of_mem_events (decode : Decoder) (datagram : Octets) :
    ∀ event ∈ (events decode datagram).value, ∃ packet, Reports packet (some event) := by
  fun_induction events decode datagram with
  | case1 => nofun
  | case2 => nofun
  | case3 => nofun
  | case4 datagram occupied packet decoded moves ih =>
      intro event member
      rw [Logged.value_bind, Logged.value_pure, List.mem_append, Option.mem_toList] at member
      rcases member with reported | later
      · exact ⟨packet, reports_iff.mpr reported⟩
      · exact ih event later

/-- A datagram that begins with packets, each decoded from as many octets as it states, reports
what each of them reports, in their order, and then what the rest reports, whatever the rest is.
A packet's report goes by the first label or name in it; and an address is always reported for an
interface with a name, never for an alias. -/
theorem events_of_packets {decode : Decoder} (framing : decode.Framing) {packets : List Packet}
    {frames : List Octets} (fill : List.Forall₂ decode.Fills packets frames) (rest : Octets) :
    (events decode (frames.flatten ++ rest)).value =
        packets.filterMap Packet.event? ++ (events decode rest).value ∧
      (events decode (frames.flatten ++ rest)).log = (events decode rest).log ∧
      (∀ packet event, Reports packet event ↔ packet.event? = event) ∧
      ∀ event ∈ (events decode (frames.flatten ++ rest)).value, event.change ≠ .departed →
        event.interface ≠ "" ∧ ':' ∉ event.interface.toList := by
  rcases framing.events_flatten_append fill rest with ⟨value, log⟩
  refine ⟨value, log, fun _ _ => reports_iff, ?_⟩
  intro event member address
  rcases exists_reports_of_mem_events decode _ event member with ⟨packet, reports⟩
  exact reports.plain address

/-- An address of the interface with index two was added, its first label empty before the colon
and its second that of an alias. -/
def aliasAdded : Octets :=
  [44, 0, 0, 0, 20, 0, 0, 0, 0, 0, 0, 0, 0, 0, 0, 0, 2, 24, 0, 0, 2, 0, 0, 0,
    7, 0, 3, 0, 58, 49, 0, 0, 11, 0, 3, 0, 101, 116, 104, 48, 58, 49, 0, 0]

/-- The link `wan0` went away; the padding of its name is left out. -/
def linkGone : Octets :=
  [41, 0, 0, 0, 17, 0, 0, 0, 0, 0, 0, 0, 0, 0, 0, 0, 0, 0, 0, 0, 3, 0, 0, 0, 0, 0, 0, 0,
    0, 0, 0, 0, 9, 0, 3, 0, 119, 97, 110, 48, 0]

/-- The end of an answer. -/
def answerDone : Octets := [20, 0, 0, 0, 3, 0, 2, 0, 0, 0, 0, 0, 0, 0, 0, 0, 0, 0, 0, 0]

/-- An alias and a departure, with the end of an answer between them and a message cut short
after them. -/
theorem events_of_aliasAndDeparture :
    plainDecoder.Framing ∧
      List.Forall₂ plainDecoder.Fills
        [⟨44, .routing (.newAddress [.label ":1", .label "eth0:1"])⟩, ⟨20, .control⟩,
          ⟨41, .routing (.deleteLink [.name "wan0"])⟩]
        [aliasAdded, answerDone, linkGone] ∧
      (events plainDecoder
        ([aliasAdded, answerDone, linkGone].flatten ++ aliasAdded.take 40)).value =
          [⟨.addressAdded, "eth0"⟩, ⟨.departed, "wan0"⟩] := by
  have fill : List.Forall₂ plainDecoder.Fills
      [⟨44, .routing (.newAddress [.label ":1", .label "eth0:1"])⟩, ⟨20, .control⟩,
        ⟨41, .routing (.deleteLink [.name "wan0"])⟩]
      [aliasAdded, answerDone, linkGone] :=
    .cons ⟨by decide +kernel, by decide⟩ <| .cons ⟨by decide +kernel, by decide⟩ <|
      .cons ⟨by decide +kernel, by decide⟩ .nil
  refine ⟨plainDecoder_framing, fill, ?_⟩
  rw [(events_of_packets plainDecoder_framing fill _).1]
  decide +kernel

end Routing

end PortMapping
