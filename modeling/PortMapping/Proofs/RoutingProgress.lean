import PortMapping.Proofs.RoutingFeed

/-!
# Progress through a routing datagram

A reader keeps an offset into the datagram and the events so far.  A round decodes the packet at
the offset and moves on by the length that the packet states, so the length decides whether the
reading ends and whether it stays within the datagram.  With any decoder the reading ends.  With
one that keeps to frames each round reads on by a header at least, and neither cutting a datagram
nor adding to it takes back an event.
-/

namespace PortMapping

namespace Routing

/-! ## Rounds -/

/-- How far a datagram has been read. -/
structure Reading where
  /-- Where the next packet starts. -/
  offset : Nat := 0
  /-- The events of the packets before it. -/
  events : List InterfaceEvent := []
  deriving DecidableEq, Repr

/-- One round of reading a datagram, none when the reading ends: at the end of the datagram, at
octets that cannot be decoded, or at a packet that states no length. -/
def Reading.next? (decode : Decoder) (datagram : Octets) (reading : Reading) : Option Reading :=
  if reading.offset < datagram.length then
    match decode (datagram.drop reading.offset) with
    | .error _ => none
    | .ok packet =>
        if packet.length = 0 then none
        else
          some
            { offset := reading.offset + packet.length
              events := reading.events ++ packet.event?.toList }
  else none

/-- One reading comes from another in so many rounds. -/
inductive Rounds (decode : Decoder) (datagram : Octets) : Nat → Reading → Reading → Prop where
  | none (reading : Reading) : Rounds decode datagram 0 reading reading
  | more {count : Nat} {first second last : Reading}
      (round : first.next? decode datagram = some second)
      (rest : Rounds decode datagram count second last) :
      Rounds decode datagram (count + 1) first last

variable {decode : Decoder} {datagram : Octets} {reading later : Reading}

/-- A round goes on exactly where a packet can be decoded that states a length. -/
theorem Reading.next?_eq_some_iff :
    reading.next? decode datagram = some later ↔
      reading.offset < datagram.length ∧
        ∃ packet, decode (datagram.drop reading.offset) = .ok packet ∧ packet.length ≠ 0 ∧
          later = ⟨reading.offset + packet.length, reading.events ++ packet.event?.toList⟩ := by
  rw [next?]
  constructor
  · intro round
    split at round
    next within =>
      split at round
      · cases round
      next packet decoded =>
        split at round
        · cases round
        next moves =>
          cases round
          exact ⟨within, packet, decoded, moves, rfl⟩
    · cases round
  · rintro ⟨within, packet, decoded, moves, rfl⟩
    simp only [if_pos within, decoded, if_neg moves]

/-- Whatever the decoder, a round starts within the datagram and reads on. -/
theorem Reading.lt_of_next? (round : reading.next? decode datagram = some later) :
    reading.offset < datagram.length ∧ reading.offset < later.offset := by
  rcases next?_eq_some_iff.mp round with ⟨within, packet, _, moves, rfl⟩
  exact ⟨within, Nat.lt_add_of_pos_right (Nat.pos_of_ne_zero moves)⟩

/-- The events so far and those of the rest are the same after a round. -/
theorem Reading.events_of_next? (round : reading.next? decode datagram = some later) :
    later.events ++ (Routing.events decode (datagram.drop later.offset)).value =
      reading.events ++ (Routing.events decode (datagram.drop reading.offset)).value := by
  rcases next?_eq_some_iff.mp round with ⟨within, packet, decoded, moves, rfl⟩
  have occupied : datagram.drop reading.offset ≠ [] := mt List.drop_eq_nil_iff.mp (by omega)
  rw [events_of_ok occupied decoded moves, List.drop_drop, Logged.value_bind, Logged.value_pure,
    List.append_assoc]

/-- Where the reading ends, the rest reports nothing. -/
theorem Reading.events_of_next?_eq_none (ended : reading.next? decode datagram = none) :
    (Routing.events decode (datagram.drop reading.offset)).value = [] := by
  rw [next?] at ended
  split at ended
  next within =>
    cases decoded : decode (datagram.drop reading.offset) with
    | error words => exact value_events_of_error decoded
    | ok packet =>
        have still : packet.length = 0 := by simpa [decoded] using ended
        rw [Routing.events, decoded]
        simp [still]
  next beyond =>
    rw [List.drop_eq_nil_of_le (Nat.le_of_not_lt beyond), Routing.events]
    rfl

/-- A round reads on by a header at least and not past the end. -/
theorem Decoder.Framing.offset_of_next? (framing : decode.Framing)
    (round : reading.next? decode datagram = some later) :
    reading.offset + 16 ≤ later.offset ∧ later.offset ≤ datagram.length := by
  rcases Reading.next?_eq_some_iff.mp round with ⟨within, packet, decoded, _, rfl⟩
  have bounds := framing.bounds decoded
  rw [packetHeader, List.length_drop] at bounds
  change reading.offset + 16 ≤ reading.offset + packet.length ∧
    reading.offset + packet.length ≤ datagram.length
  omega

/-! ## Readings -/

namespace Rounds

variable {count : Nat} {first last : Reading}

theorem events_eq (rounds : Rounds decode datagram count first last) :
    last.events ++ (Routing.events decode (datagram.drop last.offset)).value =
      first.events ++ (Routing.events decode (datagram.drop first.offset)).value := by
  induction rounds with
  | none => rfl
  | more round _ ih => rw [ih, Reading.events_of_next? round]

/-- From anywhere, and whatever the decoder, the reading ends. -/
theorem exists_ended (decode : Decoder) (datagram : Octets) (first : Reading) :
    ∃ count last, Rounds decode datagram count first last ∧
      last.next? decode datagram = Option.none := by
  cases round : first.next? decode datagram with
  | none => exact ⟨0, first, .none first, round⟩
  | some second =>
      have advance := Reading.lt_of_next? round
      rcases exists_ended decode datagram second with ⟨count, last, rest, ended⟩
      exact ⟨count + 1, last, .more round rest, ended⟩
termination_by datagram.length - first.offset
decreasing_by omega

theorem offset_le (framing : decode.Framing) (rounds : Rounds decode datagram count first last)
    (within : first.offset ≤ datagram.length) :
    first.offset + 16 * count ≤ last.offset ∧ last.offset ≤ datagram.length := by
  induction rounds with
  | none => exact ⟨Nat.le_refl _, within⟩
  | more round _ ih =>
      have advance := framing.offset_of_next? round
      have bounds := ih advance.2
      omega

end Rounds

/-! ## Cut and extended datagrams -/

namespace Decoder.Framing

variable (framing : decode.Framing)
include framing

/-- What follows a datagram only adds to its events. -/
theorem events_prefix_append (front rest : Octets) :
    (events decode front).value <+: (events decode (front ++ rest)).value := by
  fun_induction events decode front with
  | case1 => exact List.nil_prefix
  | case2 => exact List.nil_prefix
  | case3 => exact List.nil_prefix
  | case4 front occupied packet decoded moves ih =>
      have longer := framing.decode_append decoded rest
      have within := (framing.bounds decoded).2
      rw [events_of_ok (framing.ne_nil longer) longer moves,
        List.drop_append_of_le_length within]
      exact (List.prefix_append_right_inj _).mpr ih

/-- Each event takes up a header at least. -/
theorem length_events_le (datagram : Octets) :
    (events decode datagram).value.length ≤ datagram.length / 16 := by
  fun_induction events decode datagram with
  | case1 => exact Nat.zero_le _
  | case2 => exact Nat.zero_le _
  | case3 => exact Nat.zero_le _
  | case4 datagram occupied packet decoded moves ih =>
      have bounds := framing.bounds decoded
      have single : packet.event?.toList.length ≤ 1 := by
        cases packet.event? <;> simp
      rw [packetHeader] at bounds
      rw [List.length_drop] at ih
      rw [Logged.value_bind, Logged.value_pure, List.length_append]
      omega

end Decoder.Framing

/-- Reading any datagram from its start ends, after no more rounds than headers fit into it, with
the events of the datagram, and the events read so far are always the first of them.  Each round
that goes on, from wherever, reads on by a header at least and not past the end.  The events of a
datagram cut anywhere begin those of the whole, as its own begin those of a longer one. -/
theorem reading_ends {decode : Decoder} (framing : decode.Framing) (datagram : Octets) :
    (∃ count last, Rounds decode datagram count {} last ∧ last.next? decode datagram = none ∧
        last.events = (events decode datagram).value) ∧
      (∀ count last, Rounds decode datagram count {} last →
        count ≤ datagram.length / 16 ∧ last.events <+: (events decode datagram).value) ∧
      (∀ reading later, Reading.next? decode datagram reading = some later →
        reading.offset + 16 ≤ later.offset ∧ later.offset ≤ datagram.length) ∧
      (events decode datagram).value.length ≤ datagram.length / 16 ∧
      (∀ count, (events decode (datagram.take count)).value <+: (events decode datagram).value) ∧
      ∀ rest, (events decode datagram).value <+: (events decode (datagram ++ rest)).value := by
  refine ⟨?_, ?_, ?_, framing.length_events_le datagram, ?_,
    framing.events_prefix_append datagram⟩
  · rcases Rounds.exists_ended decode datagram {} with ⟨count, last, rounds, ended⟩
    have told := rounds.events_eq
    rw [Reading.events_of_next?_eq_none ended, List.append_nil] at told
    exact ⟨count, last, rounds, ended, told⟩
  · intro count last rounds
    have bounds := rounds.offset_le framing (Nat.zero_le _)
    have told := rounds.events_eq
    constructor
    · change 0 + 16 * count ≤ last.offset ∧ last.offset ≤ datagram.length at bounds
      omega
    · exact ⟨_, told⟩
  · intro reading later round
    exact framing.offset_of_next? round
  · intro count
    have longer := framing.events_prefix_append (datagram.take count) (datagram.drop count)
    rw [List.take_append_drop] at longer
    exact longer

/-- Where the datagram is cut within its second packet, the event of the first one stands. -/
theorem reading_ends_of_cutDeparture :
    plainDecoder.Framing ∧
      (events plainDecoder (aliasAdded ++ linkGone)).value =
        [⟨.addressAdded, "eth0"⟩, ⟨.departed, "wan0"⟩] ∧
      (events plainDecoder ((aliasAdded ++ linkGone).take 84)).value =
        [⟨.addressAdded, "eth0"⟩] ∧
      (events plainDecoder ((aliasAdded ++ linkGone).take 84)).value <+:
        (events plainDecoder (aliasAdded ++ linkGone)).value ∧
      ∃ count last, Rounds plainDecoder (aliasAdded ++ linkGone) count {} last ∧
        last.next? plainDecoder (aliasAdded ++ linkGone) = none ∧
          last.events = (events plainDecoder (aliasAdded ++ linkGone)).value := by
  rcases reading_ends plainDecoder_framing (aliasAdded ++ linkGone) with
    ⟨ended, _, _, _, cut, _⟩
  exact ⟨plainDecoder_framing, by decide +kernel, by decide +kernel, cut 84, ended⟩

end Routing

end PortMapping
