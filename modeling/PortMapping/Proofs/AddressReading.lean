import Mathlib.Data.List.TakeWhile
import PortMapping.Address.Text
import PortMapping.Proofs.Numerals

/-!
# Addresses read back

Every address and every endpoint is read back as it was written, wherever the text goes on with
something that could not belong to it.  For IPv6 there are three written forms, and the reader
has to find out by itself which one it has in front of it: a dotted address is tried at every
group and must not be taken for one, and two colons must end the groups before them.
-/

namespace PortMapping

open Text

/-! ## Rules for numerals -/

theorem Ipv4.sound_partRule : Ipv4.partRule.Sound := by
  refine ⟨by decide, by decide, ?_⟩
  rintro longest ⟨⟩
  decide

theorem Ipv6.sound_groupRule : Ipv6.groupRule.Sound := by
  refine ⟨by decide, by decide, ?_⟩
  rintro longest ⟨⟩
  decide

theorem sound_portRule : portRule.Sound :=
  ⟨by decide, by decide, fun _ limit => nomatch limit⟩

theorem sound_scopeRule : scopeRule.Sound :=
  ⟨by decide, by decide, fun _ limit => nomatch limit⟩

/-! ## IPv4 -/

namespace Ipv4

variable {text rest : List Char}

theorem partRule_read (part : UInt8) (stops : Stops 10 rest) :
    partRule.read (decimal part.toNat ++ rest) = some (part.toNat, rest) :=
  sound_partRule.read_toDigits part.toNat_lt stops

theorem stops_dot (rest : List Char) : Stops 10 ('.' :: rest) := by
  rintro character ⟨⟩
  decide

/-- A dotted address is read back before anything but a digit. -/
theorem read_chars (address : Ipv4) (stops : Stops 10 rest) :
    read (address.chars ++ rest) = some (address, rest) := by
  simp only [read, chars, List.append_assoc, List.cons_append, partRule_read _ (stops_dot _),
    partRule_read _ stops, expect_cons, Option.bind_eq_bind, Option.bind_some,
    UInt8.ofNat_toNat]
  rfl

theorem read_whole (address : Ipv4) : read address.chars = some (address, []) := by
  have found := address.read_chars (stops_nil 10)
  rw [List.append_nil] at found
  exact found

end Ipv4

/-! ## IPv6 -/

namespace Ipv6

/-- Nothing at the front of a text could belong to a group or to a dotted address. -/
def Breaks (text : List Char) : Prop :=
  ∀ character ∈ text.head?, digitValue? 16 character = none ∧ character ≠ '.'

/-- A text in front of which a run of groups ends: no group goes on in it, and none follows
after a colon. -/
structure Ends (text : List Char) : Prop where
  breaks : Breaks text
  unlinked : ∀ later, expect ':' text = some later → Breaks later

variable {text rest : List Char}

theorem breaks_nil : Breaks [] := nofun

theorem breaks_cons {first : Char} (other : digitValue? 16 first = none) (plain : first ≠ '.')
    (rest : List Char) : Breaks (first :: rest) := by
  rintro character ⟨⟩
  exact ⟨other, plain⟩

theorem Breaks.stops (breaks : Breaks text) : Stops 16 text := fun character first =>
  (breaks character first).1

theorem Breaks.decimal (breaks : Breaks text) : Stops 10 text := fun character first =>
  digitValue?_eq_none_of_le (by decide) (breaks.stops character first)

/-- Groups each with a colon before it. -/
def linked (groups : List UInt16) : List Char :=
  groups.flatMap fun group => ':' :: hexadecimal group.toNat

theorem joinGroups_cons (group : UInt16) (groups : List UInt16) :
    joinGroups (group :: groups) = hexadecimal group.toNat ++ linked groups := by
  induction groups generalizing group with
  | nil => simp [joinGroups, linked]
  | cons second groups ih =>
      rw [joinGroups, ih]
      · rfl
      · simp

theorem breaks_linked (groups : List UInt16) (breaks : Breaks rest) :
    Breaks (linked groups ++ rest) := by
  cases groups with
  | nil => exact breaks
  | cons group groups => exact breaks_cons (by decide) (by decide) _

theorem groupRule_read (group : UInt16) (breaks : Breaks rest) :
    groupRule.read (hexadecimal group.toNat ++ rest) = some (group.toNat, rest) :=
  sound_groupRule.read_toDigits group.toNat_lt breaks.stops

/-- Decimal digits at the front of hexadecimal ones are not followed by a dot. -/
theorem expect_dot_leadingDigits {front : List Char}
    (digits : ∀ character ∈ front, ∃ digit, digitValue? 16 character = some digit)
    (breaks : Breaks rest) : expect '.' (leadingDigits 10 (front ++ rest)).2 = none := by
  induction front with
  | nil =>
      rw [List.nil_append, leadingDigits_of_stops breaks.decimal]
      cases rest with
      | nil => rfl
      | cons first rest => exact if_neg (breaks first rfl).2
  | cons first front ih =>
      rw [List.cons_append, leadingDigits]
      cases digitValue? 10 first with
      | some value =>
          exact ih fun character later => digits character (List.mem_cons_of_mem _ later)
      | none =>
          rcases digits first List.mem_cons_self with ⟨digit, known⟩
          apply if_neg
          rintro rfl
          cases known

theorem read_ipv4_eq_none {front : List Char}
    (digits : ∀ character ∈ front, ∃ digit, digitValue? 16 character = some digit)
    (breaks : Breaks rest) : Ipv4.read (front ++ rest) = none := by
  rw [Ipv4.read, NumeralRule.read]
  split
  · have undotted : expect '.' (leadingDigits Ipv4.partRule.base (front ++ rest)).2 = none :=
      expect_dot_leadingDigits digits breaks
    simp only [undotted, Option.bind_eq_bind, Option.bind_some, Option.bind_none]
  · rfl

/-- A group is not taken for the first part of a dotted address. -/
theorem read_ipv4_group (group : UInt16) (breaks : Breaks rest) :
    Ipv4.read (hexadecimal group.toNat ++ rest) = none :=
  read_ipv4_eq_none (fun _ member => exists_digit_of_mem (by decide) (by decide) member) breaks

theorem read_ipv4_of_breaks (breaks : Breaks text) : Ipv4.read text = none :=
  read_ipv4_eq_none (List.forall_mem_nil _) breaks

/-- No group is read where none begins. -/
theorem readGroups_of_breaks {slots : Nat} {leading : Bool}
    (breaks : ∀ item ∈ if leading then some text else expect ':' text, Breaks item) :
    readGroups slots leading text = ⟨[], false, text⟩ := by
  cases slots with
  | zero => rfl
  | succ slots =>
      rw [readGroups]
      generalize (if leading then some text else expect ':' text) = item? at breaks ⊢
      cases item? with
      | none => simp
      | some item =>
          have plain := breaks item rfl
          simp [read_ipv4_of_breaks plain, groupRule.read_of_stops plain.stops]

/-- A group is read and then those after it. -/
theorem readGroups_group {slots : Nat} {leading : Bool} {group : UInt16}
    (item : (if leading then some text else expect ':' text) =
      some (hexadecimal group.toNat ++ rest)) (breaks : Breaks rest) :
    readGroups (slots + 1) leading text =
      let following := readGroups slots false rest
      ⟨group :: following.groups, following.dotted, following.rest⟩ := by
  rw [readGroups]
  simp only [item, Option.bind_some, read_ipv4_group group breaks, groupRule_read group breaks,
    ite_self, UInt16.ofNat_toNat]

theorem readGroups_linked {slots : Nat} {groups : List UInt16} (fit : groups.length ≤ slots)
    (ends : Ends rest) :
    readGroups slots false (linked groups ++ rest) = ⟨groups, false, rest⟩ := by
  induction groups generalizing slots with
  | nil => exact readGroups_of_breaks ends.unlinked
  | cons group groups ih =>
      cases slots with
      | zero => cases fit
      | succ slots =>
          have item : (if false then some (linked (group :: groups) ++ rest)
              else expect ':' (linked (group :: groups) ++ rest)) =
                some (hexadecimal group.toNat ++ (linked groups ++ rest)) := by
            rw [← List.append_assoc]
            rfl
          rw [readGroups_group item (breaks_linked groups ends.breaks),
            ih (Nat.le_of_succ_le_succ fit)]

/-- Groups that fit are read back, none left out and none added. -/
theorem readGroups_joinGroups {slots : Nat} {groups : List UInt16} (fit : groups.length ≤ slots)
    (ends : Ends rest) :
    readGroups slots true (joinGroups groups ++ rest) = ⟨groups, false, rest⟩ := by
  cases groups with
  | nil =>
      apply readGroups_of_breaks
      rintro item ⟨⟩
      exact ends.breaks
  | cons group groups =>
      cases slots with
      | zero => cases fit
      | succ slots =>
          have item : (if true then some (joinGroups (group :: groups) ++ rest)
              else expect ':' (joinGroups (group :: groups) ++ rest)) =
                some (hexadecimal group.toNat ++ (linked groups ++ rest)) := by
            rw [joinGroups_cons, List.append_assoc]
            rfl
          rw [readGroups_group item (breaks_linked groups ends.breaks),
            readGroups_linked (Nat.le_of_succ_le_succ fit) ends]

/-- Groups are not taken for a dotted address. -/
theorem read_ipv4_joinGroups (groups : List UInt16) (breaks : Breaks rest) :
    Ipv4.read (joinGroups groups ++ rest) = none := by
  cases groups with
  | nil => exact read_ipv4_of_breaks breaks
  | cons group groups =>
      rw [joinGroups_cons, List.append_assoc]
      exact read_ipv4_group group (breaks_linked groups breaks)

/-! ### Zero groups -/

/-- The longest run of zero groups is one. -/
theorem exists_longestZeros (groups : List UInt16) :
    ∃ front back, groups = front ++ List.replicate (longestZeros groups).2 0 ++ back ∧
      front.length = (longestZeros groups).1 := by
  induction groups with
  | nil => exact ⟨[], [], rfl, rfl⟩
  | cons group rest ih =>
      rw [longestZeros]
      split
      next longest =>
        refine ⟨[], (group :: rest).dropWhile (· = 0), ?_, rfl⟩
        have zeros : (group :: rest).takeWhile (· = 0) =
            List.replicate ((group :: rest).takeWhile (· = 0)).length 0 := by
          apply List.eq_replicate_of_mem
          intro zero member
          have isZero := List.mem_takeWhile_imp member
          exact of_decide_eq_true isZero
        rw [List.nil_append, ← zeros, List.takeWhile_append_dropWhile]
      next shorter =>
        rcases ih with ⟨front, back, split, length⟩
        refine ⟨group :: front, back, ?_, ?_⟩
        · simp only [List.cons_append]
          rw [← split]
        · rw [List.length_cons, length]

/-! ### Whole addresses -/

theorem ofGroups?_groups (address : Ipv6) : ofGroups? address.groups = some address :=
  dif_pos address.length_groups

theorem ends_nil : Ends [] := ⟨breaks_nil, nofun⟩

theorem ends_colons (rest : List Char) : Ends (':' :: ':' :: rest) where
  breaks := breaks_cons (by decide) (by decide) _
  unlinked := by
    rintro later ⟨⟩
    exact breaks_cons (by decide) (by decide) _

/-- Eight groups are an address. -/
theorem read_full {address : Ipv6} (ends : Ends rest) :
    read (joinGroups address.groups ++ rest) = some (address, rest) := by
  rw [read, readGroups_joinGroups (Nat.le_of_eq address.length_groups) ends]
  simp only [if_pos address.length_groups, ofGroups?_groups]
  rfl

/-- Two colons stand for the zero groups that are left out. -/
theorem read_compressed {address : Ipv6} {front back : List UInt16} {zeros : Nat}
    (some : 0 < zeros) (split : address.groups = front ++ List.replicate zeros 0 ++ back)
    (ends : Ends rest) :
    read (joinGroups front ++ ("::".toList ++ (joinGroups back ++ rest))) =
      .some (address, rest) := by
  have length := address.length_groups
  rw [split, List.length_append, List.length_append, List.length_replicate] at length
  have fit : front.length ≤ 8 := by omega
  have few : ¬front.length = 8 := by omega
  have backFit : back.length ≤ 7 - front.length := by omega
  have count : 8 - front.length - back.length = zeros := by omega
  have colons : "::".toList ++ (joinGroups back ++ rest) =
      ':' :: ':' :: (joinGroups back ++ rest) := rfl
  rw [read, colons, readGroups_joinGroups fit (ends_colons _)]
  simp only [if_neg few, expect_cons, Option.bind_some, Option.bind_eq_bind,
    readGroups_joinGroups backFit ends, count, ← split, ofGroups?_groups]
  rfl

/-- The two groups of an IPv4 address are those that it was read from. -/
theorem groupsOfIpv4_ofOctetsAt (high low : UInt16) :
    groupsOfIpv4 (Ipv4.ofOctetsAt (Octets.ofUInt16 high ++ Octets.ofUInt16 low) 0) =
      [high, low] := by
  have first := Octets.join16_split high
  have second := Octets.join16_split low
  exact congrArg₂ (fun first second => [first, second]) first second

theorem groups_of_mapped? {address : Ipv6} {inner : Ipv4}
    (mapped : address.mapped? = some inner) :
    address.groups = List.replicate 5 0 ++ 0xffff :: groupsOfIpv4 inner := by
  rw [mapped?] at mapped
  split at mapped
  next high low groups =>
    cases mapped
    rw [groups, groupsOfIpv4_ofOctetsAt]
    rfl
  · cases mapped

/-- A dotted address is read in place of the last two groups. -/
theorem readGroups_dotted {slots : Nat} (inner : Ipv4) (breaks : Breaks rest) :
    readGroups (slots + 2) false (':' :: (inner.chars ++ rest)) =
      ⟨groupsOfIpv4 inner, true, rest⟩ := by
  have two : ¬slots + 1 = 0 := Nat.succ_ne_zero slots
  rw [readGroups]
  simp only [expect_cons, if_neg two, Option.bind_some, Ipv4.read_chars inner breaks.decimal,
    Bool.false_eq_true, if_false]

/-- The dotted part of a mapped address fills its last two groups. -/
theorem read_mapped {address : Ipv6} {inner : Ipv4} (mapped : address.mapped? = some inner)
    (ends : Ends rest) :
    read ("::ffff:".toList ++ (inner.chars ++ rest)) = some (address, rest) := by
  let after := ':' :: (inner.chars ++ rest)
  have text : "::ffff:".toList ++ (inner.chars ++ rest) =
      ':' :: ':' :: (hexadecimal (0xffff : UInt16).toNat ++ after) := rfl
  have front : readGroups 8 true (':' :: ':' :: (hexadecimal (0xffff : UInt16).toNat ++ after)) =
      ⟨[], false, ':' :: ':' :: (hexadecimal (0xffff : UInt16).toNat ++ after)⟩ := by
    apply readGroups_of_breaks
    rintro item ⟨⟩
    exact (ends_colons _).breaks
  have back : readGroups 7 true (hexadecimal (0xffff : UInt16).toNat ++ after) =
      ⟨0xffff :: groupsOfIpv4 inner, true, rest⟩ := by
    rw [readGroups_group rfl (breaks_cons (by decide) (by decide) _),
      readGroups_dotted inner ends.breaks]
  rw [read, text, front]
  simp only [List.length_nil, Nat.reduceEqDiff, if_false, Bool.false_eq_true, expect_cons,
    Option.bind_some, Option.bind_eq_bind, Nat.sub_zero, back]
  have zeros : 8 - (0xffff :: groupsOfIpv4 inner).length = 5 := rfl
  rw [List.nil_append, zeros, ← groups_of_mapped? mapped, ofGroups?_groups]
  rfl

/-- The three written forms of an address. -/
inductive Form (address : Ipv6) : List Char → Prop where
  | mapped {inner : Ipv4} (mapped : address.mapped? = some inner) :
      Form address ("::ffff:".toList ++ inner.chars)
  | compressed {front back : List UInt16} {zeros : Nat} (some : 0 < zeros)
      (split : address.groups = front ++ List.replicate zeros 0 ++ back) :
      Form address (joinGroups front ++ ("::".toList ++ joinGroups back))
  | full : Form address (joinGroups address.groups)

/-- An address is written in one of them. -/
theorem form_chars (address : Ipv6) : Form address address.chars := by
  rw [chars]
  split
  next inner mapped => exact .mapped mapped
  next =>
    rcases exists_longestZeros address.groups with ⟨front, back, split, length⟩
    generalize longestZeros address.groups = zeros at split length
    simp only
    split
    next long =>
      have taken : address.groups.take zeros.1 = front := by
        rw [split, List.append_assoc, List.take_left' length]
      have dropped : address.groups.drop (zeros.1 + zeros.2) = back := by
        rw [split, List.drop_left' (by simp [length])]
      rw [taken, dropped, List.append_assoc]
      exact .compressed (Nat.lt_of_lt_of_le Nat.two_pos long) split
    next => exact .full

namespace Form

variable {address : Ipv6}

/-- Each form is read back before anything that could not belong to it. -/
theorem read_append (form : Form address text) (ends : Ends rest) :
    read (text ++ rest) = some (address, rest) := by
  cases form with
  | mapped mapped =>
      rw [List.append_assoc]
      exact read_mapped mapped ends
  | compressed some split =>
      rw [List.append_assoc, List.append_assoc]
      exact read_compressed some split ends
  | full => exact read_full ends

/-- No form is taken for a dotted address. -/
theorem read_ipv4 (form : Form address text) : Ipv4.read text = none := by
  cases form with
  | mapped => exact read_ipv4_of_breaks (ends_colons _).breaks
  | compressed => exact read_ipv4_joinGroups _ (ends_colons _).breaks
  | full =>
      rw [← List.append_nil (joinGroups _)]
      exact read_ipv4_joinGroups _ breaks_nil

end Form

/-- No address begins where neither a group nor a colon does. -/
theorem read_of_breaks (breaks : Breaks text) (plain : expect ':' text = none) :
    read text = none := by
  have front : readGroups 8 true text = ⟨[], false, text⟩ := by
    apply readGroups_of_breaks
    rintro item ⟨⟩
    exact breaks
  rw [read, front]
  simp only [List.length_nil, Nat.reduceEqDiff, if_false, Bool.false_eq_true, plain,
    Option.bind_none, Option.bind_eq_bind]

end Ipv6

/-! ## Characters of addresses -/

/-- Whether a character may stand in an address. -/
def isAddressChar (character : Char) : Bool :=
  (digitValue? 16 character).isSome || character = ':' || character = '.'

theorem isAddressChar_of_mem_toDigits {base number : Nat} (two : 1 < base) (sixteen : base ≤ 16)
    {character : Char} (member : character ∈ Nat.toDigits base number) :
    isAddressChar character = true := by
  rcases exists_digit_of_mem two sixteen member with ⟨digit, known⟩
  cases hexadecimal : digitValue? 16 character with
  | some _ => simp [isAddressChar, hexadecimal]
  | none =>
      rw [digitValue?_eq_none_of_le sixteen hexadecimal] at known
      cases known

theorem Ipv4.isAddressChar_of_mem {address : Ipv4} {character : Char}
    (member : character ∈ address.chars) : isAddressChar character = true := by
  have digits : ∀ number, character ∈ decimal number → isAddressChar character = true :=
    fun _ => isAddressChar_of_mem_toDigits (by decide) (by decide)
  simp only [chars, List.mem_append, List.mem_cons] at member
  rcases member with first | rfl | second | rfl | third | rfl | fourth
  · exact digits _ first
  · rfl
  · exact digits _ second
  · rfl
  · exact digits _ third
  · rfl
  · exact digits _ fourth

namespace Ipv6

theorem isAddressChar_of_mem_joinGroups {groups : List UInt16} {character : Char}
    (member : character ∈ joinGroups groups) : isAddressChar character = true := by
  have digits : ∀ group : UInt16, character ∈ hexadecimal group.toNat →
      isAddressChar character = true :=
    fun _ => isAddressChar_of_mem_toDigits (by decide) (by decide)
  cases groups with
  | nil => cases member
  | cons first groups =>
      rw [joinGroups_cons, List.mem_append, linked, List.mem_flatMap] at member
      rcases member with start | ⟨group, _, linked⟩
      · exact digits first start
      · rcases List.mem_cons.mp linked with rfl | later
        · rfl
        · exact digits group later

theorem Form.isAddressChar_of_mem {address : Ipv6} {text : List Char}
    (form : Form address text) {character : Char} (member : character ∈ text) :
    isAddressChar character = true := by
  cases form with
  | mapped =>
      have heading : ∀ character ∈ "::ffff:".toList, isAddressChar character = true :=
        List.all_eq_true.mp rfl
      rcases List.mem_append.mp member with first | dotted
      · exact heading character first
      · exact Ipv4.isAddressChar_of_mem dotted
  | compressed =>
      have colons : ∀ character ∈ "::".toList, isAddressChar character = true :=
        List.all_eq_true.mp rfl
      rw [List.mem_append, List.mem_append] at member
      rcases member with front | between | back
      · exact isAddressChar_of_mem_joinGroups front
      · exact colons character between
      · exact isAddressChar_of_mem_joinGroups back
  | full => exact isAddressChar_of_mem_joinGroups member

end Ipv6

theorem IpAddress.isAddressChar_of_mem {address : IpAddress} {character : Char}
    (member : character ∈ address.chars) : isAddressChar character = true := by
  cases address with
  | v4 => exact Ipv4.isAddressChar_of_mem member
  | v6 address => exact address.form_chars.isAddressChar_of_mem member

/-! ## Either family -/

/-- An address is read back, whatever its family. -/
theorem IpAddress.parseChars?_chars (address : IpAddress) :
    parseChars? address.chars = some address := by
  cases address with
  | v4 address =>
      simp only [chars, parseChars?, address.read_whole]
      rfl
  | v6 address =>
      have found := address.form_chars.read_append Ipv6.ends_nil
      rw [List.append_nil] at found
      simp only [chars, parseChars?, address.form_chars.read_ipv4, found]
      rfl

/-! ## Endpoints -/

theorem readPort_decimal (port : UInt16) :
    readPort (':' :: decimal port.toNat) = some (port, []) := by
  have found := sound_portRule.read_toDigits port.toNat_lt (stops_nil 10)
  rw [List.append_nil] at found
  change portRule.read (decimal port.toNat) = _ at found
  simp only [readPort, expect_cons, Option.bind_some, found, Option.bind_eq_bind,
    UInt16.ofNat_toNat]
  rfl

namespace Endpoint4

theorem read_address (endpoint : Endpoint4) :
    Ipv4.read endpoint.chars =
      some (endpoint.address, ':' :: decimal endpoint.port.toNat) := by
  apply Ipv4.read_chars
  rintro character ⟨⟩
  decide

/-- An endpoint is read back as a whole. -/
theorem read_chars (endpoint : Endpoint4) : read endpoint.chars = some (endpoint, []) := by
  simp only [read, endpoint.read_address, Option.bind_eq_bind, Option.bind_some,
    readPort_decimal]
  rfl

end Endpoint4

namespace Endpoint6

theorem ends_close (rest : List Char) : Ipv6.Ends (']' :: rest) where
  breaks := Ipv6.breaks_cons (by decide) (by decide) _
  unlinked := nofun

theorem ends_scopeChars (endpoint : Endpoint6) (rest : List Char) :
    Ipv6.Ends (endpoint.scopeChars ++ ']' :: rest) := by
  rw [scopeChars]
  split
  · exact ends_close rest
  · exact ⟨Ipv6.breaks_cons (by decide) (by decide) _, nofun⟩

/-- A scope is read back, and so is its absence. -/
theorem readScope_scopeChars (endpoint : Endpoint6) (rest : List Char) :
    readScope (endpoint.scopeChars ++ ']' :: rest) = (endpoint.scope, ']' :: rest) := by
  rw [scopeChars]
  split
  next unscoped =>
    rw [unscoped]
    rfl
  next =>
    have found := sound_scopeRule.read_toDigits endpoint.scope.toNat_lt
      (ends_close rest).breaks.decimal
    change scopeRule.read (decimal endpoint.scope.toNat ++ ']' :: rest) = _ at found
    simp only [readScope, List.cons_append, expect_cons, Option.bind_some, found,
      UInt32.ofNat_toNat]

/-- An endpoint is read back as a whole. -/
theorem read_chars (endpoint : Endpoint6) : read endpoint.chars = some (endpoint, []) := by
  simp only [read, chars, List.append_assoc, List.cons_append, expect_cons,
    Option.bind_eq_bind, Option.bind_some,
    endpoint.address.form_chars.read_append (ends_scopeChars endpoint _), readScope_scopeChars,
    readPort_decimal]
  rfl

theorem breaks_chars (endpoint : Endpoint6) : Ipv6.Breaks endpoint.chars :=
  Ipv6.breaks_cons (by decide) (by decide) _

end Endpoint6

namespace Endpoint

/-- An endpoint is read back, whatever its family. -/
theorem parseChars?_chars (endpoint : Endpoint) : parseChars? endpoint.chars = some endpoint := by
  cases endpoint with
  | v4 endpoint =>
      simp only [chars, parseChars?, endpoint.read_chars]
      rfl
  | v6 endpoint =>
      have undotted : Endpoint4.read endpoint.chars = none := by
        rw [Endpoint4.read, Ipv6.read_ipv4_of_breaks endpoint.breaks_chars]
        rfl
      simp only [chars, parseChars?, undotted, endpoint.read_chars]
      rfl

end Endpoint

/-! ## Addresses and endpoints -/

theorem Endpoint4.read_eq_some {text rest : List Char} {endpoint : Endpoint4}
    (found : read text = some (endpoint, rest)) :
    ∃ later, Ipv4.read text = some (endpoint.address, later) ∧ later ≠ [] := by
  rw [read] at found
  cases known : Ipv4.read text with
  | none =>
      rw [known] at found
      cases found
  | some pair =>
      rcases pair with ⟨address, later⟩
      rw [known, Option.bind_eq_bind, Option.bind_some, Option.bind_eq_bind,
        Option.bind_eq_some_iff] at found
      rcases found with ⟨port, read, same⟩
      cases same
      refine ⟨later, rfl, ?_⟩
      rintro rfl
      cases read

theorem Endpoint6.read_eq_some {text rest : List Char} {endpoint : Endpoint6}
    (found : read text = some (endpoint, rest)) : ∃ later, text = '[' :: later := by
  rw [read, Option.bind_eq_bind, Option.bind_eq_some_iff] at found
  rcases found with ⟨later, bracket, -⟩
  cases text with
  | nil => cases bracket
  | cons first text =>
      rw [expect, Option.ite_none_right_eq_some] at bracket
      exact ⟨text, congrArg (· :: text) bracket.1⟩

/-- No text is both an endpoint and an address: what follows an IPv4 address keeps a text from
being one, and no address begins with a bracket. -/
theorem Endpoint.address_parseChars?_eq_none {text : List Char} {endpoint : Endpoint}
    (written : parseChars? text = some endpoint) : IpAddress.parseChars? text = none := by
  rw [parseChars?] at written
  split at written
  next found =>
    rcases Endpoint4.read_eq_some found with ⟨later, read, some⟩
    simp only [IpAddress.parseChars?, read, List.isEmpty_iff, if_neg some]
  next =>
    split at written
    next found =>
      rcases Endpoint6.read_eq_some found with ⟨later, rfl⟩
      have breaks : Ipv6.Breaks ('[' :: later) := Ipv6.breaks_cons (by decide) (by decide) _
      simp only [IpAddress.parseChars?, Ipv6.read_ipv4_of_breaks breaks,
        Ipv6.read_of_breaks breaks rfl]
    next => cases written

theorem IpAddress.endpoint_parseChars?_eq_none {text : List Char} {address : IpAddress}
    (written : parseChars? text = some address) : Endpoint.parseChars? text = none := by
  cases taken : Endpoint.parseChars? text with
  | none => rfl
  | some endpoint =>
      rw [Endpoint.address_parseChars?_eq_none taken] at written
      cases written

end PortMapping
