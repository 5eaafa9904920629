import PortMapping.Configuration.Validation
import PortMapping.Proofs.AddressReading

/-!
# Listen addresses read back

A listen address is an endpoint or an address alone, and blanks around it do not matter.  Written
addresses hold no blanks, so only what surrounds them is cut off, and what is left is read back
as what was written, with the server's port where there was none.
-/

namespace PortMapping

open Text

/-! ## Blanks around a text -/

theorem Text.trimChars_of_visible {before text after : List Char}
    (blankBefore : ∀ character ∈ before, isBlank character = true)
    (visible : ∀ character ∈ text, isBlank character = false)
    (blankAfter : ∀ character ∈ after, isBlank character = true) :
    trimChars (before ++ text ++ after) = text := by
  have blankReverse : ∀ character ∈ after.reverse, isBlank character = true :=
    fun character member => blankAfter character (List.mem_reverse.mp member)
  have kept : ∀ kept : List Char, (∀ character ∈ kept, isBlank character = false) →
      kept.dropWhile isBlank = kept := by
    intro kept shown
    cases kept with
    | nil => rfl
    | cons first rest =>
        exact List.dropWhile_cons_of_neg (Bool.eq_false_iff.mp (shown first List.mem_cons_self))
  cases text with
  | nil =>
      have blanks : (before ++ [] ++ after).dropWhile isBlank = [] := by
        rw [List.append_nil, List.dropWhile_append_of_pos blankBefore]
        exact List.dropWhile_eq_nil_iff.mpr blankAfter
      rw [trimChars, blanks]
      rfl
  | cons first rest =>
      have start : (before ++ (first :: rest) ++ after).dropWhile isBlank =
          first :: rest ++ after := by
        rw [List.append_assoc, List.dropWhile_append_of_pos blankBefore]
        exact List.dropWhile_cons_of_neg (Bool.eq_false_iff.mp (visible first List.mem_cons_self))
      rw [trimChars, start, List.reverse_append, List.dropWhile_append_of_pos blankReverse, kept,
        List.reverse_reverse]
      intro character member
      exact visible character (List.mem_reverse.mp member)

/-! ## No blanks in addresses -/

/-- Between two visible ASCII characters no character is blank. -/
theorem Text.isBlank_of_between {first last character : Char}
    (between : first ≤ character ∧ character ≤ last) (visible : 0x20 < first.toNat)
    (ascii : last.toNat < 0x7f) : isBlank character = false := by
  have above : first.toNat ≤ character.toNat := between.1
  have below : character.toNat ≤ last.toNat := between.2
  simp only [isBlank, Bool.or_eq_false_iff, Bool.and_eq_false_iff, decide_eq_false_iff_not,
    beq_eq_false_iff_ne]
  omega

theorem Text.isBlank_of_hexValue? {character : Char} {value : Nat}
    (digit : hexValue? character = some value) : isBlank character = false := by
  rw [hexValue?] at digit
  split at digit
  next decimal => exact isBlank_of_between decimal (by decide) (by decide)
  split at digit
  next lower => exact isBlank_of_between lower (by decide) (by decide)
  split at digit
  next upper => exact isBlank_of_between upper (by decide) (by decide)
  next => cases digit

theorem isBlank_of_isAddressChar {character : Char} (standing : isAddressChar character = true) :
    isBlank character = false := by
  rw [isAddressChar, Bool.or_eq_true, Bool.or_eq_true, decide_eq_true_eq, decide_eq_true_eq,
    Option.isSome_iff_exists] at standing
  rcases standing with (⟨value, digit⟩ | rfl) | rfl
  · rw [digitValue?, Option.filter_eq_some_iff] at digit
    exact isBlank_of_hexValue? digit.1
  · rfl
  · rfl

theorem Endpoint.isBlank_of_mem {endpoint : Endpoint} {character : Char}
    (member : character ∈ endpoint.chars) : isBlank character = false := by
  have digits : ∀ number, character ∈ decimal number → isBlank character = false :=
    fun _ digit => isBlank_of_isAddressChar
      (isAddressChar_of_mem_toDigits (by decide) (by decide) digit)
  cases endpoint with
  | v4 endpoint =>
      rw [chars, Endpoint4.chars, List.mem_append, List.mem_cons] at member
      rcases member with address | rfl | port
      · exact isBlank_of_isAddressChar (Ipv4.isAddressChar_of_mem address)
      · rfl
      · exact digits _ port
  | v6 endpoint =>
      simp only [chars, Endpoint6.chars, List.mem_append, List.mem_cons] at member
      rcases member with ((rfl | address) | scope) | rfl | rfl | port
      · rfl
      · exact isBlank_of_isAddressChar (endpoint.address.form_chars.isAddressChar_of_mem address)
      · rw [Endpoint6.scopeChars] at scope
        split at scope
        · cases scope
        · rcases List.mem_cons.mp scope with rfl | digit
          · rfl
          · exact digits _ digit
      · rfl
      · rfl
      · exact digits _ port

/-! ## Listen addresses -/

theorem parseListenAddress_eq_ok_iff {text : String} {endpoint : Endpoint} :
    parseListenAddress text = .ok endpoint ↔
      listenEndpoint? (trimChars text.toList) = some endpoint := by
  unfold parseListenAddress
  dsimp only
  cases listenEndpoint? (trimChars text.toList) with
  | none => simp
  | some found => simp

theorem Endpoint.port_ofAddress (address : IpAddress) (port : UInt16) :
    (ofAddress address port).port = port := by
  cases address <;> rfl

theorem Endpoint.withPort_ofAddress (address : IpAddress) (port other : UInt16) :
    (ofAddress address port).withPort other = ofAddress address other := by
  cases address <;> rfl

theorem listenEndpoint?_of_endpoint {text : List Char} {endpoint : Endpoint}
    (written : Endpoint.parseChars? text = some endpoint) :
    listenEndpoint? text =
      some (if endpoint.port = 0 then endpoint.withPort serverPort else endpoint) := by
  rw [listenEndpoint?, written]
  rfl

theorem listenEndpoint?_of_address {text : List Char} {address : IpAddress}
    (written : IpAddress.parseChars? text = some address) :
    listenEndpoint? text = some (Endpoint.ofAddress address serverPort) := by
  rw [listenEndpoint?, IpAddress.endpoint_parseChars?_eq_none written, written]
  simp only [Option.map_some, Endpoint.port_ofAddress, if_true, Endpoint.withPort_ofAddress]

section

variable {before after : String}
variable (blankBefore : ∀ character ∈ before.toList, isBlank character = true)
variable (blankAfter : ∀ character ∈ after.toList, isBlank character = true)

include blankBefore blankAfter

theorem parseListenAddress_surrounded {text : List Char} {endpoint : Endpoint}
    (visible : ∀ character ∈ text, isBlank character = false)
    (named : listenEndpoint? text = some endpoint) :
    parseListenAddress (before ++ String.ofList text ++ after) = .ok endpoint := by
  rw [parseListenAddress_eq_ok_iff, String.toList_append, String.toList_append,
    String.toList_ofList, trimChars_of_visible blankBefore visible blankAfter]
  exact named

/-- Between blanks, a written endpoint is read back as it was, at port 5351 if its port was zero,
and a written address is read back at port 5351.  Neither is taken for the other, and no text at
all is both an endpoint and an address. -/
theorem listenAddresses_read_back :
    (∀ endpoint : Endpoint,
      parseListenAddress (before ++ endpoint.text ++ after) =
        .ok (if endpoint.port = 0 then endpoint.withPort 5351 else endpoint)) ∧
    (∀ address : IpAddress,
      parseListenAddress (before ++ address.text ++ after) =
        .ok (Endpoint.ofAddress address 5351)) ∧
    (∀ endpoint : Endpoint,
      Endpoint.parse? endpoint.text = some endpoint ∧ IpAddress.parse? endpoint.text = none) ∧
    (∀ address : IpAddress,
      IpAddress.parse? address.text = some address ∧ Endpoint.parse? address.text = none) ∧
    ∀ text endpoint, Endpoint.parse? text = some endpoint → IpAddress.parse? text = none := by
  refine ⟨?_, ?_, ?_, ?_, ?_⟩
  · intro endpoint
    exact parseListenAddress_surrounded blankBefore blankAfter
      (fun _ => Endpoint.isBlank_of_mem) (listenEndpoint?_of_endpoint endpoint.parseChars?_chars)
  · intro address
    exact parseListenAddress_surrounded blankBefore blankAfter
      (fun _ member => isBlank_of_isAddressChar (IpAddress.isAddressChar_of_mem member))
      (listenEndpoint?_of_address address.parseChars?_chars)
  · intro endpoint
    rw [Endpoint.parse?, IpAddress.parse?, Endpoint.text, String.toList_ofList]
    exact ⟨endpoint.parseChars?_chars,
      Endpoint.address_parseChars?_eq_none endpoint.parseChars?_chars⟩
  · intro address
    rw [IpAddress.parse?, Endpoint.parse?, IpAddress.text, String.toList_ofList]
    exact ⟨address.parseChars?_chars,
      IpAddress.endpoint_parseChars?_eq_none address.parseChars?_chars⟩
  · intro text endpoint written
    exact Endpoint.address_parseChars?_eq_none written

end

/-- An endpoint with a scope and without a port, and a mapped address, each between a no-break
space with a tab and a line end. -/
theorem listenAddresses_read_back_between_blanks :
    parseListenAddress ("\u00a0\t" ++ "[2001:db8::1%3]:0" ++ "\r\n") =
      .ok (.v6 ⟨⟨[0x2001, 0xdb8, 0, 0, 0, 0, 0, 1], rfl⟩, 3, 5351⟩) ∧
    parseListenAddress ("\u00a0\t" ++ "::ffff:192.0.2.1" ++ "\r\n") =
      .ok (.v6 ⟨⟨[0, 0, 0, 0, 0, 0xffff, 0xc000, 0x201], rfl⟩, 0, 5351⟩) := by
  have blankBefore : ∀ character ∈ "\u00a0\t".toList, isBlank character = true :=
    List.all_eq_true.mp rfl
  have blankAfter : ∀ character ∈ "\r\n".toList, isBlank character = true :=
    List.all_eq_true.mp rfl
  have read := listenAddresses_read_back blankBefore blankAfter
  exact ⟨read.1 (.v6 ⟨⟨[0x2001, 0xdb8, 0, 0, 0, 0, 0, 1], rfl⟩, 3, 0⟩),
    read.2.1 (.v6 ⟨[0, 0, 0, 0, 0, 0xffff, 0xc000, 0x201], rfl⟩)⟩

end PortMapping
