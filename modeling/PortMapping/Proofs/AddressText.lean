import PortMapping.Address.Text
import Mathlib.Logic.Function.Basic

/-!
# Written addresses

An address is written in digits, dots and colons only, and no two addresses, ports or endpoints
are written alike: a text falls into its parts at the separators, which no part contains.
-/

namespace PortMapping

/-! ## Decimal numbers -/

namespace Text

theorem isDigit_of_mem_decimal {number : Nat} {character : Char}
    (member : character ∈ decimal number) : character.isDigit = true :=
  Nat.isDigit_of_mem_toDigits (by decide) (by decide) member

/-- What is no digit separates decimal numbers. -/
theorem not_mem_decimal {separator : Char} (separates : separator.isDigit = false)
    (number : Nat) : separator ∉ decimal number := by
  intro member
  rw [isDigit_of_mem_decimal member] at separates
  cases separates

theorem decimal_injective : Function.Injective decimal := by
  intro left right same
  have read := congrArg (fun digits => Nat.ofDigitChars 10 digits 0) same
  simpa only [decimal, Nat.ofDigitChars_ten_toDigits] using read

end Text

open Text

/-! ## Addresses -/

namespace Ipv4

/-- The four parts of a written address. -/
theorem splitOn_chars (address : Ipv4) :
    address.chars.splitOn '.' =
      [decimal address.first.toNat, decimal address.second.toNat,
        decimal address.third.toNat, decimal address.fourth.toNat] := by
  have plain : ∀ number, '.' ∉ decimal number := not_mem_decimal rfl
  rw [chars, List.splitOn_append_cons_self_of_not_mem (plain _),
    List.splitOn_append_cons_self_of_not_mem (plain _),
    List.splitOn_append_cons_self_of_not_mem (plain _), List.splitOn_eq_singleton (plain _)]

theorem chars_injective : Function.Injective chars := by
  intro left right same
  have parts := congrArg (List.splitOn '.') same
  simp only [splitOn_chars, List.cons.injEq, decimal_injective.eq_iff, UInt8.toNat_inj,
    and_true] at parts
  cases left
  cases right
  rw [Ipv4.mk.injEq]
  exact parts

theorem text_injective : Function.Injective text := by
  intro left right same
  exact chars_injective (String.ofList_injective same)

/-- An address has neither blanks nor colons in it. -/
theorem not_mem_chars {separator : Char} (separates : separator.isDigit = false)
    (other : separator ≠ '.') (address : Ipv4) : separator ∉ address.chars := by
  have plain : ∀ number, separator ∉ decimal number := not_mem_decimal separates
  simp [chars, plain, other]

end Ipv4

/-! ## Endpoints -/

namespace Endpoint4

/-- The address and the port of a written endpoint. -/
theorem splitOn_chars (endpoint : Endpoint4) :
    endpoint.chars.splitOn ':' = [endpoint.address.chars, decimal endpoint.port.toNat] := by
  have address : ':' ∉ endpoint.address.chars := Ipv4.not_mem_chars rfl (by decide) _
  rw [chars, List.splitOn_append_cons_self_of_not_mem address,
    List.splitOn_eq_singleton (not_mem_decimal rfl _)]

theorem chars_injective : Function.Injective chars := by
  intro left right same
  have parts := congrArg (List.splitOn ':') same
  simp only [splitOn_chars, List.cons.injEq, decimal_injective.eq_iff, UInt16.toNat_inj,
    and_true, Ipv4.chars_injective.eq_iff] at parts
  cases left
  cases right
  rw [Endpoint4.mk.injEq]
  exact parts

theorem text_injective : Function.Injective text := by
  intro left right same
  exact chars_injective (String.ofList_injective same)

theorem not_mem_chars {separator : Char} (separates : separator.isDigit = false)
    (dot : separator ≠ '.') (colon : separator ≠ ':') (endpoint : Endpoint4) :
    separator ∉ endpoint.chars := by
  simp [chars, Ipv4.not_mem_chars separates dot, not_mem_decimal separates, colon]

end Endpoint4

end PortMapping
