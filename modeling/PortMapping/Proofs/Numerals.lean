import Mathlib.Algebra.Group.Nat.Defs
import Mathlib.Data.List.Forall2
import PortMapping.Text.Numeral

/-!
# Numerals read back

A number that is written in digits is read back wherever a text goes on with something that is no
digit, at each place whose rule admits it.  Written numbers are never padded, so a rule that
forbids padding costs nothing, and a limit on the digits is a limit on the number.
-/

namespace PortMapping.Text

/-! ## Digits -/

theorem hexValue?_digitChar {digit : Nat} (small : digit < 16) :
    hexValue? (Nat.digitChar digit) = some digit := by
  have every : ∀ digit : Fin 16, hexValue? (Nat.digitChar digit) = some digit.val := by decide
  exact every ⟨digit, small⟩

theorem digitValue?_digitChar {base digit : Nat} (digits : base ≤ 16) (below : digit < base) :
    digitValue? base (Nat.digitChar digit) = some digit := by
  rw [digitValue?, hexValue?_digitChar (Nat.lt_of_lt_of_le below digits)]
  exact Option.filter_some_pos (decide_eq_true below)

/-- A digit of a base is one of every greater base. -/
theorem digitValue?_eq_none_of_le {base greater : Nat} (le : base ≤ greater) {character : Char}
    (other : digitValue? greater character = none) : digitValue? base character = none := by
  rw [digitValue?, Option.filter_eq_none_iff] at other ⊢
  intro value known below
  exact other value known (decide_eq_true (Nat.lt_of_lt_of_le (of_decide_eq_true below) le))

/-- The values of the digits in a text. -/
def Writes (base : Nat) (digits : List Nat) (text : List Char) : Prop :=
  List.Forall₂ (fun digit character => digitValue? base character = some digit) digits text

/-- Nothing at the front of a text could belong to a numeral before it. -/
def Stops (base : Nat) (text : List Char) : Prop :=
  ∀ character ∈ text.head?, digitValue? base character = none

theorem stops_nil (base : Nat) : Stops base [] := nofun

/-- The digits of a number have its value and, unless it is zero, do not begin with a zero. -/
theorem exists_digits {base : Nat} (two : 1 < base) (sixteen : base ≤ 16) (number : Nat) :
    ∃ digits, Writes base digits (Nat.toDigits base number) ∧ ofDigits base digits = number ∧
      (number ≠ 0 → digits.head? ≠ some 0) := by
  induction number using Nat.strongRecOn with
  | ind number ih =>
      by_cases below : number < base
      · refine ⟨[number], ?_, ?_, ?_⟩
        · rw [Nat.toDigits_of_lt_base below]
          exact .cons (digitValue?_digitChar sixteen below) .nil
        · simp [ofDigits]
        · simp
      · have large : base ≤ number := Nat.le_of_not_lt below
        have smaller : number / base < number := Nat.div_lt_self (by omega) two
        have last : number % base < base := Nat.mod_lt _ (by omega)
        have some : number / base ≠ 0 := Nat.ne_of_gt (Nat.div_pos large (by omega))
        rcases ih _ smaller with ⟨digits, writes, value, unpadded⟩
        refine ⟨digits ++ [number % base], ?_, ?_, ?_⟩
        · rw [Nat.toDigits_of_base_le two large]
          exact List.rel_append writes (.cons (digitValue?_digitChar sixteen last) .nil)
        · rw [ofDigits, List.foldl_append, ← ofDigits, value]
          exact Nat.div_add_mod' number base
        · intro _
          cases digits with
          | nil => exact absurd value.symm some
          | cons first rest => exact unpadded some

/-- The characters of a written number are digits. -/
theorem exists_digit_of_mem {base : Nat} (two : 1 < base) (sixteen : base ≤ 16) {number : Nat}
    {character : Char} (member : character ∈ Nat.toDigits base number) :
    ∃ digit, digitValue? base character = some digit := by
  rcases exists_digits two sixteen number with ⟨digits, writes, -⟩
  generalize Nat.toDigits base number = text at member writes
  induction writes with
  | nil => cases member
  | cons digit _ ih =>
      rcases List.mem_cons.mp member with rfl | later
      · exact ⟨_, digit⟩
      · exact ih later

/-! ## Reading -/

variable {base : Nat} {digits : List Nat} {text rest : List Char}

theorem leadingDigits_of_stops (stops : Stops base text) :
    leadingDigits base text = ([], text) := by
  cases text with
  | nil => rfl
  | cons first rest => rw [leadingDigits, stops first rfl]

/-- All digits before something else are read. -/
theorem Writes.leadingDigits_append (writes : Writes base digits text) (stops : Stops base rest) :
    leadingDigits base (text ++ rest) = (digits, rest) := by
  induction writes with
  | nil => exact leadingDigits_of_stops stops
  | cons digit _ ih => rw [List.cons_append, leadingDigits, digit, ih]

theorem expect_cons (expected : Char) (rest : List Char) :
    expect expected (expected :: rest) = some rest :=
  if_pos rfl

namespace NumeralRule

variable (rule : NumeralRule)

/-- A rule for numbers in a base that can be written, with a limit on digits or without one. -/
structure Sound : Prop where
  two : 1 < rule.base
  sixteen : rule.base ≤ 16
  longest : ∀ longest ∈ rule.longest, 0 < longest ∧ rule.bound ≤ rule.base ^ longest

/-- A numeral needs a digit. -/
theorem read_of_stops (stops : Stops rule.base text) : rule.read text = none := by
  rw [read, leadingDigits_of_stops stops]
  simp [admits]

variable {rule}

/-- A number that fits is read back. -/
theorem Sound.read_toDigits (sound : rule.Sound) {number : Nat} (fits : number < rule.bound)
    (stops : Stops rule.base rest) :
    rule.read (Nat.toDigits rule.base number ++ rest) = some (number, rest) := by
  rcases exists_digits sound.two sound.sixteen number with ⟨digits, writes, value, unpadded⟩
  have length : digits.length = (Nat.toDigits rule.base number).length := writes.length_eq
  have nonempty : digits.isEmpty = false := by
    rw [← Bool.not_eq_true, List.isEmpty_iff_length_eq_zero, length]
    exact Nat.ne_of_gt Nat.length_toDigits_pos
  have short : ∀ longest ∈ rule.longest, digits.length ≤ longest := by
    intro longest limit
    rcases sound.longest longest limit with ⟨positive, bound⟩
    rw [length, Nat.length_toDigits_le_iff sound.two positive]
    exact Nat.lt_of_lt_of_le fits bound
  have leading :
      (rule.paddable || decide (digits.length ≤ 1) || digits.head? != some 0) = true := by
    by_cases zero : number = 0
    · have single : digits.length ≤ 1 := by
        rw [length, zero, Nat.toDigits_zero]
        exact Nat.le_refl 1
      simp [single]
    · simp [unpadded zero]
  have admitted : rule.admits digits = true := by
    rw [admits, nonempty, value, leading]
    cases limit : rule.longest with
    | none => simp [fits]
    | some longest => simp [fits, short longest limit]
  rw [read, writes.leadingDigits_append stops]
  simp only [admitted, if_true, value]

end NumeralRule

end PortMapping.Text
