/-!
# Numerals

Reading and writing natural numbers in addresses.  A place in a text says which
numerals it admits: the base, the longest run of digits, whether several digits
may begin with a zero, and the least number that is too large for it.
-/

namespace PortMapping.Text

/-- The value of a digit below sixteen, letters of either case. -/
def hexValue? (character : Char) : Option Nat :=
  if '0' ≤ character ∧ character ≤ '9' then some (character.toNat - '0'.toNat)
  else if 'a' ≤ character ∧ character ≤ 'f' then some (character.toNat - 'a'.toNat + 10)
  else if 'A' ≤ character ∧ character ≤ 'F' then some (character.toNat - 'A'.toNat + 10)
  else none

/-- The value of a digit in a base up to sixteen. -/
def digitValue? (base : Nat) (character : Char) : Option Nat :=
  (hexValue? character).filter (· < base)

/-- The digits at the front of a text, as values, and what follows them. -/
def leadingDigits (base : Nat) : List Char → List Nat × List Char
  | [] => ([], [])
  | character :: rest =>
      match digitValue? base character with
      | none => ([], character :: rest)
      | some value =>
          let following := leadingDigits base rest
          (value :: following.1, following.2)

/-- The number that a run of digits writes, most significant first. -/
def ofDigits (base : Nat) (digits : List Nat) : Nat :=
  digits.foldl (fun number digit => number * base + digit) 0

/-- Which numerals a place in a text admits. -/
structure NumeralRule where
  base : Nat
  /-- The longest run of digits, where there is a limit. -/
  longest : Option Nat
  /-- Whether a run of several digits may begin with a zero. -/
  paddable : Bool
  /-- The least number that does not fit. -/
  bound : Nat

namespace NumeralRule

/-- Whether a run of digits is an admitted numeral. -/
def admits (rule : NumeralRule) (digits : List Nat) : Bool :=
  !digits.isEmpty &&
    (match rule.longest with
      | none => true
      | some longest => digits.length ≤ longest) &&
    (rule.paddable || digits.length ≤ 1 || digits.head? != some 0) &&
    ofDigits rule.base digits < rule.bound

/-- Read a numeral at the front of a text.  All leading digits belong to it, so
a run that is too long is refused and never cut. -/
def read (rule : NumeralRule) (text : List Char) : Option (Nat × List Char) :=
  let run := leadingDigits rule.base text
  if rule.admits run.1 then some (ofDigits rule.base run.1, run.2) else none

end NumeralRule

/-- The decimal digits of a number. -/
def decimal (number : Nat) : List Char := Nat.toDigits 10 number

/-- The hexadecimal digits of a number, in lower case. -/
def hexadecimal (number : Nat) : List Char := Nat.toDigits 16 number

/-- What follows an expected character at the front of a text. -/
def expect (expected : Char) : List Char → Option (List Char)
  | [] => none
  | character :: rest => if character = expected then some rest else none

end PortMapping.Text
