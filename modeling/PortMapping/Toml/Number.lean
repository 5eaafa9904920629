import PortMapping.Toml.Refusal
import PortMapping.Toml.Text

/-!
# Numbers and dates of TOML documents

No setting of the gateway is a number or a date, so their values are not kept;
but a malformed one makes the whole document malformed, and one out of range
does too.  Digits alone show an integer; an underscore after them promises another
digit, a point or the letter of an exponent a floating-point number, a dash after
four of them a date, and a colon after two a time.
-/

namespace PortMapping.Toml

/-- The scalars whose values no setting needs. -/
inductive PlainScalar where
  | integer
  | float
  | boolean
  | date
  deriving DecidableEq, Repr

/-! ## Digits -/

/-- Digits of a base at the front of a text, single underscores between them. -/
def moreDigits (base : Nat) : List Char → Except Refusal (List Nat × List Char)
  | [] => .ok ([], [])
  | ['_'] => .error .malformed
  | '_' :: character :: rest =>
      match Text.digitValue? base character with
      | none => .error .malformed
      | some value =>
          (moreDigits base rest).map fun following => (value :: following.1, following.2)
  | character :: rest =>
      match Text.digitValue? base character with
      | none => .ok ([], character :: rest)
      | some value =>
          (moreDigits base rest).map fun following => (value :: following.1, following.2)

/-- At least one digit of a base, single underscores between digits. -/
def digits (base : Nat) : Attempt (List Nat)
  | [] => .ok none
  | character :: rest =>
      match Text.digitValue? base character with
      | none => .ok none
      | some value =>
          (moreDigits base rest).map fun following => some (value :: following.1, following.2)

/-- Digits of a base where nothing else may stand. -/
def promisedDigits (base : Nat) (text : List Char) : Except Refusal (List Nat × List Char) :=
  (digits base text).bind required

/-- Whether a sign at the front of a text is negative, and what follows it. -/
def skipSign : List Char → Bool × List Char
  | '-' :: rest => (true, rest)
  | '+' :: rest => (false, rest)
  | text => (false, text)

/-- Decimal digits without padding: a zero stands alone. -/
def wholePart : Attempt (List Nat)
  | '0' :: rest => .ok (some ([0], rest))
  | text => digits 10 text

/-! ## Integers -/

/-- The least number too large for an integer; its negation is the least integer. -/
def integerBound : Nat := 9223372036854775808

/-- An integer in a base other than ten, below the bound. -/
def basedInteger (base : Nat) : Attempt PlainScalar := fun text => do
  let (digits, rest) ← promisedDigits base text
  if Text.ofDigits base digits < integerBound then return some (.integer, rest)
  else throw .malformed

/-- An integer in any notation. -/
def integer : Attempt PlainScalar
  | '0' :: 'x' :: rest => basedInteger 16 rest
  | '0' :: 'o' :: rest => basedInteger 8 rest
  | '0' :: 'b' :: rest => basedInteger 2 rest
  | text => do
      let (negative, rest) := skipSign text
      match ← wholePart rest with
      | none => return none
      | some (digits, rest) =>
          let bound := if negative then integerBound + 1 else integerBound
          if Text.ofDigits 10 digits < bound then return some (.integer, rest)
          else throw .malformed

/-! ## Floating-point numbers -/

/-- The least number that rounds to infinity in double precision: half a unit
past the largest finite one. -/
def floatBound : Nat := Nat.pow 2 1024 - Nat.pow 2 970

/-- Whether a decimal number, its digits read as a whole and scaled by a power of
ten, rounds to infinity.  The power is only computed near the bound. -/
def overflows (digits : List Nat) (exponent : Int) : Bool :=
  let significant := digits.dropWhile (· = 0)
  let magnitude : Int := significant.length + exponent
  if significant.isEmpty || magnitude < 300 then false
  else if 310 < magnitude then true
  else
    let whole := Text.ofDigits 10 significant
    if 0 ≤ exponent then floatBound ≤ whole * Nat.pow 10 exponent.toNat
    else floatBound * Nat.pow 10 (-exponent).toNat ≤ whole

/-- An exponent after a number. -/
def exponent : Attempt Int
  | [] => return none
  | character :: text => do
      if character = 'e' ∨ character = 'E' then
        let (negative, rest) := skipSign text
        let (digits, rest) ← promisedDigits 10 rest
        let size : Int := Text.ofDigits 10 digits
        return some (if negative then -size else size, rest)
      else return none

/-- Decimal places after a number. -/
def places : Attempt (List Nat)
  | '.' :: rest => (promisedDigits 10 rest).map some
  | _ => .ok none

/-- What follows the whole part of a floating-point number: decimal places, of
which there may be none, and an exponent, zero if there is none.  One of the two
has to be there. -/
def fraction : Attempt (List Nat × Int) := fun text => do
  match ← exponent text with
  | some (exponent, rest) => return some (([], exponent), rest)
  | none =>
      match ← places text with
      | none => return none
      | some (places, rest) =>
          match ← exponent rest with
          | some (exponent, rest) => return some ((places, exponent), rest)
          | none => return some ((places, 0), rest)

/-- A number with an exponent, decimal places or both.  A positive number that
rounds to infinity is refused. -/
def decimalFloat : Attempt PlainScalar := fun text => do
  let (negative, rest) := skipSign text
  match ← wholePart rest with
  | none => return none
  | some (whole, rest) =>
      match ← fraction rest with
      | none => return none
      | some ((places, exponent), rest) =>
          if !negative && overflows (whole ++ places) (exponent - places.length) then
            throw .malformed
          else return some (.float, rest)

/-- Infinity or not-a-number, with or without a sign. -/
def specialFloat? : Reader PlainScalar := fun text =>
  match (skipSign text).2 with
  | 'i' :: 'n' :: 'f' :: rest => some (.float, rest)
  | 'n' :: 'a' :: 'n' :: rest => some (.float, rest)
  | _ => none

/-! ## Dates and times -/

/-- A number of exactly `count` decimal digits within bounds. -/
def field? (count low high : Nat) (text : List Char) : Option (Nat × List Char) :=
  let digits := (text.take count).filterMap (Text.digitValue? 10)
  let value := Text.ofDigits 10 digits
  if digits.length = count ∧ low ≤ value ∧ value ≤ high then some (value, text.drop count)
  else none

/-- Whether a year has a leap day. -/
def isLeapYear (year : Nat) : Bool := year % 4 = 0 && (year % 100 ≠ 0 || year % 400 = 0)

/-- The number of days in a month. -/
def daysInMonth (year month : Nat) : Nat :=
  if month = 2 then if isLeapYear year then 29 else 28
  else if month = 4 ∨ month = 6 ∨ month = 9 ∨ month = 11 then 30
  else 31

/-- What follows a calendar date. -/
def skipDate (text : List Char) : Except Refusal (Option (List Char)) := do
  match field? 4 0 9999 text with
  | some (year, '-' :: rest) =>
      let (month, rest) ← required (field? 2 1 12 rest)
      let rest ← required (Text.expect '-' rest)
      let (_, rest) ← required (field? 2 1 (daysInMonth year month) rest)
      return some rest
  | _ => return none

/-- What follows the decimal places of seconds. -/
def skipSecondPlaces (text : List Char) : List Char :=
  let isDigit (character : Char) : Bool := (Text.digitValue? 10 character).isSome
  match text with
  | '.' :: place :: rest => if isDigit place then rest.dropWhile isDigit else text
  | _ => text

/-- What follows a clock time; seconds may have decimal places. -/
def skipTime (text : List Char) : Except Refusal (Option (List Char)) := do
  match field? 2 0 23 text with
  | some (_, ':' :: rest) =>
      let (_, rest) ← required (field? 2 0 59 rest)
      let rest ← required (Text.expect ':' rest)
      let (_, rest) ← required (field? 2 0 60 rest)
      return some (skipSecondPlaces rest)
  | _ => return none

/-- What follows a distance from universal time, which may be left out. -/
def skipOffset (text : List Char) : Except Refusal (List Char) := do
  match text with
  | [] => return text
  | character :: rest =>
      if character = 'Z' ∨ character = 'z' then return rest
      else if character = '+' ∨ character = '-' then
        let (_, rest) ← required (field? 2 0 23 rest)
        let rest ← required (Text.expect ':' rest)
        let (_, rest) ← required (field? 2 0 59 rest)
        return rest
      else return text

/-- Whether a character may stand between a date and a time. -/
def isTimeDelimiter (character : Char) : Bool :=
  character = 'T' || character = 't' || character = ' '

/-- What follows a time after a date, with or without an offset, which may be left
out. -/
def skipTimeOfDay (text : List Char) : Except Refusal (List Char) := do
  match text with
  | [] => return text
  | character :: rest =>
      if isTimeDelimiter character then
        match ← skipTime rest with
        | some rest => skipOffset rest
        | none => return text
      else return text

/-- A date, a time, or both. -/
def date : Attempt PlainScalar := fun text => do
  match ← skipDate text with
  | some rest => return some (.date, ← skipTimeOfDay rest)
  | none => return (← skipTime text).map fun rest => (.date, rest)

/-! ## All of them -/

/-- A truth value. -/
def boolean? : Reader PlainScalar
  | 't' :: 'r' :: 'u' :: 'e' :: rest => some (.boolean, rest)
  | 'f' :: 'a' :: 'l' :: 's' :: 'e' :: rest => some (.boolean, rest)
  | _ => none

/-- Any scalar that is not a string. -/
def plainScalar : Attempt PlainScalar :=
  firstOf
    [fun text => .ok (boolean? text), date, decimalFloat, fun text => .ok (specialFloat? text),
      integer]

end PortMapping.Toml
