import PortMapping.Octets

/-!
# Decoding UTF-8

Interface names and configuration files must be well-formed UTF-8, while a
program's error output may hold anything and has each ill-formed stretch
replaced.  Both readings share one step: the character at the front of an octet
string, or the length of the ill-formed stretch there.  A stretch is the longest
beginning of a well-formed sequence, or one octet where there is none.
-/

namespace PortMapping.Text

/-- What stands at the front of a nonempty octet string. -/
inductive Utf8Step where
  /-- A character occupying so many octets. -/
  | character (value : Char) (width : Nat)
  /-- An ill-formed stretch of so many octets. -/
  | malformed (width : Nat)

/-- Whether an octet continues a multi-octet character. -/
def isContinuation (octet : UInt8) : Bool := 0x80 ≤ octet && octet ≤ 0xbf

/-- Octets admitted directly after a lead octet: overlong forms, surrogates and
numbers past the last code point are excluded here. -/
def isSecond (lead octet : UInt8) : Bool :=
  if lead = 0xe0 then 0xa0 ≤ octet && octet ≤ 0xbf
  else if lead = 0xed then 0x80 ≤ octet && octet ≤ 0x9f
  else if lead = 0xf0 then 0x90 ≤ octet && octet ≤ 0xbf
  else if lead = 0xf4 then 0x80 ≤ octet && octet ≤ 0x8f
  else isContinuation octet

/-- The six low bits of a continuation octet. -/
def continuationBits (octet : UInt8) : Nat := octet.toNat % 64

/-- Decode the front of an octet string that begins with `lead`. -/
def utf8Step (lead : UInt8) (rest : Octets) : Utf8Step :=
  if lead < 0x80 then .character (Char.ofNat lead.toNat) 1
  else if lead < 0xc2 || lead > 0xf4 then .malformed 1
  else if lead < 0xe0 then
    match rest with
    | second :: _ =>
        if isContinuation second then
          .character (Char.ofNat (lead.toNat % 32 * 64 + continuationBits second)) 2
        else .malformed 1
    | [] => .malformed 1
  else if lead < 0xf0 then
    match rest with
    | second :: third :: _ =>
        if isSecond lead second then
          if isContinuation third then
            .character (Char.ofNat
              ((lead.toNat % 16 * 64 + continuationBits second) * 64 + continuationBits third)) 3
          else .malformed 2
        else .malformed 1
    | [second] => if isSecond lead second then .malformed 2 else .malformed 1
    | [] => .malformed 1
  else
    match rest with
    | second :: third :: fourth :: _ =>
        if isSecond lead second then
          if isContinuation third then
            if isContinuation fourth then
              .character (Char.ofNat
                (((lead.toNat % 8 * 64 + continuationBits second) * 64
                  + continuationBits third) * 64 + continuationBits fourth)) 4
            else .malformed 3
          else .malformed 2
        else .malformed 1
    | [second, third] =>
        if isSecond lead second then
          if isContinuation third then .malformed 3 else .malformed 2
        else .malformed 1
    | [second] => if isSecond lead second then .malformed 2 else .malformed 1
    | [] => .malformed 1

/-- The characters of an octet string, if all of it is well-formed. -/
def utf8Chars? : Octets → Option (List Char)
  | [] => some []
  | lead :: rest =>
      match utf8Step lead rest with
      | .malformed _ => none
      | .character value width => (utf8Chars? (rest.drop (width - 1))).map (value :: ·)
termination_by octets => octets.length
decreasing_by simp only [List.length_drop, List.length_cons]; omega

/-- The text an octet string encodes, if all of it is well-formed. -/
def utf8? (octets : Octets) : Option String := (utf8Chars? octets).map String.ofList

/-- The characters of an octet string, each ill-formed stretch read as U+FFFD. -/
def utf8LossyChars : Octets → List Char
  | [] => []
  | lead :: rest =>
      match utf8Step lead rest with
      | .malformed width => '\ufffd' :: utf8LossyChars (rest.drop (width - 1))
      | .character value width => value :: utf8LossyChars (rest.drop (width - 1))
termination_by octets => octets.length
decreasing_by all_goals (simp only [List.length_drop, List.length_cons]; omega)

end PortMapping.Text
