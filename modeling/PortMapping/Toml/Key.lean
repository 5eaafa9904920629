import PortMapping.Toml.Refusal
import PortMapping.Toml.Text

/-!
# Keys of TOML documents

A key has one or more parts with dots between them, and spaces around each.  A
part is a bare word or stands between quotes.
-/

namespace PortMapping.Toml

/-- The least depth of nesting, and the least number of parts of a key, that is
refused. -/
def nestingBound : Nat := 80

/-- Whether a character may stand in a key without quotes. -/
def isBareKeyChar (character : Char) : Bool :=
  character.isAlphanum || character = '_' || character = '-'

/-- One part of a key. -/
def simpleKey? (text : List Char) : Option (List Char × List Char) :=
  match text with
  | '"' :: rest => basicBody? rest
  | '\'' :: rest => literalBody? rest
  | _ =>
      let name := text.takeWhile isBareKeyChar
      if name.isEmpty then none else some (name, text.dropWhile isBareKeyChar)

/-- Whether a key begins after the spaces at the front of a text. -/
def beginsKey (text : List Char) : Bool :=
  match skipSpaces text with
  | [] => false
  | character :: _ => character = '"' || character = '\'' || isBareKeyChar character

/-- The parts of a key.  A dot that no part follows does not belong to it. -/
def keyParts? (text : List Char) : Option (List String × List Char) :=
  match simpleKey? (skipSpaces text) with
  | none => none
  | some (name, rest) =>
      match skipSpaces rest with
      | '.' :: after =>
          if beginsKey after then
            if _shorter : after.length < text.length then
              (keyParts? after).map fun found => (String.ofList name :: found.1, found.2)
            else none
          else some ([String.ofList name], '.' :: after)
      | rest => some ([String.ofList name], rest)
termination_by text.length

/-- A key of less than eighty parts. -/
def key? (text : List Char) : Option (List String × List Char) :=
  match keyParts? text with
  | some (parts, rest) => if parts.length < nestingBound then some (parts, rest) else none
  | none => none

/-- A part of a key as a document would write it on one line. -/
def keyText (name : String) : String :=
  if !name.isEmpty && name.all isBareKeyChar then name else Text.quoted name

end PortMapping.Toml
