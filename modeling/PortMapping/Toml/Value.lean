import PortMapping.Toml.Key
import PortMapping.Toml.Node

/-!
# Values of TOML documents

Arrays may span lines, hold comments and end with a comma; tables in braces may
not.  Arrays and tables in braces nest less than eighty deep.
-/

namespace PortMapping.Toml

/-- A reader of the value at the front of a text. -/
abbrev ValueReader := List Char → Except Refusal (Node × List Char)

/-- A value that holds no other values. -/
def scalar (text : List Char) : Except Refusal (Node × List Char) := do
  match string? text with
  | some (found, rest) => return (.string (String.ofList found), rest)
  | none =>
      match text with
      | '"' :: _ => throw .malformed
      | '\'' :: _ => throw .malformed
      | _ =>
          let (found, rest) ← (plainScalar text).bind required
          return (.plain found, rest)

/-- The items of an array and its closing bracket. -/
def arrayItems (item : ValueReader) (text : List Char) :
    Except Refusal (List Node × List Char) := do
  let (node, rest) ← item text
  match ← required (skipLayout? rest) with
  | ']' :: rest => return ([node], rest)
  | ',' :: rest =>
      match ← required (skipLayout? rest) with
      | ']' :: rest => return ([node], rest)
      | rest =>
          if _shorter : rest.length < text.length then
            let (nodes, rest) ← arrayItems item rest
            return (node :: nodes, rest)
          else .error .malformed
  | _ => .error .malformed
termination_by text.length

/-- An array after its opening bracket. -/
def arrayBody (item : ValueReader) (text : List Char) : Except Refusal (Node × List Char) := do
  match ← required (skipLayout? text) with
  | ']' :: rest => return (.array [], rest)
  | rest =>
      let (nodes, rest) ← arrayItems item rest
      return (.array nodes, rest)

/-- A key, an equals sign and a value, spaces around each; none where no key
begins, or one with too many parts. -/
def pair (item : ValueReader) : Attempt (List String × Node) := fun text => do
  if !beginsKey text then return none
  else
    let (parts, rest) ← required (keyParts? text)
    if nestingBound ≤ parts.length then return none
    else
      let rest ← required (Text.expect '=' rest)
      let (node, rest) ← item (skipSpaces rest)
      return some ((parts, node), skipSpaces rest)

/-- The pairs of a table in braces.  A comma that no pair follows does not belong
to them. -/
def inlinePairs (item : ValueReader) (text : List Char) :
    Except Refusal (List (List String × Node) × List Char) := do
  match ← pair item text with
  | none => return ([], text)
  | some (found, rest) =>
      match rest with
      | ',' :: after =>
          if _shorter : after.length < text.length then
            match ← inlinePairs item after with
            | ([], _) => return ([found], rest)
            | (pairs, last) => return (found :: pairs, last)
          else .error .malformed
      | _ => return ([found], rest)
termination_by text.length

/-- A table in braces after its opening brace.  The pairs are put together before
the closing brace is looked for. -/
def inlineBody (item : ValueReader) (text : List Char) : Except Refusal (Node × List Char) := do
  let (pairs, rest) ← inlinePairs item text
  let entries ← Entries.ofPairs pairs
  let rest ← required (Text.expect '\x7d' (skipSpaces rest))
  return (.inline entries, rest)

/-- A value that nests at most `depth` deep. -/
def value : (depth : Nat) → ValueReader
  | 0 => fun text =>
      match text with
      | '[' :: _ => .error .malformed
      | '\x7b' :: _ => .error .malformed
      | _ => scalar text
  | depth + 1 => fun text =>
      match text with
      | '[' :: rest => arrayBody (value depth) rest
      | '\x7b' :: rest => inlineBody (value depth) rest
      | _ => scalar text

end PortMapping.Toml
