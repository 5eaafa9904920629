import PortMapping.Text.Numeral
import PortMapping.Text.Visible

/-!
# Quoted names

Log messages show interface names between double quotes.  A quote and a
backslash inside a name follow a backslash, the usual control characters have a
letter of their own, and every other character without a visible form of its own
is written by its code point.  Errors of a document show names between backticks,
as they are.
-/

namespace PortMapping.Text

/-- How one character stands between quotes. -/
def quoteChar (character : Char) : List Char :=
  if character = '"' then ['\\', '"']
  else if character = '\\' then ['\\', '\\']
  else if character = '\n' then ['\\', 'n']
  else if character = '\r' then ['\\', 'r']
  else if character = '\t' then ['\\', 't']
  else if character.toNat = 0 then ['\\', '0']
  else if isVisible character then [character]
  else '\\' :: 'u' :: '\x7b' :: hexadecimal character.toNat ++ ['\x7d']

/-- A text between double quotes. -/
def quoted (text : String) : String :=
  String.ofList ('"' :: text.toList.flatMap quoteChar ++ ['"'])

/-- A text between backticks, as it is. -/
def ticked (text : String) : String := "\x60" ++ text ++ "\x60"

end PortMapping.Text
