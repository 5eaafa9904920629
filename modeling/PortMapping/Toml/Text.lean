import PortMapping.Text.Numeral

/-!
# Layout and strings of TOML documents

Readers take a text and return what they found with what is left, or refuse.
Control characters other than the tabulator are refused everywhere, and a line
ends with a line feed, alone or after a carriage return.
-/

namespace PortMapping.Toml

/-- A reader of the front of a text. -/
abbrev Reader (α : Type) := List Char → Option (α × List Char)

/-- Whether a character separates things on one line. -/
def isSpace (character : Char) : Bool := character = ' ' || character = '\t'

/-- Whether a character may stand in a comment or between quotes. -/
def isTextChar (character : Char) : Bool :=
  character = '\t' || (' ' ≤ character && character ≤ '~') || 0x80 ≤ character.toNat

/-- What follows the spaces at the front of a text. -/
def skipSpaces (text : List Char) : List Char := text.dropWhile isSpace

/-- What follows the end of a line at the front of a text. -/
def newline? : List Char → Option (List Char)
  | '\n' :: rest => some rest
  | '\r' :: '\n' :: rest => some rest
  | _ => none

theorem length_newline? {text rest : List Char} (found : newline? text = some rest) :
    rest.length < text.length := by
  unfold newline? at found
  split at found <;> cases found <;> simp only [List.length_cons] <;> omega

/-- What follows a comment at the front of a text. -/
def skipComment : List Char → List Char
  | '#' :: rest => rest.dropWhile isTextChar
  | text => text

theorem length_skipComment (text : List Char) : (skipComment text).length ≤ text.length := by
  unfold skipComment
  split
  · exact Nat.le_succ_of_le (List.dropWhile_sublist _).length_le
  · exact Nat.le_refl _

/-- What follows the rest of a line: spaces, a comment, and the end of the line
or of the text. -/
def endLine? (text : List Char) : Option (List Char) :=
  match skipComment (skipSpaces text) with
  | [] => some []
  | rest => newline? rest

/-- What follows spaces, comments and ends of lines.  A comment must be ended by
the end of its line. -/
def skipLayout? (text : List Char) : Option (List Char) :=
  match _spaced : skipSpaces text with
  | [] => some []
  | character :: rest =>
      if character = '#' ∨ character = '\n' ∨ character = '\r' then
        match _ended : newline? (skipComment (character :: rest)) with
        | none => none
        | some after => skipLayout? after
      else some (character :: rest)
termination_by text.length
decreasing_by
  have shorter := length_newline? _ended
  have kept := length_skipComment (character :: rest)
  have spaces : (skipSpaces text).length ≤ text.length := (List.dropWhile_sublist _).length_le
  rw [_spaced] at spaces
  omega

/-! ## Escapes -/

/-- The character with a code point written by exactly `count` hexadecimal digits. -/
def codePoint? (count : Nat) : Reader Char := fun text =>
  let digits := (text.take count).filterMap Text.hexValue?
  let value := Text.ofDigits 16 digits
  if digits.length = count ∧ value.isValidChar then some (Char.ofNat value, text.drop count)
  else none

/-- The character that an escape stands for; the text begins after the backslash. -/
def escape? : Reader Char
  | 'b' :: rest => some ('\x08', rest)
  | 't' :: rest => some ('\t', rest)
  | 'n' :: rest => some ('\n', rest)
  | 'f' :: rest => some ('\x0c', rest)
  | 'r' :: rest => some ('\r', rest)
  | '"' :: rest => some ('"', rest)
  | '\\' :: rest => some ('\\', rest)
  | 'u' :: rest => codePoint? 4 rest
  | 'U' :: rest => codePoint? 8 rest
  | _ => none

theorem length_codePoint? {count : Nat} {text rest : List Char} {character : Char}
    (found : codePoint? count text = some (character, rest)) : rest.length ≤ text.length := by
  unfold codePoint? at found
  simp only at found
  split at found
  · cases found
    simp only [List.length_drop]
    omega
  · cases found

theorem length_escape? {text rest : List Char} {character : Char}
    (found : escape? text = some (character, rest)) : rest.length < text.length := by
  unfold escape? at found
  split at found
  case h_8 => exact Nat.lt_succ_of_le (length_codePoint? found)
  case h_9 => exact Nat.lt_succ_of_le (length_codePoint? found)
  case h_10 => cases found
  all_goals
    cases found
    exact Nat.lt_succ_self _

/-! ## Strings -/

/-- Put a character in front of the text that a reader found. -/
def prepend (character : Char) (found : Option (List Char × List Char)) :
    Option (List Char × List Char) :=
  found.map fun pair => (character :: pair.1, pair.2)

/-- A string after its opening double quote. -/
def basicBody? (text : List Char) : Option (List Char × List Char) :=
  match text with
  | [] => none
  | character :: rest =>
      if character = '"' then some ([], rest)
      else if character = '\\' then
        match _escaped : escape? rest with
        | none => none
        | some (value, after) => prepend value (basicBody? after)
      else if isTextChar character then prepend character (basicBody? rest)
      else none
termination_by text.length
decreasing_by
  · exact Nat.lt_succ_of_lt (length_escape? _escaped)
  · exact Nat.lt_succ_self _

/-- A string after its opening single quote. -/
def literalBody? (text : List Char) : Option (List Char × List Char) :=
  let isInner (character : Char) : Bool := isTextChar character && character != '\''
  (Text.expect '\'' (text.dropWhile isInner)).map fun rest => (text.takeWhile isInner, rest)

/-- What follows spaces and ends of lines. -/
def skipBlankLines : List Char → List Char
  | ' ' :: rest => skipBlankLines rest
  | '\t' :: rest => skipBlankLines rest
  | '\n' :: rest => skipBlankLines rest
  | '\r' :: '\n' :: rest => skipBlankLines rest
  | text => text

theorem length_skipBlankLines (text : List Char) :
    (skipBlankLines text).length ≤ text.length := by
  fun_induction skipBlankLines text with
  | case5 => exact Nat.le_refl _
  | _ => simp only [List.length_cons]; omega

/-- What follows a line that a backslash continues; the text begins after the
backslash. -/
def continueLine? (text : List Char) : Option (List Char) :=
  (newline? (skipSpaces text)).map skipBlankLines

theorem length_continueLine? {text rest : List Char}
    (found : continueLine? text = some rest) : rest.length < text.length := by
  obtain ⟨line, ended, rfl⟩ := Option.map_eq_some_iff.1 found
  have shorter := length_newline? ended
  have spaces : (skipSpaces text).length ≤ text.length := (List.dropWhile_sublist _).length_le
  have blank := length_skipBlankLines line
  omega

/-- A string of several lines after its three opening quotes.  Three quotes close
it, and one or two more before them belong to it. -/
def multilineBody? (quote : Char) (escapes : Bool) (text : List Char) :
    Option (List Char × List Char) :=
  match text with
  | [] => none
  | character :: rest =>
      if character = quote then
        let run := (text.takeWhile (· = quote)).length
        if 3 ≤ run then
          let inner := min (run - 3) 2
          some (List.replicate inner quote, text.drop (inner + 3))
        else prepend quote (multilineBody? quote escapes rest)
      else if escapes ∧ character = '\\' then
        match _continued : continueLine? rest with
        | some after => multilineBody? quote escapes after
        | none =>
            match _escaped : escape? rest with
            | none => none
            | some (value, after) => prepend value (multilineBody? quote escapes after)
      else if character = '\n' ∨ character = '\r' then
        match _ended : newline? (character :: rest) with
        | none => none
        | some after => prepend '\n' (multilineBody? quote escapes after)
      else if isTextChar character then prepend character (multilineBody? quote escapes rest)
      else none
termination_by text.length
decreasing_by
  · exact Nat.lt_succ_self _
  · exact Nat.lt_succ_of_lt (length_continueLine? _continued)
  · exact Nat.lt_succ_of_lt (length_escape? _escaped)
  · exact length_newline? _ended
  · exact Nat.lt_succ_self _

/-- What follows the end of the line on which a string of several lines opens. -/
def skipFirstNewline (text : List Char) : List Char := (newline? text).getD text

/-- A string of any of the four forms. -/
def string? : Reader (List Char)
  | '"' :: '"' :: '"' :: rest => multilineBody? '"' true (skipFirstNewline rest)
  | '\'' :: '\'' :: '\'' :: rest => multilineBody? '\'' false (skipFirstNewline rest)
  | '"' :: rest => basicBody? rest
  | '\'' :: rest => literalBody? rest
  | _ => none

end PortMapping.Toml
