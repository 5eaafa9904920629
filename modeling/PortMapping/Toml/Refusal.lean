import PortMapping.Text.Quoted

/-!
# Why a document is refused

A text may break the rules of notation.  A text that keeps them may still put two
values under one key, give a table two headers, or lead a key through a value
that is no table; such a refusal names the key.
-/

namespace PortMapping.Toml

/-- Why a document is refused. -/
inductive Refusal where
  /-- The text breaks the rules of notation. -/
  | malformed
  /-- A key is taken, or its table takes no more entries. -/
  | takenKey (name : String)
  /-- A key is taken in the table at a path. -/
  | takenKeyIn (path : List String) (name : String)
  /-- A path leads through a value of another kind than a table. -/
  | notTable (path : List String) (kind : String)
  deriving DecidableEq, Repr

/-- A text found, or the refusal of a text in which it is missing. -/
def required {α : Type} : Option α → Except Refusal α
  | some found => .ok found
  | none => .error .malformed

/-- An attempt to read something at the front of a text.  It yields what was found
together with what is left, or none if something else begins there.  A text that
has shown what it is meant to be, and is not that, is refused. -/
abbrev Attempt (α : Type) := List Char → Except Refusal (Option (α × List Char))

/-- The first of several attempts that finds something or refuses the text. -/
def firstOf {α : Type} : List (Attempt α) → Attempt α
  | [], _ => .ok none
  | attempt :: later, text =>
      match attempt text with
      | .ok none => firstOf later text
      | outcome => outcome

namespace Refusal

/-- A path as messages show it. -/
def pathText (path : List String) : String := ".".intercalate path

/-- Where a path leads. -/
def placeText (path : List String) : String :=
  if path.isEmpty then "document root" else "table " ++ Text.ticked (pathText path)

/-- The words for a refusal that names a key. -/
def words? : Refusal → Option String
  | .malformed => none
  | .takenKey name => some ("duplicate key " ++ Text.ticked name)
  | .takenKeyIn path name =>
      some ("duplicate key " ++ Text.ticked name ++ " in " ++ placeText path)
  | .notTable path kind =>
      some ("dotted key " ++ Text.ticked (pathText path) ++
        " attempted to extend non-table type (" ++ kind ++ ")")

end Refusal

end PortMapping.Toml
