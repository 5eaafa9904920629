import PortMapping.Toml.Number
import PortMapping.Toml.Refusal

/-!
# The tree of a TOML document

Tables keep their entries in the order in which the document first names them.
A table remembers how it came to be, because that decides what may still be added
to it: a table with a header of its own is closed to dotted keys, a table made by
dotted keys is closed to headers, and a table that a longer header merely implied
is open to one header of its own.
-/

namespace PortMapping.Toml

/-- How a table came to be. -/
inductive Origin where
  /-- By a header of its own, or as the document itself. -/
  | header
  /-- By the header of a table inside it. -/
  | implied
  /-- By a dotted key. -/
  | dotted
  deriving DecidableEq, Repr

/-- A value of a document. -/
inductive Node where
  | string (text : String)
  | plain (scalar : PlainScalar)
  | array (items : List Node)
  /-- A table written in braces. -/
  | inline (entries : List (String × Node))
  | table (origin : Origin) (entries : List (String × Node))
  /-- Tables sharing a header in double brackets, by their entries. -/
  | tables (elements : List (List (String × Node)))
  deriving Repr

namespace Node

/-- Whether a value is a table written in braces. -/
def isBraced : Node → Bool
  | .inline _ => true
  | _ => false

/-- The word for the kind of a value. -/
def kind : Node → String
  | .string _ => "string"
  | .plain .integer => "integer"
  | .plain .float => "float"
  | .plain .boolean => "boolean"
  | .plain .date => "datetime"
  | .array _ => "array"
  | .inline _ => "inline table"
  | .table _ _ => "table"
  | .tables _ => "array of tables"

end Node

/-- What a path to a table was written as. -/
inductive Route where
  /-- A header. -/
  | header
  /-- A dotted key of a table. -/
  | dotted
  /-- A dotted key of a table in braces. -/
  | braced
  deriving DecidableEq, Repr

/-- How the tables come to be that a path makes on its way. -/
def Route.origin : Route → Origin
  | .header => .implied
  | .dotted => .dotted
  | .braced => .dotted

/-- The entries of a table, in document order. -/
abbrev Entries := List (String × Node)

namespace Entries

/-- Put a node in place of the one with its name, or behind all entries. -/
def put (name : String) (node : Node) : Entries → Entries
  | [] => [(name, node)]
  | (other, old) :: rest =>
      if other = name then (name, node) :: rest else (other, old) :: put name node rest

/-- The entries without the one of a name. -/
def without (name : String) (entries : Entries) : Entries :=
  entries.filter fun entry => entry.1 ≠ name

/-- Change the table at the end of a path, making the tables on the way that do
not exist.  Dotted keys may not lead through a table with a header of its own, nor
inside braces through another table in braces.  The part of the path that led here
is only kept for the refusals. -/
def update (route : Route) (change : Origin → Entries → Except Refusal Entries) :
    (passed path : List String) → Origin → Entries → Except Refusal Entries
  | _, [], origin, entries => change origin entries
  | passed, name :: path, _, entries =>
      let passed := passed ++ [name]
      match entries.lookup name with
      | none =>
          (update route change passed path route.origin []).map fun inner =>
            entries.put name (.table route.origin inner)
      | some (.table origin inner) =>
          if route ≠ .header && origin = .header then .error (.takenKey name)
          else
            (update route change passed path origin inner).map fun inner =>
              entries.put name (.table origin inner)
      | some (.tables elements) =>
          match elements.getLast? with
          | none => .error .malformed
          | some last =>
              (update route change passed path .header last).map fun inner =>
                entries.put name (.tables (elements.dropLast ++ [inner]))
      | some node =>
          if route = .braced && node.isBraced then .error (.takenKey name)
          else .error (.notTable passed node.kind)

/-- Add a node under a dotted key; `taken` is the refusal if the key is taken.  A
key of several parts ends in a table made by dotted keys, a key of one part in a
table that was not. -/
def addAt (route : Route) (taken : Refusal) (path : List String) (name : String) (node : Node)
    (entries : Entries) : Except Refusal Entries :=
  let add (origin : Origin) (entries : Entries) : Except Refusal Entries :=
    if (origin = .dotted) = path.isEmpty then .error (.takenKey name)
    else if (entries.lookup name).isSome then .error taken
    else .ok (entries ++ [(name, node)])
  update route add [] path .header entries

/-- The entries of a table written in braces. -/
def ofPairs (pairs : List (List String × Node)) : Except Refusal Entries :=
  pairs.foldlM (fun entries pair => do
    let name ← required pair.1.getLast?
    entries.addAt .braced (.takenKey name) pair.1.dropLast name pair.2) []

end Entries

end PortMapping.Toml
