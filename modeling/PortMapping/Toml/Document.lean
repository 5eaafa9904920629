import PortMapping.Toml.Value

/-!
# TOML documents

A document is a sequence of lines: blank, a comment, a key with its value, or a
header.  Keys belong to the table of the last header.  A table is put into the
tree when the next header begins or the document ends; until then it may be an
implied table taken out of the tree, to which its entries are added.
-/

namespace PortMapping.Toml

/-- How far a document has been read. -/
structure Draft where
  /-- The tables finished so far. -/
  root : Entries := []
  /-- The entries of the current table. -/
  current : Entries := []
  /-- Where the current table belongs; empty for the document itself. -/
  path : List String := []
  /-- Whether the current table is an element of an array of tables. -/
  isElement : Bool := false

namespace Draft

/-- The refusal of a header whose place is taken. -/
def takenHeader (path : List String) (name : String) : Refusal :=
  .takenKeyIn path.dropLast (keyText name)

/-- Put the current table where it belongs. -/
def finish (draft : Draft) : Except Refusal Entries :=
  match draft.path.getLast? with
  | none => .ok draft.current
  | some name =>
      let taken := takenHeader draft.path name
      let place (_ : Origin) (entries : Entries) : Except Refusal Entries :=
        match entries.lookup name with
        | none =>
            let node := if draft.isElement then .tables [draft.current]
              else .table .header draft.current
            .ok (entries ++ [(name, node)])
        | some (.tables elements) =>
            if draft.isElement then .ok (entries.put name (.tables (elements ++ [draft.current])))
            else .error taken
        | some (.table .header _) => .error taken
        | some (.table _ _) =>
            if draft.isElement then .error taken
            else .ok (entries.put name (.table .header draft.current))
        | some _ => .error taken
      draft.root.update .header place [] draft.path.dropLast .header

/-- The implied table at a path, if there is one. -/
def implied (path : List String) (root : Entries) : Entries :=
  match path with
  | [] => []
  | [name] =>
      match root.lookup name with
      | some (.table .implied entries) => entries
      | _ => []
  | name :: path =>
      match root.lookup name with
      | some (.table _ entries) => implied path entries
      | some (.tables elements) =>
          match elements.getLast? with
          | some last => implied path last
          | none => []
      | _ => []

/-- Begin a table with a header of its own.  An implied table is continued; it
moves behind the tables finished meanwhile. -/
def openTable (draft : Draft) (path : List String) : Except Refusal Draft := do
  let root ← draft.finish
  let name ← required path.getLast?
  let take (_ : Origin) (entries : Entries) : Except Refusal Entries :=
    match entries.lookup name with
    | none => .ok entries
    | some (.table .implied _) => .ok (entries.without name)
    | some _ => .error (takenHeader path name)
  let rest ← root.update .header take [] path.dropLast .header
  return { root := rest, current := implied path root, path, isElement := false }

/-- Begin an element of an array of tables. -/
def openElement (draft : Draft) (path : List String) : Except Refusal Draft := do
  let root ← draft.finish
  let name ← required path.getLast?
  let reserve (_ : Origin) (entries : Entries) : Except Refusal Entries :=
    match entries.lookup name with
    | none => .ok (entries ++ [(name, .tables [])])
    | some (.tables _) => .ok entries
    | some _ => .error (takenHeader path name)
  let root ← root.update .header reserve [] path.dropLast .header
  return { root, current := [], path, isElement := true }

/-- Add a key and its value to the current table. -/
def add (draft : Draft) (parts : List String) (node : Node) : Except Refusal Draft := do
  let name ← required parts.getLast?
  let taken := Refusal.takenKeyIn draft.path name
  let current ← draft.current.addAt .dotted taken parts.dropLast name node
  return { draft with current }

end Draft

/-- Read one line into a draft. -/
def line (draft : Draft) (text : List Char) : Except Refusal (Draft × List Char) :=
  match text with
  | '#' :: _ => (required (endLine? text)).map fun rest => (draft, rest)
  | '\n' :: _ => (required (newline? text)).map fun rest => (draft, rest)
  | '\r' :: _ => (required (newline? text)).map fun rest => (draft, rest)
  | '[' :: '[' :: rest => do
      let (path, rest) ← required (key? rest)
      let rest ← required ((Text.expect ']' rest).bind (Text.expect ']'))
      let rest ← required (endLine? rest)
      return (← draft.openElement path, rest)
  | '[' :: rest => do
      let (path, rest) ← required (key? rest)
      let rest ← required (Text.expect ']' rest)
      let rest ← required (endLine? rest)
      return (← draft.openTable path, rest)
  | _ => do
      let (parts, rest) ← required (key? text)
      let rest ← required (Text.expect '=' rest)
      let (node, rest) ← value (nestingBound - 1) (skipSpaces rest)
      let rest ← required (endLine? rest)
      return (← draft.add parts node, rest)

/-- Read all lines into a draft. -/
def lines (draft : Draft) (text : List Char) : Except Refusal Draft :=
  match skipSpaces text with
  | [] => .ok draft
  | rest =>
      match line draft rest with
      | .error refusal => .error refusal
      | .ok (draft, after) =>
          if _shorter : after.length < text.length then lines draft after
          else .error .malformed
termination_by text.length

/-- The entries of a document.  A byte order mark at the front is skipped. -/
def parse (text : String) : Except Refusal Entries :=
  let characters :=
    match text.toList with
    | '\ufeff' :: rest => rest
    | characters => characters
  (lines {} characters).bind Draft.finish

end PortMapping.Toml
