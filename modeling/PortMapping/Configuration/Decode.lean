import PortMapping.Configuration.Basic
import PortMapping.Toml.Document

/-!
# Reading a configuration from a document

The reader that the command gives to `Configuration.parse`, which takes any.  A
document that is no tree of tables is refused before any field is looked at; fields
are then read in document order, and missing ones are reported last.

A section is a table, or an array of its values in the order of its fields, where
fields left out keep their defaults and surplus values are not looked at.  The
packet filter is named by a string, or by a table with that name as its only key
and nothing under it.  A date in place of a section is read as a section whose
only field has a reserved name, so it is refused for that field.
-/

namespace PortMapping

open Toml (Node Entries)

/-- Why a document could not be read as a configuration. -/
inductive DocumentError where
  /-- The document is no tree of tables at all. -/
  | unreadable (refusal : Toml.Refusal)
  /-- A field has a value of the wrong kind. -/
  | wrongKind
  | missingField (name : String)
  | unknownField (name : String) (admitted : List String)
  | unknownVariant (name : String) (admitted : List String)
  deriving DecidableEq, Repr

namespace DocumentError

/-- The names that would have been admitted. -/
def admittedText : List String → String
  | [] => "there are no fields"
  | [name] => "expected " ++ Text.ticked name
  | [first, second] => "expected " ++ Text.ticked first ++ " or " ++ Text.ticked second
  | names => "expected one of " ++ ", ".intercalate (names.map Text.ticked)

/-- The words for an error that has some of its own. -/
def words? : DocumentError → Option String
  | .unreadable refusal => refusal.words?
  | .wrongKind => none
  | .missingField name => some ("missing field " ++ Text.ticked name)
  | .unknownField name admitted =>
      some ("unknown field " ++ Text.ticked name ++ ", " ++ admittedText admitted)
  | .unknownVariant name admitted =>
      some ("unknown variant " ++ Text.ticked name ++ ", " ++ admittedText admitted)

/-- How the text of every refused document begins. -/
def heading : String := "TOML parse error"

/-- The words for a refused document. -/
def message (error : DocumentError) : String :=
  match error.words? with
  | none => heading
  | some words => heading ++ "\n" ++ words

instance : ToString DocumentError := ⟨message⟩

end DocumentError

/-- A value read from a document, or why not. -/
abbrev Decoded (α : Type) := Except DocumentError α

namespace Decoded

/-- A string. -/
def string : Node → Decoded String
  | .string text => .ok text
  | _ => .error .wrongKind

/-- An array of strings. -/
def strings : Node → Decoded (List String)
  | .array items => items.mapM string
  | _ => .error .wrongKind

/-- The entries of a table, however it was written. -/
def entries? : Node → Option Entries
  | .inline entries => some entries
  | .table _ entries => some entries
  | _ => none

/-- The items of an array; an array of tables has tables for items. -/
def items? : Node → Option (List Node)
  | .array items => some items
  | .tables elements => some (elements.map (.table .header))
  | _ => none

/-- The field that a date in place of a section seems to have. -/
def reservedField : String := "$__toml_private_datetime"

/-- A section: `assign` puts the value of a field into the section, or tells that
there is no such field; `names` lists the fields in order. -/
def sectionOf {α : Type} (names : List String) (assign : String → Node → α → Option (Decoded α))
    (default : α) (node : Node) : Decoded α :=
  let field (current : α) (entry : String × Node) : Decoded α :=
    (assign entry.1 entry.2 current).getD (.error (.unknownField entry.1 names))
  match entries? node with
  | some entries => entries.foldlM field default
  | none =>
      match items? node with
      | some items => (names.zip items).foldlM field default
      | none =>
          match node with
          | .plain .date => .error (.unknownField reservedField names)
          | _ => .error .wrongKind

/-- Whether a node holds nothing. -/
def isEmpty (node : Node) : Bool :=
  match node with
  | .array items => items.isEmpty
  | .tables elements => elements.isEmpty
  | .inline entries => entries.isEmpty
  | .table _ entries => entries.isEmpty
  | _ => false

/-- The names of the packet filters. -/
def filterNames : List String := ["nft", "memory"]

/-- The packet filter with a name. -/
def filterNamed (name : String) : Decoded FilterKind :=
  if name = "nft" then .ok .nft
  else if name = "memory" then .ok .memory
  else .error (.unknownVariant name filterNames)

/-- A packet filter. -/
def filterKind (node : Node) : Decoded FilterKind :=
  match node with
  | .string name => filterNamed name
  | _ =>
      match entries? node with
      | some [(name, content)] => do
          let kind ← filterNamed name
          if isEmpty content then return kind else throw .wrongKind
      | _ => .error .wrongKind

/-- The packet filter section. -/
def firewall : Node → Decoded FirewallSettings :=
  sectionOf ["backend", "table"]
    (fun name node settings =>
      if name = "backend" then
        some ((filterKind node).map fun backend => { settings with backend })
      else if name = "table" then
        some ((string node).map fun table => { settings with table })
      else none)
    {}

/-- The logging section. -/
def log : Node → Decoded LogSettings :=
  sectionOf ["level", "format"]
    (fun name node settings =>
      if name = "level" then some ((string node).map fun level => { settings with level })
      else if name = "format" then some ((string node).map fun format => { settings with format })
      else none)
    {}

/-- The fields read so far. -/
structure Fields where
  interface : Option String := none
  listen : Option (List String) := none
  firewall : Option FirewallSettings := none
  log : Option LogSettings := none

/-- The names of the fields of a configuration. -/
def fieldNames : List String := ["interface", "listen", "firewall", "log"]

/-- Read one field. -/
def field (fields : Fields) (entry : String × Node) : Decoded Fields :=
  if entry.1 = "interface" then
    (string entry.2).map fun interface => { fields with interface := some interface }
  else if entry.1 = "listen" then
    (strings entry.2).map fun listen => { fields with listen := some listen }
  else if entry.1 = "firewall" then
    (firewall entry.2).map fun firewall => { fields with firewall := some firewall }
  else if entry.1 = "log" then
    (log entry.2).map fun log => { fields with log := some log }
  else .error (.unknownField entry.1 fieldNames)

/-- The configuration made of fields. -/
def assemble (fields : Fields) : Decoded Configuration :=
  match fields.interface, fields.listen with
  | none, _ => .error (.missingField "interface")
  | some _, none => .error (.missingField "listen")
  | some interface, some listen =>
      .ok
        { interface
          listen
          firewall := fields.firewall.getD {}
          log := fields.log.getD {} }

end Decoded

namespace Configuration

/-- The configuration that the entries of a document describe. -/
def ofEntries (entries : Entries) : Decoded Configuration :=
  (entries.foldlM Decoded.field {}).bind Decoded.assemble

/-- The configuration that a document describes, usable or not. -/
def read (document : String) : Decoded Configuration :=
  match Toml.parse document with
  | .error refusal => .error (.unreadable refusal)
  | .ok entries => ofEntries entries

end Configuration

end PortMapping
