import PortMapping.Text.Quoted

/-!
# Interface events

What the routing feed reports about an interface: an address was added, an
address was removed, or the interface went away.
-/

namespace PortMapping

/-- What happened to an interface. -/
inductive InterfaceChange where
  | addressAdded
  | addressRemoved
  | departed
  deriving DecidableEq, Repr

/-- A change of the named interface. -/
structure InterfaceEvent where
  change : InterfaceChange
  interface : String
  deriving DecidableEq, Repr

namespace InterfaceEvent

/-- The word for a change in messages. -/
def word : InterfaceChange → String
  | .addressAdded => "AddressAdded"
  | .addressRemoved => "AddressRemoved"
  | .departed => "InterfaceDeparted"

/-- An event in messages: the change and the quoted name. -/
def text (event : InterfaceEvent) : String :=
  word event.change ++ "(" ++ Text.quoted event.interface ++ ")"

end InterfaceEvent

end PortMapping
