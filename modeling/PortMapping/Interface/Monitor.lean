import PortMapping.Address
import PortMapping.Failure
import PortMapping.Interface.Event

/-!
# Following the external interface

The gateway follows one interface.  Its external address is the interface's first
IPv4 address, unspecified if there is none.
-/

namespace PortMapping

/-- The answer to a query for addresses, and the source after it. -/
structure AddressQuery (σ : Type) where
  outcome : Except IoFailure (List IpAddress)
  source : σ

/-- A source of the addresses configured on an interface. -/
class AddressSource (σ : Type) where
  /-- The addresses of an interface, in the system's order. -/
  query : σ → String → AddressQuery σ

/-- Addresses by interface, with failures queued for coming queries. -/
structure AddressTable where
  entries : List (String × List IpAddress) := []
  failures : List IoFailure := []
  deriving DecidableEq, Repr

namespace AddressTable

/-- A table without interfaces. -/
def empty : AddressTable := {}

/-- The addresses of an interface, none if it is unknown. -/
def addresses (table : AddressTable) (interface : String) : List IpAddress :=
  (table.entries.lookup interface).getD []

/-- Remove an interface. -/
def remove (table : AddressTable) (interface : String) : AddressTable :=
  { table with entries := table.entries.filter fun entry => entry.1 ≠ interface }

/-- Replace the addresses of an interface. -/
def set (table : AddressTable) (interface : String) (addresses : List IpAddress) :
    AddressTable :=
  { table with entries := (interface, addresses) :: (table.remove interface).entries }

/-- Let a coming query fail. -/
def failQuery (table : AddressTable) (failure : IoFailure) : AddressTable :=
  { table with failures := table.failures ++ [failure] }

instance : AddressSource AddressTable where
  query table interface :=
    match table.failures with
    | failure :: later => ⟨.error failure, { table with failures := later }⟩
    | [] => ⟨.ok (table.addresses interface), table⟩

end AddressTable

/-- The first IPv4 address of a list, unspecified if there is none. -/
def firstIpv4 (addresses : List IpAddress) : Ipv4 :=
  (addresses.findSome? IpAddress.v4?).getD .unspecified

/-- The followed interface and where its addresses come from. -/
structure Monitor (σ : Type) where
  interface : String
  source : σ

namespace Monitor

variable {σ : Type}

/-- Whether an event is about the followed interface. -/
def concerns (monitor : Monitor σ) (event : InterfaceEvent) : Bool :=
  event.interface = monitor.interface

/-- The followed interface's address, and the monitor after asking for it. -/
structure Reading (σ : Type) where
  outcome : Except IoFailure Ipv4
  monitor : Monitor σ

/-- Ask for the address of the followed interface. -/
def currentAddress [AddressSource σ] (monitor : Monitor σ) : Reading σ :=
  let query := AddressSource.query monitor.source monitor.interface
  { outcome := query.outcome.map firstIpv4
    monitor := { monitor with source := query.source } }

end Monitor

end PortMapping
