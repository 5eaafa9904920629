import PortMapping.Log
import PortMapping.Mapping.Basic

/-!
# The mapping table

The table owns every mapping.  It holds at most one mapping for each transport
and internal endpoint: asking again renews the lifetime and gives the same
external port, whatever port was asked for.  A new mapping shares the external
port of the mapping for the same internal endpoint under the other transport,
and otherwise draws one.  Every way out of the table cancels the mapping's timer,
except expiry, which is what that timer does.
-/

namespace PortMapping

/-- The active mappings, oldest first. -/
structure Table where
  mappings : List Mapping := []
  nextId : Nat := 0
  ports : PortSource

namespace Table

/-- A table without mappings. -/
def empty (ports : PortSource) : Table := { ports }

instance : Inhabited Table := ⟨empty default⟩

/-- The mapping for a transport and an internal endpoint. -/
def get? (table : Table) (transport : Transport) (internal : Endpoint4) : Option Mapping :=
  table.mappings.find? (·.serves transport internal)

/-- The external port of the mapping for an internal endpoint, under whichever
transport. -/
def relatedPort? (table : Table) (internal : Endpoint4) : Option UInt16 :=
  (table.mappings.filter fun mapping => mapping.internal = internal).getLast?.map
    (·.external.port)

/-- The number of mappings. -/
def size (table : Table) : Nat := table.mappings.length

/-- Whether the table has no mapping. -/
def isEmpty (table : Table) : Bool := table.mappings.isEmpty

/-- The table and the timers after a mapping was granted. -/
structure Grant where
  externalPort : UInt16
  /-- Whether the mapping is new. -/
  created : Bool
  table : Table
  timers : TimerQueue TimerEvent

/-- Renew the lifetime of a mapping. -/
def refresh (table : Table) (timers : TimerQueue TimerEvent) (now : Int)
    (mapping : Mapping) (lifetime : Nat) : Grant :=
  let armed := (timers.cancel mapping.timer).queue.arm now lifetime (.expire mapping.id)
  let renew (other : Mapping) : Mapping :=
    if other.id = mapping.id then { other with timer := armed.timer } else other
  { externalPort := mapping.external.port
    created := false
    table := { table with mappings := table.mappings.map renew }
    timers := armed.queue }

/-- Add a mapping that the table does not hold. -/
def create (table : Table) (timers : TimerQueue TimerEvent) (now : Int)
    (transport : Transport) (internal : Endpoint4) (address : Ipv4) (lifetime : Nat) : Grant :=
  let related := table.relatedPort? internal
  let externalPort := related.getD table.ports.next
  let id : MappingId := ⟨table.nextId⟩
  let armed := timers.arm now lifetime (.expire id)
  { externalPort
    created := true
    table :=
      { mappings :=
          table.mappings ++
            [{ id, transport, external := ⟨address, externalPort⟩, internal, timer := armed.timer }]
        nextId := table.nextId + 1
        ports := if related.isSome then table.ports else table.ports.advance }
    timers := armed.queue }

/-- Grant a mapping: renew the one for the transport and the internal endpoint,
or create it.  The port of the requested external endpoint is never honoured. -/
def grant (table : Table) (timers : TimerQueue TimerEvent) (now : Int)
    (transport : Transport) (internal external : Endpoint4) (lifetime : Nat) : Grant :=
  match table.get? transport internal with
  | some mapping => table.refresh timers now mapping lifetime
  | none => table.create timers now transport internal external.address lifetime

/-- Note a request whose external endpoint differs from the mapping's own. -/
def noteOverride (table : Table) (transport : Transport) (internal external : Endpoint4) :
    Logged Unit :=
  match table.get? transport internal with
  | some mapping =>
      if mapping.external = external then pure ()
      else .debug ("Existing mapping " ++ mapping.text ++ " overrides requested " ++ external.text)
  | none => pure ()

/-- The table and the timers after mappings were removed. -/
structure Removal where
  count : Nat
  table : Table
  timers : TimerQueue TimerEvent

/-- Cancel the timers of mappings. -/
def cancelTimers (timers : TimerQueue TimerEvent) (mappings : List Mapping) :
    TimerQueue TimerEvent :=
  mappings.foldl (fun timers mapping => (timers.cancel mapping.timer).queue) timers

/-- Remove the mappings of a transport that lead to a port of a host, or to any
port of it when the port is zero. -/
def remove (table : Table) (timers : TimerQueue TimerEvent) (transport : Transport)
    (address : Ipv4) (port : UInt16) : Removal :=
  let leaving := table.mappings.filter (·.leadsTo transport address port)
  { count := leaving.length
    table :=
      { table with
        mappings := table.mappings.filter fun mapping => !mapping.leadsTo transport address port }
    timers := cancelTimers timers leaving }

/-- A table that a mapping may have expired from. -/
structure Expiry where
  expired : Option Mapping
  table : Table

/-- Drop the mapping whose timer has fired. -/
def expire (table : Table) (id : MappingId) : Expiry :=
  { expired := table.mappings.find? fun mapping => mapping.id = id
    table := { table with mappings := table.mappings.eraseP fun mapping => mapping.id = id } }

/-- Remove every mapping. -/
def clear (table : Table) (timers : TimerQueue TimerEvent) : Removal :=
  { count := table.mappings.length
    table := { table with mappings := [] }
    timers := cancelTimers timers table.mappings }

end Table

end PortMapping
