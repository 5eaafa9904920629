import PortMapping.Announcer
import PortMapping.Error
import PortMapping.Gateway
import PortMapping.Interface.Monitor
import PortMapping.Mapping.Table

/-!
# The state of the gateway

A server owns everything that changes: the mapping table, the timers, the
announcer, the external address and the packet filter.  It performs no exchange
with the outside.  Handlers take a datagram, an event or the current time and
return what to send together with the next server; each leaves the table and the
filter's rules consistent.
-/

namespace PortMapping

/-- The state of the gateway, over a packet filter and a source of addresses. -/
structure Server (β σ : Type) where
  table : Table
  gateway : Gateway
  timers : TimerQueue TimerEvent
  announcer : Announcer
  rules : Synchronizer β
  monitor : Monitor σ

/-- What a handler returns, with the server after it. -/
structure Handled (β σ α : Type) where
  result : α
  server : Server β σ

namespace Server

variable {β σ : Type}

/-- A server that knows no address and holds no mapping. -/
def new (rules : Synchronizer β) (monitor : Monitor σ) (startTime : Int)
    (ports : PortSource) : Server β σ where
  table := .empty ports
  gateway := .start startTime
  timers := .empty
  announcer := .idle
  rules := rules
  monitor := monitor

/-- The earliest instant at which a timer is due. -/
def nextDeadline (server : Server β σ) : Option Int := server.timers.nextDeadline

variable [Backend β]

/-- Install one rule for each mapping. -/
def synchronize (server : Server β σ) :
    Logged (Handled β σ (Except GatewayError Unit)) := do
  let update ← server.rules.rebuild server.table.mappings
  return { result := (update.outcome.map fun _ => ()).mapError .firewall
           server := { server with rules := update.synchronizer } }

/-- Log that the rules could not be brought up to date. -/
def noteFailure {α : Type} : Except SyncError α → Logged Unit
  | .ok _ => pure ()
  | .error error => .warn ("unable to rebuild ruleset: " ++ error.message)

/-- Install one rule for each mapping; a failure is logged and the mappings stand. -/
def rebuildRules (server : Server β σ) : Logged (Server β σ) := do
  let update ← server.rules.rebuild server.table.mappings
  noteFailure update.outcome
  return { server with rules := update.synchronizer }

/-- Clear the rules of a previous run and install the present ones. -/
def start (server : Server β σ) : Logged (Handled β σ (Except GatewayError Unit)) := do
  let update ← server.rules.reset
  let server := { server with rules := update.synchronizer }
  match update.outcome with
  | .error error => return ⟨.error (.firewall error), server⟩
  | .ok _ => server.synchronize

/-- Drop every mapping and timer, then clear the rules.  Nothing is kept when the
filter refuses. -/
def shutdown (server : Server β σ) : Logged (Handled β σ (Except GatewayError Unit)) := do
  let cleared := server.table.clear server.timers
  let stopped := server.announcer.cancel cleared.timers
  .debug s!"Discarded {cleared.count} mappings"
  { server with
    table := cleared.table
    announcer := stopped.announcer
    timers := stopped.timers.clear }.synchronize

end Server

end PortMapping
