import PortMapping.Server.Datagram
import PortMapping.Server.Interface
import PortMapping.Server.Timers

/-!
# The running gateway

A daemon hands datagrams, events and the passing of time to its server, one after
another, and sends what the server returns.  A failed query for the external
address ends it.  However it ends, every mapping is dropped and the rules are
cleared.
-/

namespace PortMapping

/-- A server with the endpoints it listens on. -/
structure Daemon (β σ : Type) where
  server : Server β σ
  endpoints : List Endpoint
  now : Int
  /-- How many announcements were sent, counting each endpoint. -/
  announced : Nat := 0

/-- The reply to a datagram, with the daemon after it. -/
structure Reception (β σ : Type) where
  reply : Option Octets
  daemon : Daemon β σ

namespace Daemon

variable {β σ : Type} [Backend β]

/-- How much of a datagram is read: one octet more than the longest request, so
that a longer one is seen to be too long. -/
def receiveBuffer : Nat := longestRequest + 1

/-- Hand a datagram to the server. -/
def receive (daemon : Daemon β σ) (datagram : Octets) (peer : Endpoint) :
    Logged (Reception β σ) := do
  let handled ← daemon.server.handleDatagram (datagram.take receiveBuffer) peer daemon.now
  return { reply := handled.result, daemon := { daemon with server := handled.server } }

/-- Fire the timers due at an instant; each announcement is sent from every IPv4
endpoint. -/
def fire (daemon : Daemon β σ) (now : Int) : Logged (Daemon β σ) := do
  let fired ← daemon.server.fireTimers now
  let senders := (daemon.endpoints.filter Endpoint.isV4).length
  return { daemon with
    server := fired.server
    now := now
    announced := daemon.announced + fired.result.length * senders }

/-- Drop every mapping and clear the rules; a refusal is only logged. -/
def finish (daemon : Daemon β σ) : Logged (Server β σ) := do
  let handled ← daemon.server.shutdown
  match handled.result with
  | .ok _ => pure ()
  | .error error => .warn ("unable to rebuild ruleset: " ++ error.message)
  return handled.server

end Daemon

end PortMapping
