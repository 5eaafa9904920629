import PortMapping.Daemon
import PortMapping.Rehearsal.Host

/-!
# Rehearsed sessions

A session plays what happens to a running daemon one step after another: datagrams
and events come, announcements are waited for, and the addresses of the machine
change.  Then the daemon ends.
-/

namespace PortMapping

namespace Daemon

variable {β σ : Type} [Backend β]

/-- Let time pass until so many announcements were sent, though not past the latest
instant and for at most so many deadlines. -/
def awaitAnnouncements (daemon : Daemon β σ) (count : Nat) (latest : Int) :
    (deadlines : Nat) → Logged (Daemon β σ)
  | 0 => pure daemon
  | deadlines + 1 =>
      if count ≤ daemon.announced then pure daemon
      else
        match daemon.server.nextDeadline with
        | none => pure daemon
        | some deadline =>
            if latest < deadline then pure daemon
            else do
              let daemon ← daemon.fire (max daemon.now deadline)
              daemon.awaitAnnouncements count latest deadlines

end Daemon

namespace Session

/-- What happens to a running daemon. -/
inductive Step where
  /-- A datagram from a client to one of the endpoints. -/
  | datagram (client : IpAddress) (endpoint : Nat) (payload : Octets)
  | event (event : InterfaceEvent)
  /-- Time passes until so many announcements were sent. -/
  | announcements (count : Nat)
  | setAddresses (interface : String) (addresses : List IpAddress)
  | removeInterface (interface : String)
  | failQuery (failure : IoFailure)

/-- What a step shows. -/
inductive Answer where
  | reply (datagram : Option Octets)
  | done
  /-- The daemon ended while handling the step. -/
  | stopped
  | reached (count : Nat)

/-- How a session ended. -/
structure Ending (β : Type) where
  answers : List Answer
  /-- The records since the last completed step. -/
  log : List LogRecord
  outcome : Except GatewayError (Server β AddressTable)

variable {β : Type} [Backend β]

/-- Change the table of addresses that a daemon's server asks. -/
def changeAddresses (daemon : Daemon β AddressTable) (change : AddressTable → AddressTable) :
    Daemon β AddressTable :=
  let monitor := daemon.server.monitor
  { daemon with
    server := { daemon.server with monitor := { monitor with source := change monitor.source } } }

/-- How long announcements are waited for. -/
def patience : Int := seconds 10

/-- The failure of sending to an endpoint that the daemon does not have. -/
def noSuchEndpoint : IoFailure := .described "no such endpoint"

/-- Run a daemon through steps and then end it.  Fails when a client cannot send
its datagram, or when announcements are waited for in vain. -/
def run (host : Host) (daemon : Daemon β AddressTable) :
    List Step → Except IoFailure (Ending β)
  | [] =>
      let finished := daemon.finish
      .ok ⟨[], finished.log, .ok finished.value⟩
  | step :: later =>
      let continueWith (answer : Answer) (daemon : Daemon β AddressTable) :
          Except IoFailure (Ending β) :=
        (run host daemon later).map fun ending =>
          { ending with answers := answer :: ending.answers }
      match step with
      | .datagram client endpoint payload =>
          match daemon.endpoints[endpoint]? with
          | none => .error noSuchEndpoint
          | some destination => do
              let peer ← host.send client destination
              let received := (daemon.receive payload peer).value
              continueWith (.reply received.reply) received.daemon
      | .event event =>
          let handled := daemon.server.handleInterfaceEvent event daemon.now
          let after := { daemon with server := handled.value.server }
          match handled.value.result with
          | .ok _ => continueWith .done after
          | .error error =>
              let finished := after.finish
              .ok
                { answers := [.stopped]
                  log := handled.log ++ [⟨.error, error.message⟩] ++ finished.log
                  outcome := .error error }
      | .announcements count =>
          let deadlines := count + daemon.server.timers.size
          let after := (daemon.awaitAnnouncements count (daemon.now + patience) deadlines).value
          if count ≤ after.announced then continueWith (.reached count) after
          else .error Host.nothingArrived
      | .setAddresses interface addresses =>
          continueWith .done (changeAddresses daemon (·.set interface addresses))
      | .removeInterface interface =>
          continueWith .done (changeAddresses daemon (·.remove interface))
      | .failQuery failure =>
          continueWith .done (changeAddresses daemon (·.failQuery failure))

end Session

end PortMapping
