import PortMapping.Server.Basic

/-!
# Following the external address

An event about the followed interface makes the server ask for its address again.
A new address is announced from the beginning; losing the address stops any
announcement.  Events about other interfaces, unchanged addresses and failed
queries change nothing.
-/

namespace PortMapping

/-- What asking for the external address came to. -/
inductive AddressChange where
  | unchanged
  /-- The address was replaced; unspecified stands for none. -/
  | changed (previous current : Ipv4)
  deriving DecidableEq, Repr

namespace Server

variable {β σ : Type} [AddressSource σ]

/-- Take over a new external address. -/
def moveTo (server : Server β σ) (current : Ipv4) (now : Int) : Server β σ :=
  let stopped := server.announcer.cancel server.timers
  let scheduled :=
    if current.isUnspecified then stopped
    else stopped.announcer.restart stopped.timers now
  { server with
    gateway := { server.gateway with externalAddress := current }
    announcer := scheduled.announcer
    timers := scheduled.timers }

/-- The log line for a new external address. -/
def moveLine (interface : String) (current : Ipv4) : String :=
  if current.isUnspecified then interface ++ " has no IPv4 address"
  else "external address of " ++ interface ++ " is " ++ current.text

/-- Ask for the external address and announce it if it changed. -/
def checkInterface (server : Server β σ) (now : Int) :
    Logged (Handled β σ (Except GatewayError AddressChange)) :=
  let reading := server.monitor.currentAddress
  let server := { server with monitor := reading.monitor }
  match reading.outcome with
  | .error failure => pure ⟨.error (.interface server.monitor.interface failure), server⟩
  | .ok current =>
      let previous := server.gateway.externalAddress
      if current = previous then pure ⟨.ok .unchanged, server⟩
      else do
        .info (moveLine server.monitor.interface current)
        return ⟨.ok (.changed previous current), server.moveTo current now⟩

/-- React to an event of the routing feed. -/
def handleInterfaceEvent (server : Server β σ) (event : InterfaceEvent) (now : Int) :
    Logged (Handled β σ (Except GatewayError AddressChange)) :=
  if server.monitor.concerns event then do
    .debug ("Interface event " ++ event.text)
    server.checkInterface now
  else pure ⟨.ok .unchanged, server⟩

end Server

end PortMapping
