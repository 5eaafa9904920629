import PortMapping.Packet.Control
import PortMapping.Packet.Response
import PortMapping.Server.Basic

/-!
# Answering datagrams

A datagram that is no request is dropped.  A request of another version is told
that it is unsupported, the port control protocol included.  Requests of the
mapping protocol are served over IPv4 only, and one of a known operation with a
wrong length is dropped.
-/

namespace PortMapping

namespace Server

variable {β σ : Type}

/-- Whether requests can be honoured: only while an external address is known. -/
def availability (server : Server β σ) : ResultCode :=
  if server.gateway.hasExternalAddress then .success else .networkFailure

variable [Backend β]

/-- What a mapping request came to. -/
structure Verdict (β σ : Type) where
  /-- The port granted, zero for none. -/
  externalPort : UInt16
  /-- The lifetime granted in seconds, zero for none. -/
  lifetime : UInt32
  /-- Whether the set of rules changed. -/
  changed : Bool
  server : Server β σ

/-- The verdict on a deletion. -/
def afterRemoval (server : Server β σ) (removal : Table.Removal) : Verdict β σ :=
  { externalPort := 0
    lifetime := 0
    changed := 0 < removal.count
    server := { server with table := removal.table, timers := removal.timers } }

/-- Decide a mapping request.  Internal port zero deletes every mapping of the
transport, lifetime zero deletes one; both go ahead without an external address,
and only creation is refused then. -/
def decideMapping (server : Server β σ) (request : MappingRequest) (client : Ipv4)
    (now : Int) : Logged (Verdict β σ) :=
  if request.internalPort = 0 then do
    let removal := server.table.remove server.timers request.transport client 0
    .info s!"{removal.count} mappings removed"
    return server.afterRemoval removal
  else if request.lifetime = 0 then do
    let removal := server.table.remove server.timers request.transport client
      request.internalPort
    .info "mapping removed"
    return server.afterRemoval removal
  else if server.gateway.hasExternalAddress then do
    let internal : Endpoint4 := ⟨client, request.internalPort⟩
    let external : Endpoint4 := ⟨server.gateway.externalAddress, request.externalPort⟩
    server.table.noteOverride request.transport internal external
    let grant := server.table.grant server.timers now request.transport internal external
      (seconds request.lifetime.toNat)
    return { externalPort := grant.externalPort
             lifetime := request.lifetime
             changed := grant.created
             server := { server with table := grant.table, timers := grant.timers } }
  else do
    .warn ("refusing " ++ request.transport.name ++ " mapping for " ++ client.text ++ ": " ++
      ResultCode.networkFailure.message)
    return { externalPort := 0, lifetime := 0, changed := false, server }

/-- The log line for a mapping request. -/
def requestLine (external : Ipv4) (request : MappingRequest) (client : Ipv4) : String :=
  let asked : Endpoint4 := ⟨external, request.externalPort⟩
  let reached : Endpoint4 := ⟨client, request.internalPort⟩
  request.transport.name ++ " request, " ++ asked.text ++ " -> " ++ reached.text ++
    s!", expires in {request.lifetime} seconds"

/-- Serve a mapping request and rebuild the rules if they changed. -/
def handleMapping (server : Server β σ) (request : MappingRequest) (client : Ipv4)
    (now : Int) : Logged (Handled β σ MappingResponse) := do
  .info (requestLine server.gateway.externalAddress request client)
  let verdict ← server.decideMapping request client now
  let after ← if verdict.changed then verdict.server.rebuildRules else pure verdict.server
  return { result :=
             { transport := request.transport
               result := server.availability
               epoch := server.gateway.epoch now
               internalPort := request.internalPort
               externalPort := verdict.externalPort
               lifetime := verdict.lifetime }
           server := after }

/-- The answer to an address request. -/
def addressResponse (server : Server β σ) (now : Int) : AddressResponse :=
  { result := server.availability
    epoch := server.gateway.epoch now
    address := server.gateway.externalAddress }

/-- Serve a request of the mapping protocol. -/
def handleMappingProtocol (server : Server β σ) (datagram : Octets) (peer : Endpoint)
    (now : Int) : Logged (Handled β σ (Option Octets)) :=
  match peer with
  | .v6 _ => do
      .debug ("Ignoring NAT-PMP request over IPv6 from " ++ peer.text)
      return ⟨none, server⟩
  | .v4 client =>
      match Request.decode datagram with
      | .error error => do
          .warn error.message
          return ⟨none, server⟩
      | .ok .externalAddress => pure ⟨some (server.addressResponse now).encode, server⟩
      | .ok (.mapping request) => do
          let handled ← server.handleMapping request client.address now
          return ⟨some handled.result.encode, handled.server⟩
      | .ok (.unsupported opcode datagram) => do
          .debug (s!"Unsupported opcode {opcode} from " ++ client.text)
          return ⟨some (opcodeRefusal datagram), server⟩

/-- Why a port control request is not served. -/
def controlRefusal (datagram : Octets) : String :=
  match ControlHeader.parse datagram with
  | .ok header => header.refusal
  | .error error => "malformed PCP request: " ++ error.message

/-- Refuse the version of a request. -/
def refuseVersion (server : Server β σ) (now : Int) : Handled β σ (Option Octets) :=
  ⟨some (versionRefusal (server.gateway.epoch now)), server⟩

/-- Handle a datagram from `peer` and return the reply to send there. -/
def handleDatagram (server : Server β σ) (datagram : Octets) (peer : Endpoint)
    (now : Int) : Logged (Handled β σ (Option Octets)) :=
  match Header.parse datagram with
  | .error error => do
      .debug ("Dropping datagram from " ++ peer.text ++ ": " ++ error.message)
      return ⟨none, server⟩
  | .ok header =>
      if header.version = mappingVersion then server.handleMappingProtocol datagram peer now
      else if header.version = controlVersion then do
        .info (controlRefusal datagram ++ " from " ++ peer.text ++ ", replying " ++
          ResultCode.unsupportedVersion.message)
        return server.refuseVersion now
      else do
        .warn (s!"bad version {header.version} request from " ++ peer.text)
        return server.refuseVersion now

end Server

end PortMapping
