import Mathlib.Logic.Function.Basic
import PortMapping.Proofs.TimerOwnership

/-!
# Mapping requests as updates of a map

To its clients a server is a ledger: a map from transports and internal endpoints
to leases, and the ports still to be drawn.  `Ledger.serve` says in a few lines
what a mapping request does to a ledger.  The table finds mappings by scanning a
list and keeps deadlines in a queue of timers, and yet every mapping request
updates it just so.
-/

namespace PortMapping

/-- The external endpoint that a client was granted, and when the grant ends. -/
structure Lease where
  external : Endpoint4
  deadline : Int
  deriving DecidableEq, Repr

/-- The leases by transport and internal endpoint, and the ports still to be drawn. -/
structure Ledger where
  leases : Transport × Endpoint4 → Option Lease
  ports : PortSource

namespace Ledger

/-- End some of the leases. -/
def drop (ledger : Ledger) (ended : Transport × Endpoint4 → Prop) [DecidablePred ended] :
    Ledger :=
  { ledger with leases := fun key => if ended key then none else ledger.leases key }

/-- Set the lease of a key. -/
def put (ledger : Ledger) (key : Transport × Endpoint4) (lease : Lease) : Ledger :=
  { ledger with leases := Function.update ledger.leases key (some lease) }

/-- Grant a lease.  One in force keeps its external endpoint.  A new one has the port of
the lease for the same endpoint under the other transport, if there is one, and draws a
port otherwise. -/
def grant (ledger : Ledger) (transport : Transport) (internal : Endpoint4) (address : Ipv4)
    (deadline : Int) : Ledger :=
  match ledger.leases (transport, internal) with
  | some lease => ledger.put (transport, internal) ⟨lease.external, deadline⟩
  | none =>
      match ledger.leases (transport.other, internal) with
      | some related =>
          ledger.put (transport, internal) ⟨⟨address, related.external.port⟩, deadline⟩
      | none =>
          { ledger with ports := ledger.ports.advance }.put (transport, internal)
            ⟨⟨address, ledger.ports.next⟩, deadline⟩

section Grant

variable {ledger : Ledger} {transport : Transport} {internal : Endpoint4} {lease : Lease}

theorem grant_of_present (present : ledger.leases (transport, internal) = some lease)
    (address : Ipv4) (deadline : Int) :
    ledger.grant transport internal address deadline =
      ledger.put (transport, internal) ⟨lease.external, deadline⟩ := by
  rw [grant, present]

theorem grant_of_related (absent : ledger.leases (transport, internal) = none)
    (related : ledger.leases (transport.other, internal) = some lease) (address : Ipv4)
    (deadline : Int) :
    ledger.grant transport internal address deadline =
      ledger.put (transport, internal) ⟨⟨address, lease.external.port⟩, deadline⟩ := by
  rw [grant, absent, related]

theorem grant_of_unrelated (absent : ledger.leases (transport, internal) = none)
    (unrelated : ledger.leases (transport.other, internal) = none) (address : Ipv4)
    (deadline : Int) :
    ledger.grant transport internal address deadline =
      { ledger with ports := ledger.ports.advance }.put (transport, internal)
        ⟨⟨address, ledger.ports.next⟩, deadline⟩ := by
  rw [grant, absent, unrelated]

end Grant

/-- What a mapping request does.  Internal port zero ends every lease of the client under
the transport, lifetime zero ends one, and only a grant needs an external address. -/
def serve (ledger : Ledger) (request : MappingRequest) (client : Ipv4)
    (external : Option Ipv4) (now : Int) : Ledger :=
  if request.internalPort = 0 then
    ledger.drop fun key => key.1 = request.transport ∧ key.2.address = client
  else if request.lifetime = 0 then
    ledger.drop fun key => key = (request.transport, ⟨client, request.internalPort⟩)
  else
    match external with
    | none => ledger
    | some address =>
        ledger.grant request.transport ⟨client, request.internalPort⟩ address
          (now + seconds request.lifetime.toNat)

end Ledger

theorem Ledger.drop_congr (ledger : Ledger) {first second : Transport × Endpoint4 → Prop}
    [DecidablePred first] [DecidablePred second] (same : ∀ key, first key ↔ second key) :
    ledger.drop first = ledger.drop second := by
  rw [drop, drop]
  congr 1
  funext key
  exact if_congr (same key) rfl rfl

/-! ## The ledger that a table keeps -/

namespace Table

variable {table : Table} {timers : TimerQueue TimerEvent}
variable {others : List (TimerId × TimerEvent)} {mapping : Mapping}
variable {transport : Transport} {internal : Endpoint4} {address : Ipv4} {port : UInt16}
variable {now : Int} {lifetime : Nat}

/-- The lease for a key: the external endpoint of its mapping and the deadline of the
mapping's timer. -/
def lease? (table : Table) (timers : TimerQueue TimerEvent) (key : Transport × Endpoint4) :
    Option Lease :=
  (table.get? key.1 key.2).bind fun mapping =>
    (timers.deadline? mapping.timer).map fun deadline => ⟨mapping.external, deadline⟩

/-- The ledger of a table. -/
def ledger (table : Table) (timers : TimerQueue TimerEvent) : Ledger :=
  ⟨table.lease? timers, table.ports⟩

theorem WellFormed.lease?_eq_some_iff (wf : table.WellFormed)
    {key : Transport × Endpoint4} {lease : Lease} :
    table.lease? timers key = some lease ↔
      ∃ mapping, table.Holds timers mapping lease.deadline ∧
        mapping.key = key ∧ mapping.external = lease.external := by
  constructor
  · intro found
    rcases Option.bind_eq_some_iff.mp found with ⟨mapping, mappingFound, rest⟩
    rcases Option.map_eq_some_iff.mp rest with ⟨deadline, pending, rfl⟩
    rcases mem_of_get?_eq_some mappingFound with ⟨member, keySame⟩
    exact ⟨mapping, ⟨member, pending⟩, keySame, rfl⟩
  · rintro ⟨mapping, ⟨member, pending⟩, rfl, external⟩
    have found : table.get? mapping.key.1 mapping.key.2 = some mapping :=
      wf.get?_eq_some_iff.mpr ⟨member, rfl⟩
    rw [lease?, found, Option.bind_some, pending, external]
    rfl

theorem lease?_of_get?_eq_none (absent : table.get? transport internal = none) :
    table.lease? timers (transport, internal) = none := by
  rw [lease?, absent]
  rfl

/-- The timer of every mapping being pending, every mapping has a lease. -/
theorem exists_lease (serves : timers.Serves (table.owners ++ others))
    (found : table.get? transport internal = some mapping) :
    ∃ deadline, table.lease? timers (transport, internal) =
      some ⟨mapping.external, deadline⟩ := by
  rcases exists_holds serves (mem_of_get?_eq_some found).1 with ⟨deadline, _, pending⟩
  refine ⟨deadline, ?_⟩
  rw [lease?, found, Option.bind_some, pending]
  rfl

theorem isSome_lease? (serves : timers.Serves (table.owners ++ others))
    (key : Transport × Endpoint4) :
    (table.lease? timers key).isSome = (table.get? key.1 key.2).isSome := by
  cases found : table.get? key.1 key.2 with
  | none =>
      rw [lease?_of_get?_eq_none found]
      rfl
  | some mapping =>
      rcases exists_lease serves found with ⟨deadline, lease⟩
      rw [lease]
      rfl

/-- Removal ends the leases of the endpoints it names. -/
theorem lease?_remove (wf : table.WellFormed)
    (serves : timers.Serves (table.owners ++ others)) (key : Transport × Endpoint4) :
    (table.remove timers transport address port).table.lease?
        (table.remove timers transport address port).timers key =
      if key.1 = transport ∧ key.2.address = address ∧ (port = 0 ∨ key.2.port = port) then none
      else table.lease? timers key := by
  apply Option.ext
  intro lease
  rw [(wf.remove timers transport address port).lease?_eq_some_iff]
  simp only [holds_remove serves]
  constructor
  · rintro ⟨mapping, ⟨holds, stays⟩, rfl, external⟩
    rw [if_neg fun named => by simp [Mapping.leadsTo_iff.mpr named] at stays]
    exact wf.lease?_eq_some_iff.mpr ⟨mapping, holds, rfl, external⟩
  · intro found
    split at found
    · contradiction
    next unnamed =>
      rcases wf.lease?_eq_some_iff.mp found with ⟨mapping, holds, rfl, external⟩
      have stays : mapping.leadsTo transport address port = false :=
        Bool.eq_false_iff.mpr fun leads => unnamed (Mapping.leadsTo_iff.mp leads)
      exact ⟨mapping, ⟨holds, stays⟩, rfl, external⟩

/-- Renewal sets the deadline of one lease. -/
theorem lease?_refresh (wf : table.WellFormed)
    (serves : timers.Serves (table.owners ++ others)) (member : mapping ∈ table.mappings) :
    (table.refresh timers now mapping lifetime).table.lease?
        (table.refresh timers now mapping lifetime).timers =
      Function.update (table.lease? timers) mapping.key
        (some ⟨mapping.external, now + lifetime⟩) := by
  have refreshed := wf.refresh serves.wellFormed mapping now lifetime
  funext key
  by_cases same : key = mapping.key
  · rw [same, Function.update_self]
    exact refreshed.lease?_eq_some_iff.mpr
      ⟨_, (holds_refresh wf serves member).mpr (.inl ⟨rfl, rfl⟩), rfl, rfl⟩
  · rw [Function.update_of_ne same]
    apply Option.ext
    intro lease
    rw [refreshed.lease?_eq_some_iff, wf.lease?_eq_some_iff]
    simp only [holds_refresh wf serves member]
    constructor
    · rintro ⟨other, ⟨rfl, _⟩ | ⟨holds, _⟩, rfl, external⟩
      · exact (same rfl).elim
      · exact ⟨other, holds, rfl, external⟩
    · rintro ⟨other, holds, rfl, external⟩
      have different : other.id ≠ mapping.id := fun idSame =>
        same (wf.eq_of_id_eq holds.1 member idSame ▸ rfl)
      exact ⟨other, .inr ⟨holds, different⟩, rfl, external⟩

/-- A new mapping adds one lease. -/
theorem lease?_create (wf : table.WellFormed)
    (serves : timers.Serves (table.owners ++ others))
    (absent : table.get? transport internal = none) :
    (table.create timers now transport internal address lifetime).table.lease?
        (table.create timers now transport internal address lifetime).timers =
      Function.update (table.lease? timers) (transport, internal)
        (some ⟨⟨address, (table.relatedPort? internal).getD table.ports.next⟩,
          now + lifetime⟩) := by
  have created : (table.create timers now transport internal address lifetime).table.WellFormed :=
    wf.create absent
  funext key
  by_cases same : key = (transport, internal)
  · rw [same, Function.update_self]
    exact created.lease?_eq_some_iff.mpr
      ⟨_, (holds_create serves).mpr (.inl ⟨rfl, rfl⟩), rfl, rfl⟩
  · rw [Function.update_of_ne same]
    apply Option.ext
    intro lease
    rw [created.lease?_eq_some_iff, wf.lease?_eq_some_iff]
    simp only [holds_create serves]
    constructor
    · rintro ⟨other, ⟨rfl, _⟩ | holds, rfl, external⟩
      · exact (same rfl).elim
      · exact ⟨other, holds, rfl, external⟩
    · rintro ⟨other, holds, rfl, external⟩
      exact ⟨other, .inr holds, rfl, external⟩

theorem ports_create :
    (table.create timers now transport internal address lifetime).table.ports =
      if (table.relatedPort? internal).isSome then table.ports else table.ports.advance := rfl

theorem ledger_remove (wf : table.WellFormed)
    (serves : timers.Serves (table.owners ++ others)) :
    (table.remove timers transport address port).table.ledger
        (table.remove timers transport address port).timers =
      (table.ledger timers).drop fun key =>
        key.1 = transport ∧ key.2.address = address ∧ (port = 0 ∨ key.2.port = port) := by
  rw [ledger, ledger, Ledger.drop]
  congr 1
  funext key
  exact lease?_remove wf serves key

/-- Creating and renewing mappings grants leases. -/
theorem ledger_grant (wf : table.WellFormed)
    (serves : timers.Serves (table.owners ++ others)) {external : Endpoint4} :
    (table.grant timers now transport internal external lifetime).table.ledger
        (table.grant timers now transport internal external lifetime).timers =
      (table.ledger timers).grant transport internal external.address (now + lifetime) := by
  cases found : table.get? transport internal with
  | some mapping =>
      rcases mem_of_get?_eq_some found with ⟨member, keySame⟩
      rcases exists_lease serves found with ⟨deadline, present⟩
      rw [Ledger.grant_of_present present, grant_of_some found, ledger,
        lease?_refresh wf serves member, keySame]
      rfl
  | none =>
      have absent : table.lease? timers (transport, internal) = none :=
        lease?_of_get?_eq_none found
      rw [grant_of_none found, ledger, lease?_create wf serves found, ports_create,
        wf.relatedPort?_eq found]
      cases related : table.get? transport.other internal with
      | none =>
          rw [Ledger.grant_of_unrelated absent (lease?_of_get?_eq_none related)]
          rfl
      | some mapping =>
          rcases exists_lease serves related with ⟨deadline, present⟩
          rw [Ledger.grant_of_related absent present]
          rfl

end Table

/-- The external address, if one is known. -/
def Gateway.address? (gateway : Gateway) : Option Ipv4 :=
  if gateway.hasExternalAddress then some gateway.externalAddress else none

namespace Server

variable {β σ : Type} {server : Server β σ}

/-- What clients were granted by a server. -/
def ledger (server : Server β σ) : Ledger := server.table.ledger server.timers

theorem Consistent.ledger_decideMapping (consistent : server.Consistent)
    (request : MappingRequest) (client : Ipv4) (now : Int) :
    (server.decideMapping request client now).value.server.ledger =
      server.ledger.serve request client server.gateway.address? now := by
  cases deletes : request.deletes with
  | true =>
      rw [decideMapping_of_deletes server client now deletes]
      refine (Table.ledger_remove consistent.table consistent.timers).trans ?_
      unfold Ledger.serve
      by_cases wildcard : request.internalPort = 0
      · rw [if_pos wildcard]
        apply Ledger.drop_congr
        intro key
        simp only [wildcard, true_or, and_true]
      · have noLifetime : request.lifetime = 0 := by
          simpa [MappingRequest.deletes, wildcard] using deletes
        rw [if_neg wildcard, if_pos noLifetime]
        apply Ledger.drop_congr
        rintro ⟨transport, address, port⟩
        simp only [wildcard, false_or, Prod.mk.injEq, Endpoint4.mk.injEq]
  | false =>
      have asks : ¬request.internalPort = 0 ∧ ¬request.lifetime = 0 := by
        simpa [MappingRequest.deletes] using deletes
      unfold Ledger.serve
      rw [if_neg asks.1, if_neg asks.2, Gateway.address?]
      cases known : server.gateway.hasExternalAddress with
      | true =>
          rw [decideMapping_of_grants server client now deletes known]
          exact Table.ledger_grant consistent.table consistent.timers
      | false =>
          rw [decideMapping_of_refuses server client now deletes known]
          rfl

variable [Backend β]

theorem ledger_handleMapping (server : Server β σ) (request : MappingRequest) (client : Ipv4)
    (now : Int) :
    (server.handleMapping request client now).value.server.ledger =
      (server.decideMapping request client now).value.server.ledger := by
  rcases exists_rules_handleMapping server request client now with ⟨rules, handled⟩
  rw [handled]
  rfl

/-- A request for a mapping changes nothing while no external address is known. -/
theorem handleMapping_of_refuses (server : Server β σ) {request : MappingRequest}
    (client : Ipv4) (now : Int) (asks : request.deletes = false)
    (unknown : server.gateway.hasExternalAddress = false) :
    (server.handleMapping request client now).value.server = server := by
  rw [server_handleMapping, decideMapping_of_refuses server client now asks unknown]
  rfl

variable [AddressSource σ]

/-- In every state that a run reaches, a mapping request updates the ledger by the policy.
The ledger has a lease for just the endpoints that have a mapping, and a refused request
leaves all of the server as it was. -/
theorem ledger_handleDatagram (reachable : server.Reachable) {datagram : Octets}
    {request : MappingRequest} (version : datagram.at8 0 = mappingVersion)
    (decoded : Request.decode datagram = .ok (.mapping request)) (peer : Endpoint4)
    (now : Int) :
    let after := (server.handleDatagram datagram (.v4 peer) now).value.server
    (∀ key, (server.ledger.leases key).isSome = (server.table.get? key.1 key.2).isSome) ∧
      after.ledger = server.ledger.serve request peer.address server.gateway.address? now ∧
      (request.deletes = false → server.gateway.address? = none → after = server) := by
  intro after
  have consistent := reachable.consistent
  have served := mappingRequest?_of_decode version decoded peer
  have handled : after = (server.handleMapping request peer.address now).value.server := by
    simp only [after, handleDatagram_of_some server now served]
  rw [handled]
  refine ⟨Table.isSome_lease? consistent.timers, ?_, ?_⟩
  · rw [ledger_handleMapping, consistent.ledger_decideMapping]
  · intro asks noAddress
    apply handleMapping_of_refuses server peer.address now asks
    cases known : server.gateway.hasExternalAddress with
    | false => rfl
    | true => simp [Gateway.address?, known] at noAddress

/-- A client that has a port under one transport is granted the same port under the
other. -/
theorem ledger_handleDatagram_related :
    let client : Ipv4 := ⟨10, 0, 0, 5⟩
    let server := atOneInterface.run
      [.call (.checkInterface 0), .call (.ask client ⟨.udp, 80, 0, 60⟩ 0)]
    let asked := MappingRequest.encode ⟨.tcp, 80, 0, 60⟩
    server.Reachable ∧ asked.at8 0 = mappingVersion ∧
      Request.decode asked = .ok (.mapping ⟨.tcp, 80, 0, 60⟩) ∧
      (server.handleDatagram asked (.v4 ⟨client, clientPort⟩)
          (seconds 1)).value.server.ledger.leases (.tcp, ⟨client, 80⟩) =
        some ⟨⟨⟨198, 51, 100, 1⟩, 50000⟩, seconds 61⟩ := by
  have reachable := reachable_atOneInterface.run
    [.call (.checkInterface 0), .call (.ask ⟨10, 0, 0, 5⟩ ⟨.udp, 80, 0, 60⟩ 0)]
  have decoded := MappingRequest.decode_encode ⟨.tcp, 80, 0, 60⟩
  have updated :=
    ledger_handleDatagram reachable rfl decoded ⟨⟨10, 0, 0, 5⟩, clientPort⟩ (seconds 1)
  refine ⟨reachable, rfl, decoded, ?_⟩
  rw [updated.2.1]
  rfl

end Server

end PortMapping
