import PortMapping.Proofs.Announcements
import PortMapping.Proofs.DependableFilters
import PortMapping.Proofs.Lifetimes
import PortMapping.Proofs.Redirections

/-!
# What an answer of success promises

A request that is answered with success has its redirection, at the port that the answer
names.  The external address is the one the gateway had when the redirection was added: a
request for a mapping that stands renews it and changes nothing else, also when the gateway
has moved since.  So the address is the present one just as long as the gateway has stayed.
-/

namespace PortMapping

namespace Server

variable {β σ : Type} [Backend β] [AddressSource σ]

/-- A redirection leads from the present address if the gateway has stayed since it was
added. -/
theorem StandsSince.address_eq {first : Server β σ} (reachable : first.Reachable)
    {rule : RedirectRule} {earlier later : List (Step β σ)} {created : Step β σ}
    (since : first.StandsSince rule earlier created later)
    (stays : (first.run (earlier ++ [created])).Along Stays later) :
    rule.external.address =
      (first.run (earlier ++ created :: later)).gateway.externalAddress := by
  have split : earlier ++ created :: later = (earlier ++ [created]) ++ later := by simp
  rw [since.address, split, run_append,
    (reachable.run _).consistent.gateway_run_of_stays stays, since.gateway]

/-- A request for a mapping that is answered with success has its redirection, at the port
that the answer names, whether it was added or had been there.  It has stood since the step
that added it, and leads from the address that the gateway had then, which is the present
one if the gateway has stayed since.  Over a dependable filter it is in force. -/
theorem redirection_of_success {rules : Synchronizer β} {monitor : Monitor σ} {startTime : Int}
    {ports : PortSource} {steps : List (Step β σ)} {datagram : Octets} {peer : Endpoint}
    {request : MappingRequest} {client : Ipv4}
    (served : mappingRequest? datagram peer = some (request, client))
    (port : request.internalPort ≠ 0) (lifetime : request.lifetime ≠ 0) {now : Int}
    {reply : Octets} {response : MappingResponse}
    (answered : (((new rules monitor startTime ports).run steps).handleDatagram datagram peer
      now).value.result = some reply)
    (read : MappingResponse.parse reply = .ok response) (success : response.result = .success) :
    let first := new rules monitor startTime ports
    let asks : Step β σ := .call (.datagram datagram peer now)
    let after := first.run (steps ++ [asks])
    ∃ mapping ∈ after.table.mappings,
      mapping.transport = request.transport ∧
        mapping.internal = ⟨client, request.internalPort⟩ ∧
        mapping.external.port = response.externalPort ∧
        (∃ earlier created later,
          steps ++ [asks] = earlier ++ created :: later ∧
            first.StandsSince (.ofMapping mapping) earlier created later ∧
            ((first.run (earlier ++ [created])).Along Stays later →
              mapping.external.address = after.gateway.externalAddress)) ∧
        ∀ filter : Dependable β, filter.Sound rules.backend →
          (∀ step ∈ steps, filter.Spares step) →
            .ofMapping mapping ∈ filter.active after.rules.backend := by
  intro first asks after
  have reachable : first.Reachable := reachable_new rules monitor startTime ports
  have wants : request.deletes = false := by
    simp [MappingRequest.deletes, port, lifetime]
  rcases (reachable.run steps).consistent.exists_holds_of_success served wants answered read
    success with ⟨mapping, holds, key, externalPort⟩
  have last : after = ((first.run steps).handleDatagram datagram peer now).value.server :=
    run_append first steps [asks]
  have member : mapping ∈ after.table.mappings := by
    rw [last]
    exact holds.1
  have redirected : RedirectRule.ofMapping mapping ∈ after.redirects :=
    mem_redirects.mpr ⟨mapping, member, rfl⟩
  rcases Prod.mk.inj key with ⟨transport, internal⟩
  refine ⟨mapping, member, transport, internal, externalPort, ?_, ?_⟩
  · rcases exists_standsSince rfl redirected with ⟨earlier, created, later, split, since⟩
    refine ⟨earlier, created, later, split, since, ?_⟩
    intro stays
    have present := since.address_eq reachable stays
    rw [← split] at present
    exact present
  · intro filter sound spares
    apply filter.mem_active_of_run sound monitor startTime ports _ redirected
    intro step among
    rcases List.mem_append.mp among with among | isLast
    · exact spares step among
    · rw [List.mem_singleton.mp isLast]
      trivial

/-- A client is granted a port, then the gateway moves to another address. -/
def movedGateway : List (Step MemoryFilter AddressTable) :=
  [.call .start, .call (.checkInterface 0),
    .call (.ask ⟨10, 0, 0, 5⟩ ⟨.udp, 45000, 0, 3600⟩ (seconds 1)),
    .addresses (·.set "em0" [.v4 ⟨203, 0, 113, 9⟩]), .call (.checkInterface (seconds 2))]

/-- The client renews its port. -/
def renewal : MappingRequest := ⟨.udp, 45000, 0, 3600⟩

/-- The client that renews. -/
def renewing : Endpoint4 := ⟨⟨10, 0, 0, 5⟩, clientPort⟩

/-- Renewed after the gateway has moved, the redirection leads from the address of before:
neither a mapping nor a rule is at the present address and the port that the answer names. -/
theorem former_address_of_movedGateway :
    let server := atOneInterface.run movedGateway
    let renewed := (server.handleDatagram renewal.encode (.v4 renewing) (seconds 3)).value
    server.Reachable ∧ server.gateway.externalAddress = ⟨203, 0, 113, 9⟩ ∧
      mappingRequest? renewal.encode (.v4 renewing) = some (renewal, renewing.address) ∧
      ∃ reply response,
        renewed.result = some reply ∧ MappingResponse.parse reply = .ok response ∧
          response.result = .success ∧
          (∀ mapping ∈ renewed.server.table.mappings,
            mapping.external ≠ ⟨⟨203, 0, 113, 9⟩, response.externalPort⟩) ∧
          ∀ rule ∈ renewed.server.rules.backend.active,
            rule.external ≠ ⟨⟨203, 0, 113, 9⟩, response.externalPort⟩ := by
  intro server renewed
  have reachable : server.Reachable := reachable_atOneInterface.run _
  have served := mappingRequest?_encode renewal renewing
  have answered := congrArg Handled.result (handleDatagram_of_some server (seconds 3) served)
  have read := MappingResponse.parse_encode
    (server.handleMapping renewal ⟨10, 0, 0, 5⟩ (seconds 3)).value.result
  refine ⟨reachable, rfl, served, _, _, answered, read, rfl, ?_, ?_⟩
  · decide
  · decide

/-- The renewed redirection is in force, at the address it was added with. -/
theorem redirection_of_movedGateway :
    let server := atOneInterface.run movedGateway
    let renewed := (server.handleDatagram renewal.encode (.v4 renewing) (seconds 3)).value
    mappingRequest? renewal.encode (.v4 renewing) = some (renewal, renewing.address) ∧
      ∃ reply response,
        renewed.result = some reply ∧ MappingResponse.parse reply = .ok response ∧
          response.result = .success ∧
          ∃ mapping ∈ renewed.server.table.mappings,
            mapping.internal = ⟨⟨10, 0, 0, 5⟩, 45000⟩ ∧
              mapping.external.port = response.externalPort ∧
              .ofMapping mapping ∈ renewed.server.rules.backend.active := by
  intro server renewed
  have served := mappingRequest?_encode renewal renewing
  have answered := congrArg Handled.result (handleDatagram_of_some server (seconds 3) served)
  have read := MappingResponse.parse_encode
    (server.handleMapping renewal ⟨10, 0, 0, 5⟩ (seconds 3)).value.result
  have spares : ∀ step ∈ movedGateway, MemoryFilter.dependable.Spares step := by
    simp only [movedGateway, List.forall_mem_cons]
    exact ⟨trivial, trivial, trivial, trivial, trivial, nofun⟩
  rcases redirection_of_success served (by decide) (by decide) answered read rfl with
    ⟨mapping, member, _, internal, port, _, inForce⟩
  exact ⟨served, _, _, answered, read, rfl, mapping, member, internal, port,
    inForce MemoryFilter.dependable ⟨rfl, rfl⟩ spares⟩

end Server

end PortMapping
