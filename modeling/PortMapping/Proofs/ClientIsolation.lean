import PortMapping.Proofs.FilterIndependence
import PortMapping.Proofs.Lifetimes
import PortMapping.Proofs.Redirections
import PortMapping.Proofs.RequestPolicy

/-!
# Clients learn nothing about each other

What a client is told, and which ports are drawn for it, depends on its own mappings, on the
gateway and on the ports still to be drawn.  Mappings of other clients can be what they like:
two servers that agree on all but those go on in step for as long as only this client is
served.  Ledgers come first, since serving a request is simplest there.
-/

namespace PortMapping

/-- The port of a lease and when it ends.  The external address is left out: no client is
told the address that its mapping was made for. -/
def Lease.terms (lease : Lease) : UInt16 × Int := (lease.external.port, lease.deadline)

/-! ## Ledgers to one client -/

namespace Ledger

/-- The terms of the lease of a key, if there is one. -/
def terms? (ledger : Ledger) (key : Transport × Endpoint4) : Option (UInt16 × Int) :=
  (ledger.leases key).map Lease.terms

/-- To one client two ledgers are the same: it has the same leases by both, and the same
ports are drawn from both. -/
structure SameFor (client : Ipv4) (left right : Ledger) : Prop where
  ports : left.ports = right.ports
  terms : ∀ key, key.2.address = client → left.terms? key = right.terms? key

namespace SameFor

variable {client : Ipv4} {left right : Ledger}

/-- Either neither ledger has a lease for a key of the client, or both on the same terms. -/
theorem leases (same : SameFor client left right) (key : Transport × Endpoint4)
    (own : key.2.address = client) :
    left.leases key = none ∧ right.leases key = none ∨
      ∃ leftLease rightLease, left.leases key = some leftLease ∧
        right.leases key = some rightLease ∧ leftLease.terms = rightLease.terms := by
  have terms := same.terms key own
  rw [terms?, terms?] at terms
  cases leftFound : left.leases key with
  | none =>
      rw [leftFound] at terms
      exact .inl ⟨rfl, Option.map_eq_none_iff.mp terms.symm⟩
  | some leftLease =>
      rw [leftFound] at terms
      rcases Option.map_eq_some_iff.mp terms.symm with ⟨rightLease, rightFound, equal⟩
      exact .inr ⟨leftLease, rightLease, rfl, rightFound, equal.symm⟩

theorem drop (same : SameFor client left right) (ended : Transport × Endpoint4 → Prop)
    [DecidablePred ended] : SameFor client (left.drop ended) (right.drop ended) where
  ports := same.ports
  terms key own := by
    simp only [terms?, Ledger.drop]
    split
    · rfl
    · exact same.terms key own

theorem put (same : SameFor client left right) (key : Transport × Endpoint4)
    {leftLease rightLease : Lease} (terms : leftLease.terms = rightLease.terms) :
    SameFor client (left.put key leftLease) (right.put key rightLease) where
  ports := same.ports
  terms other own := by
    simp only [terms?, Ledger.put, Function.update_apply]
    split
    · exact congrArg some terms
    · exact same.terms other own

/-- A lease that is granted has the same port by both ledgers, kept, shared or drawn. -/
theorem grant (same : SameFor client left right) (transport : Transport)
    {internal : Endpoint4} (own : internal.address = client) (address : Ipv4)
    (deadline : Int) :
    SameFor client (left.grant transport internal address deadline)
      (right.grant transport internal address deadline) := by
  have present := same.leases (transport, internal) own
  rcases present with ⟨leftAbsent, rightAbsent⟩ | ⟨leftLease, rightLease, leftIn, rightIn, terms⟩
  · have related := same.leases (transport.other, internal) own
    rcases related with ⟨leftNone, rightNone⟩ | ⟨leftLease, rightLease, leftIn, rightIn, terms⟩
    · rw [grant_of_unrelated leftAbsent leftNone, grant_of_unrelated rightAbsent rightNone,
        same.ports]
      have advanced : SameFor client { left with ports := right.ports.advance }
          { right with ports := right.ports.advance } := ⟨rfl, same.terms⟩
      exact advanced.put _ rfl
    · rw [grant_of_related leftAbsent leftIn, grant_of_related rightAbsent rightIn]
      exact same.put _ (congrArg (·.1, deadline) terms)
  · rw [grant_of_present leftIn, grant_of_present rightIn]
    exact same.put _ (congrArg (·.1, deadline) terms)

/-- A client's request leaves ledgers the same to it. -/
theorem serve (same : SameFor client left right) (request : MappingRequest)
    (external : Option Ipv4) (now : Int) :
    SameFor client (left.serve request client external now)
      (right.serve request client external now) := by
  unfold Ledger.serve
  by_cases wildcard : request.internalPort = 0
  · simp only [if_pos wildcard]
    exact same.drop _
  · by_cases deletion : request.lifetime = 0
    · simp only [if_neg wildcard, if_pos deletion]
      exact same.drop _
    · simp only [if_neg wildcard, if_neg deletion]
      cases external with
      | none => exact same
      | some address => exact same.grant request.transport rfl address _

end SameFor

end Ledger

/-! ## Servers to one client -/

/-- What a client has been granted: a port until a deadline. -/
structure PortGrant where
  transport : Transport
  internal : Endpoint4
  externalPort : UInt16
  deadline : Int
  deriving DecidableEq, Repr

namespace Server

variable {β γ σ τ : Type} {client : Ipv4}

/-- The grants of a client. -/
def grantsOf (server : Server β σ) (client : Ipv4) : List PortGrant :=
  server.table.mappings.filterMap fun mapping =>
    if mapping.internal.address = client then
      (server.timers.deadline? mapping.timer).map fun deadline =>
        ⟨mapping.transport, mapping.internal, mapping.external.port, deadline⟩
    else none

theorem mem_grantsOf {server : Server β σ} {grant : PortGrant} :
    grant ∈ server.grantsOf client ↔
      grant.internal.address = client ∧
        ∃ mapping, server.Holds mapping grant.deadline ∧
          mapping.key = (grant.transport, grant.internal) ∧
          mapping.external.port = grant.externalPort := by
  rw [grantsOf, List.mem_filterMap]
  constructor
  · rintro ⟨mapping, member, granted⟩
    split at granted
    next own =>
      rcases Option.map_eq_some_iff.mp granted with ⟨deadline, pending, rfl⟩
      exact ⟨own, mapping, ⟨member, pending⟩, rfl, rfl⟩
    · contradiction
  · rintro ⟨own, mapping, ⟨member, pending⟩, key, port⟩
    rcases Prod.mk.inj key with ⟨transport, internal⟩
    refine ⟨mapping, member, ?_⟩
    rw [internal, if_pos own, pending, transport, port]
    rfl

/-- A mapping in force is a lease. -/
theorem Consistent.terms?_of_holds {server : Server β σ} (consistent : server.Consistent)
    {mapping : Mapping} {deadline : Int} (holds : server.Holds mapping deadline) :
    server.ledger.terms? mapping.key = some (mapping.external.port, deadline) := by
  have lease : server.ledger.leases mapping.key = some ⟨mapping.external, deadline⟩ :=
    consistent.table.lease?_eq_some_iff.mpr ⟨mapping, holds, rfl, rfl⟩
  rw [Ledger.terms?, lease]
  rfl

/-- The grants of a client are the leases of its endpoints. -/
theorem Consistent.mem_grantsOf_iff_terms {server : Server β σ} (consistent : server.Consistent)
    {grant : PortGrant} :
    grant ∈ server.grantsOf client ↔
      grant.internal.address = client ∧
        server.ledger.terms? (grant.transport, grant.internal) =
          some (grant.externalPort, grant.deadline) := by
  rw [mem_grantsOf]
  apply and_congr_right
  intro _
  constructor
  · rintro ⟨mapping, holds, key, port⟩
    rw [← key, ← port]
    exact consistent.terms?_of_holds holds
  · intro granted
    rcases Option.map_eq_some_iff.mp granted with ⟨lease, found, terms⟩
    rcases consistent.table.lease?_eq_some_iff.mp found with ⟨mapping, holds, key, external⟩
    rcases Prod.mk.inj terms with ⟨port, deadline⟩
    rw [← deadline, ← port, ← external]
    exact ⟨mapping, holds, key, rfl⟩

/-- Firing ends the grants whose deadlines have passed. -/
theorem Consistent.mem_grantsOf_fireTimers [Backend β] {server : Server β σ}
    (consistent : server.Consistent) {grant : PortGrant} (now : Int) :
    grant ∈ (server.fireTimers now).value.server.grantsOf client ↔
      grant ∈ server.grantsOf client ∧ now < grant.deadline := by
  rw [mem_grantsOf, mem_grantsOf]
  simp only [consistent.holds_fireTimers now]
  constructor
  · rintro ⟨own, mapping, ⟨holds, early⟩, granted⟩
    exact ⟨⟨own, mapping, holds, granted⟩, early⟩
  · rintro ⟨⟨own, mapping, holds, granted⟩, early⟩
    exact ⟨own, mapping, ⟨holds, early⟩, granted⟩

/-- Two servers agree for a client: it has the same grants by both, and the gateway and the
ports still to be drawn are the same.  Nothing is said of other clients. -/
structure AgreeFor (client : Ipv4) (left : Server β σ) (right : Server γ τ) : Prop where
  gateway : left.gateway = right.gateway
  ports : left.table.ports = right.table.ports
  grants : ∀ grant, grant ∈ left.grantsOf client ↔ grant ∈ right.grantsOf client

section Ledgers

variable {left : Server β σ} {right : Server γ τ}
variable (leftConsistent : left.Consistent) (rightConsistent : right.Consistent)

include leftConsistent rightConsistent

theorem AgreeFor.ledger (agree : AgreeFor client left right) :
    left.ledger.SameFor client right.ledger where
  ports := agree.ports
  terms key own := by
    apply Option.ext
    intro terms
    have grants := agree.grants ⟨key.1, key.2, terms.1, terms.2⟩
    rw [leftConsistent.mem_grantsOf_iff_terms, rightConsistent.mem_grantsOf_iff_terms] at grants
    exact (and_congr_right_iff.mp grants) own

theorem agreeFor_of_ledger (gateway : left.gateway = right.gateway)
    (same : left.ledger.SameFor client right.ledger) : AgreeFor client left right where
  gateway := gateway
  ports := same.ports
  grants grant := by
    rw [leftConsistent.mem_grantsOf_iff_terms, rightConsistent.mem_grantsOf_iff_terms]
    apply and_congr_right
    intro own
    rw [same.terms (grant.transport, grant.internal) own]

end Ledgers

/-! ## One call of a client -/

/-- The decision on a request gives the client the port that its lease then has. -/
theorem Consistent.terms?_decideMapping {server : Server β σ} (consistent : server.Consistent)
    {request : MappingRequest} {now : Int} (asks : request.deletes = false)
    (known : server.gateway.hasExternalAddress = true) :
    (server.decideMapping request client now).value.server.ledger.terms?
        (request.transport, request.internal client) =
      some ((server.decideMapping request client now).value.externalPort,
        now + request.duration) := by
  rcases consistent.exists_holds_decideMapping asks known with ⟨mapping, holds, key, port⟩
  rw [← key, ← port]
  exact (consistent.decideMapping request client now).terms?_of_holds holds

/-- An endpoint without a mapping has no lease, and the other way round. -/
theorem Consistent.terms?_eq_none_iff {server : Server β σ} (consistent : server.Consistent)
    (transport : Transport) (internal : Endpoint4) :
    server.ledger.terms? (transport, internal) = none ↔
      server.table.get? transport internal = none := by
  have served : (server.ledger.leases (transport, internal)).isSome =
      (server.table.get? transport internal).isSome :=
    Table.isSome_lease? consistent.timers (transport, internal)
  rw [Ledger.terms?, Option.map_eq_none_iff, ← Option.not_isSome_iff_eq_none, served,
    Option.not_isSome_iff_eq_none]

/-- A request draws a port if it is granted and its endpoint has no lease at all. -/
theorem Consistent.draw?_of_served {server : Server β σ} (consistent : server.Consistent)
    {datagram : Octets} {peer : Endpoint} {request : MappingRequest}
    (served : mappingRequest? datagram peer = some (request, client)) (now : Int) :
    server.draw? (.call (.datagram datagram peer now)) =
      if (request.deletes = false ∧ server.gateway.hasExternalAddress = true ∧
          server.ledger.terms? (request.transport, request.internal client) = none) ∧
          server.ledger.terms? (request.transport.other, request.internal client) = none then
        some server.table.ports.next
      else none := by
  simp only [draw?, newKey?, served, consistent.terms?_eq_none_iff]
  by_cases adds : request.deletes = false ∧ server.gateway.hasExternalAddress = true ∧
      server.table.get? request.transport (request.internal client) = none
  · simp only [if_pos adds, consistent.table.relatedPort?_eq adds.2.2]
    cases related : server.table.get? request.transport.other (request.internal client) with
    | none => simp [adds]
    | some mapping => simp
  · rw [if_neg adds, if_neg fun both => adds both.1]

section Decisions

variable {left : Server β σ} {right : Server γ τ}
variable (leftConsistent : left.Consistent) (rightConsistent : right.Consistent)

include leftConsistent rightConsistent

/-- A client is told the port and the lifetime that go with its lease, so it is told the same
where it has a lease on the same terms afterwards. -/
theorem told_of_terms (gateway : left.gateway = right.gateway) (request : MappingRequest)
    (now : Int)
    (terms : (left.decideMapping request client now).value.server.ledger.terms?
        (request.transport, request.internal client) =
      (right.decideMapping request client now).value.server.ledger.terms?
        (request.transport, request.internal client)) :
    (left.decideMapping request client now).value.externalPort =
        (right.decideMapping request client now).value.externalPort ∧
      (left.decideMapping request client now).value.lifetime =
        (right.decideMapping request client now).value.lifetime := by
  cases deletes : request.deletes with
  | true =>
      simp only [decideMapping_of_deletes _ client now deletes]
      exact ⟨rfl, rfl⟩
  | false =>
      cases known : left.gateway.hasExternalAddress with
      | false =>
          have alsoUnknown : right.gateway.hasExternalAddress = false := gateway ▸ known
          simp only [decideMapping_of_refuses left client now deletes known,
            decideMapping_of_refuses right client now deletes alsoUnknown, and_self]
      | true =>
          have alsoKnown : right.gateway.hasExternalAddress = true := gateway ▸ known
          rw [leftConsistent.terms?_decideMapping deletes known,
            rightConsistent.terms?_decideMapping deletes alsoKnown] at terms
          refine ⟨(Prod.mk.inj (Option.some.inj terms)).1, ?_⟩
          simp only [decideMapping_of_grants left client now deletes known,
            decideMapping_of_grants right client now deletes alsoKnown]

/-- Servers that agree for a client decide its requests alike and agree after that. -/
theorem AgreeFor.decideMapping (agree : AgreeFor client left right) (request : MappingRequest)
    (now : Int) :
    let leftVerdict := (left.decideMapping request client now).value
    let rightVerdict := (right.decideMapping request client now).value
    leftVerdict.externalPort = rightVerdict.externalPort ∧
      leftVerdict.lifetime = rightVerdict.lifetime ∧
      AgreeFor client leftVerdict.server rightVerdict.server := by
  intro leftVerdict rightVerdict
  have gateway : leftVerdict.server.gateway = rightVerdict.server.gateway := by
    rcases server_decideMapping left request client now with ⟨_, _, leftSame⟩
    rcases server_decideMapping right request client now with ⟨_, _, rightSame⟩
    simp only [leftVerdict, rightVerdict, leftSame, rightSame]
    exact agree.gateway
  have ledger : leftVerdict.server.ledger.SameFor client rightVerdict.server.ledger := by
    have same := agree.ledger leftConsistent rightConsistent
    simp only [leftVerdict, rightVerdict, leftConsistent.ledger_decideMapping,
      rightConsistent.ledger_decideMapping, agree.gateway]
    exact same.serve request _ now
  have after := agreeFor_of_ledger (leftConsistent.decideMapping request client now)
    (rightConsistent.decideMapping request client now) gateway ledger
  have terms := ledger.terms (request.transport, request.internal client) rfl
  have told := told_of_terms leftConsistent rightConsistent agree.gateway request now terms
  exact ⟨told.1, told.2, after⟩

/-- The same port is drawn for a request of the client, if any is. -/
theorem AgreeFor.draw?_of_served (agree : AgreeFor client left right) {datagram : Octets}
    {peer : Endpoint} {request : MappingRequest}
    (served : mappingRequest? datagram peer = some (request, client)) (now : Int) :
    left.draw? (.call (.datagram datagram peer now)) =
      right.draw? (.call (.datagram datagram peer now)) := by
  have ledger := agree.ledger leftConsistent rightConsistent
  rw [leftConsistent.draw?_of_served served, rightConsistent.draw?_of_served served,
    agree.gateway, agree.ports, ledger.terms (request.transport, request.internal client) rfl,
    ledger.terms (request.transport.other, request.internal client) rfl]

end Decisions

end Server

/-- The reply that an answer carries to a client. -/
def Answer.reply? : Answer → Option Octets
  | .reply octets => octets
  | _ => none

/-- A call that no other client has a part in: a datagram of the client, from whatever port,
or the firing of timers. -/
def Call.OnlyOf (client : Ipv4) : Call → Prop
  | .datagram _ peer _ => ∃ port, peer = .v4 ⟨client, port⟩
  | .fireTimers _ => True
  | _ => False

/-- A step that no other client has a part in. -/
def Step.OnlyOf {β σ : Type} (client : Ipv4) : Step β σ → Prop
  | .call made => made.OnlyOf client
  | _ => True

/-- What came of a call for a client: the reply, and the port that was drawn. -/
structure Exchange where
  reply : Option Octets
  drawn : Option UInt16
  deriving DecidableEq, Repr

/-- A request is served for the client that sent it. -/
theorem client_of_mappingRequest? {datagram : Octets} {peer : Endpoint4}
    {request : MappingRequest} {client : Ipv4}
    (served : mappingRequest? datagram (.v4 peer) = some (request, client)) :
    client = peer.address := by
  simp only [mappingRequest?] at served
  split at served
  · contradiction
  · split at served
    · split at served
      · exact (Prod.mk.inj (Option.some.inj served)).2.symm
      · contradiction
    · contradiction

namespace Server

variable {β γ σ : Type} {client : Ipv4}

section Calls

variable [Backend β] [Backend γ] [AddressSource σ]

/-- What came of a call for a client. -/
def exchange (server : Server β σ) (call : Call) : List Exchange :=
  [⟨(server.respond call).result.reply?, server.draw? (.call call)⟩]

theorem exchange_withRules (server : Server β σ) (rules : Synchronizer γ) (call : Call) :
    server.exchange call = (server.withRules rules).exchange call := by
  have visible : ∀ answer : Answer, answer.reply? = answer.visible.reply? := by
    intro answer
    cases answer <;> rfl
  have drawn : server.draw? (.call call) = (server.withRules rules).draw? (.call call) := by
    cases call <;> rfl
  rw [exchange, exchange, visible, (alike_respond server rules call).1, ← visible, drawn]

variable {left : Server β σ} {right : Server γ σ}

/-- A request is answered alike at the same gateway where its client is told the same. -/
theorem result_respond_of_told (gateway : left.gateway = right.gateway) {datagram : Octets}
    {peer : Endpoint} {request : MappingRequest}
    (served : mappingRequest? datagram peer = some (request, client)) (now : Int)
    (told : (left.decideMapping request client now).value.externalPort =
        (right.decideMapping request client now).value.externalPort ∧
      (left.decideMapping request client now).value.lifetime =
        (right.decideMapping request client now).value.lifetime) :
    (left.respond (.datagram datagram peer now)).result =
      (right.respond (.datagram datagram peer now)).result := by
  have available : left.availability = right.availability := by
    rw [availability, availability, gateway]
  simp only [Server.respond, Handled.answer, handleDatagram_of_some left now served,
    handleDatagram_of_some right now served, result_handleMapping, available, gateway,
    told.1, told.2]

/-- A request of the client is answered alike, at the same port. -/
theorem AgreeFor.respond_of_served (agree : AgreeFor client left right)
    (leftConsistent : left.Consistent) (rightConsistent : right.Consistent)
    {datagram : Octets} {peer : Endpoint} {request : MappingRequest}
    (served : mappingRequest? datagram peer = some (request, client)) (now : Int) :
    left.exchange (.datagram datagram peer now) = right.exchange (.datagram datagram peer now) ∧
      AgreeFor client (left.respond (.datagram datagram peer now)).server
        (right.respond (.datagram datagram peer now)).server := by
  have decided := agree.decideMapping leftConsistent rightConsistent request now
  have drawn := agree.draw?_of_served leftConsistent rightConsistent served now
  have answered := result_respond_of_told agree.gateway served now ⟨decided.1, decided.2.1⟩
  constructor
  · rw [exchange, exchange, drawn, answered]
  · simp only [Server.respond, Handled.answer, handleDatagram_of_some left now served,
      handleDatagram_of_some right now served]
    rcases exists_rules_handleMapping left request client now with ⟨_, leftHandled⟩
    rcases exists_rules_handleMapping right request client now with ⟨_, rightHandled⟩
    rw [leftHandled, rightHandled]
    exact ⟨decided.2.2.gateway, decided.2.2.ports, decided.2.2.grants⟩

/-- A call of the client: it gets the same from both servers, and they agree again. -/
theorem AgreeFor.respond (agree : AgreeFor client left right) (leftConsistent : left.Consistent)
    (rightConsistent : right.Consistent) {call : Call} (own : call.OnlyOf client) :
    left.exchange call = right.exchange call ∧
      AgreeFor client (left.respond call).server (right.respond call).server := by
  cases call with
  | datagram datagram peer now =>
      rcases own with ⟨port, rfl⟩
      cases served : mappingRequest? datagram (.v4 ⟨client, port⟩) with
      | none =>
          have drawn : left.draw? (.call (.datagram datagram (.v4 ⟨client, port⟩) now)) =
              right.draw? (.call (.datagram datagram (.v4 ⟨client, port⟩) now)) := by
            simp only [draw?, newKey?, served]
          rw [exchange, exchange, drawn]
          simp only [Server.respond, Handled.answer,
            result_handleDatagram_of_none agree.gateway now served,
            server_handleDatagram_of_none left now served,
            server_handleDatagram_of_none right now served, true_and]
          exact agree
      | some asked =>
          rcases asked with ⟨request, asking⟩
          cases client_of_mappingRequest? served
          exact agree.respond_of_served leftConsistent rightConsistent served now
  | fireTimers now =>
      refine ⟨rfl, ?_, ?_, ?_⟩
      · exact (gateway_fireTimers left now).trans
          (agree.gateway.trans (gateway_fireTimers right now).symm)
      · exact (redirects_fireTimers_subset left now).2.trans
          (agree.ports.trans (redirects_fireTimers_subset right now).2.symm)
      · intro grant
        exact (leftConsistent.mem_grantsOf_fireTimers now).trans
          ((and_congr_left' (agree.grants grant)).trans
            (rightConsistent.mem_grantsOf_fireTimers now).symm)
  | _ => exact own.elim

end Calls

/-! ## Runs of a client -/

section Runs

variable [Backend β] [Backend γ] [AddressSource σ]

/-- A run of the client: it gets the same from both servers, and they agree at the end. -/
theorem AgreeFor.run {left right : Server β σ} (agree : AgreeFor client left right)
    (leftConsistent : left.Consistent) (rightConsistent : right.Consistent)
    {steps : List (Step β σ)} (own : ∀ step ∈ steps, step.OnlyOf client) :
    left.shown exchange steps = right.shown exchange steps ∧
      AgreeFor client (left.run steps) (right.run steps) := by
  induction steps generalizing left right with
  | nil => exact ⟨rfl, agree⟩
  | cons first rest ih =>
      have later : ∀ step ∈ rest, step.OnlyOf client := fun step member =>
        own step (List.mem_cons_of_mem first member)
      have leftAfter := leftConsistent.step first
      have rightAfter := rightConsistent.step first
      cases first with
      | filter change =>
          exact ih ⟨agree.gateway, agree.ports, agree.grants⟩ leftAfter rightAfter later
      | addresses change =>
          exact ih ⟨agree.gateway, agree.ports, agree.grants⟩ leftAfter rightAfter later
      | call made =>
          have answered := agree.respond leftConsistent rightConsistent
            (own (.call made) List.mem_cons_self)
          have gone := ih answered.2 leftAfter rightAfter later
          exact ⟨congrArg₂ List.append answered.1 gone.1, gone.2⟩

omit [Backend β] [AddressSource σ] in
theorem Consistent.unfiltered {server : Server β σ} (consistent : server.Consistent) :
    server.unfiltered.Consistent :=
  ⟨consistent.table, consistent.timers⟩

/-- A client learns nothing about the others.  Where two servers agree on the mappings of a
client, whatever they hold for others, it gets the same replies from both, byte for byte, for
whatever it sends and whenever timers are fired; the same ports are drawn, whatever becomes of
the rules; and in the end the servers agree on its mappings again. -/
theorem exchanges_same_of_agreeFor {left : Server β σ} {right : Server γ σ}
    (leftReachable : left.Reachable) (rightReachable : right.Reachable)
    (agree : AgreeFor client left right) {leftSteps : List (Step β σ)}
    {rightSteps : List (Step γ σ)} (own : ∀ step ∈ leftSteps, step.OnlyOf client)
    (sameCalls : leftSteps.filterMap Step.unfiltered? =
      rightSteps.filterMap Step.unfiltered?) :
    left.shown exchange leftSteps = right.shown exchange rightSteps ∧
      AgreeFor client (left.run leftSteps) (right.run rightSteps) := by
  have bareOwn : ∀ step ∈ leftSteps.filterMap Step.unfiltered?, step.OnlyOf client := by
    intro bare member
    rcases List.mem_filterMap.mp member with ⟨step, stepMember, same⟩
    have ownStep := own step stepMember
    cases step with
    | filter change => cases same
    | addresses change =>
        cases same
        trivial
    | call made =>
        cases same
        exact ownStep
  have bareAgree : AgreeFor client left.unfiltered right.unfiltered :=
    ⟨agree.gateway, agree.ports, agree.grants⟩
  have bareRun := bareAgree.run leftReachable.consistent.unfiltered
    rightReachable.consistent.unfiltered bareOwn
  have leftSame : left.unfiltered = left.unfiltered.unfiltered := rfl
  have rightSame : right.unfiltered = right.unfiltered.unfiltered := rfl
  have leftRun := unfiltered_run exchange_withRules leftSame leftSteps
  have rightRun := unfiltered_run exchange_withRules rightSame rightSteps
  rw [← sameCalls] at rightRun
  refine ⟨leftRun.1.trans (bareRun.1.trans rightRun.1.symm), ?_⟩
  have after : AgreeFor client (left.run leftSteps).unfiltered
      (right.run rightSteps).unfiltered := by
    rw [leftRun.2, rightRun.2]
    exact ⟨bareRun.2.gateway, bareRun.2.ports, bareRun.2.grants⟩
  exact ⟨after.gateway, after.ports, after.grants⟩

end Runs

/-- A server whose one client has a mapping, and a port still to be drawn for it. -/
def withOneClient : Server MemoryFilter AddressTable :=
  atOneInterface.run
    [.call (.checkInterface 0), .call (.ask ⟨10, 0, 0, 5⟩ ⟨.udp, 80, 0, 60⟩ 0)]

/-- A server that has served another client before, over a filter that may refuse. -/
def withAnotherClient : Server (Faulty MemoryFilter) AddressTable :=
  (new ⟨{ inner := .empty }, 0⟩ oneInterface 0 (.ofList [40000, 50000])).run
    [.call (.checkInterface 0), .call (.ask ⟨10, 0, 0, 6⟩ ⟨.tcp, 22, 0, 60⟩ 0),
      .call (.ask ⟨10, 0, 0, 5⟩ ⟨.udp, 80, 0, 60⟩ 0)]

/-- The client maps the port under the other transport and then another port, and deletes all
that is left once its first mapping has ended. -/
def oneClientsCalls : List Call :=
  [.ask ⟨10, 0, 0, 5⟩ ⟨.tcp, 80, 0, 3600⟩ (seconds 1),
    .ask ⟨10, 0, 0, 5⟩ ⟨.udp, 81, 0, 3600⟩ (seconds 1),
    .fireTimers (seconds 60), .ask ⟨10, 0, 0, 5⟩ ⟨.udp, 0, 0, 0⟩ (seconds 61)]

theorem onlyOf_oneClientsCalls : ∀ call ∈ oneClientsCalls, call.OnlyOf ⟨10, 0, 0, 5⟩ := by
  simp [oneClientsCalls, Call.ask, Call.OnlyOf]

/-- Over a filter that keeps refusing, with another client's mapping in the table, the client
is answered just as it is alone. -/
theorem exchanges_same_beside_another :
    withOneClient.Reachable ∧ withAnotherClient.Reachable ∧
      withOneClient.table.size = 1 ∧ withAnotherClient.table.size = 2 ∧
      AgreeFor ⟨10, 0, 0, 5⟩ withOneClient withAnotherClient ∧
      (withOneClient.shown exchange (oneClientsCalls.map .call)).map (·.drawn) =
        [none, some 49152, none, none] ∧
      withOneClient.shown exchange (oneClientsCalls.map .call) =
        withAnotherClient.shown exchange (refused oneClientsCalls) := by
  have reachable : withOneClient.Reachable := reachable_atOneInterface.run _
  have alsoReachable : withAnotherClient.Reachable := (reachable_new _ _ _ _).run _
  have grants : withOneClient.grantsOf ⟨10, 0, 0, 5⟩ =
      withAnotherClient.grantsOf ⟨10, 0, 0, 5⟩ := by decide +kernel
  have agree : AgreeFor ⟨10, 0, 0, 5⟩ withOneClient withAnotherClient :=
    ⟨by decide +kernel, rfl, fun grant => by rw [grants]⟩
  have own : ∀ step ∈ (oneClientsCalls.map .call : List (Step MemoryFilter AddressTable)),
      step.OnlyOf ⟨10, 0, 0, 5⟩ := by
    intro step member
    rcases List.mem_map.mp member with ⟨call, callMember, rfl⟩
    exact onlyOf_oneClientsCalls call callMember
  have alike := exchanges_same_of_agreeFor reachable alsoReachable agree own
    (filterMap_unfiltered?_refused oneClientsCalls).symm
  exact ⟨reachable, alsoReachable, by decide +kernel, by decide +kernel, agree,
    by decide +kernel, alike.1⟩

end Server

end PortMapping
