import PortMapping.Proofs.Announcements
import PortMapping.Proofs.FilterIndependence
import PortMapping.Proofs.RequestGrammar
import PortMapping.Proofs.Transactions

/-!
# When the packet filter is asked

The packet filter hears from a handler of datagrams exactly if the rules that the mappings ask
for have changed, and then in one transaction that installs the new rules.  The handler goes by
whether a mapping was created and how many were removed, and never compares rules.  Those that
follow the interface leave the filter alone.
-/

namespace PortMapping

namespace Table

/-- Every mapping is removed or kept. -/
theorem count_add_length_remove (table : Table) (timers : TimerQueue TimerEvent)
    (transport : Transport) (address : Ipv4) (port : UInt16) :
    let removal := table.remove timers transport address port
    removal.count + removal.table.mappings.length = table.mappings.length :=
  (List.length_eq_length_filter_add _).symm

end Table

namespace Server

variable {β σ : Type}

/-! ## When the rules asked for change -/

/-- A verdict is marked as a change exactly if it changes the rules asked for. -/
theorem changed_iff_redirects_ne (server : Server β σ) (request : MappingRequest)
    (client : Ipv4) (now : Int) :
    (server.decideMapping request client now).value.changed = true ↔
      (server.decideMapping request client now).value.server.redirects ≠ server.redirects := by
  constructor
  · intro changed same
    -- Either way the number of rules is another.
    have size := congrArg List.length same
    simp only [redirects, List.length_map] at size
    cases deletes : request.deletes with
    | true =>
        rw [decideMapping_of_deletes server client now deletes] at changed size
        have removed := of_decide_eq_true changed
        have total := server.table.count_add_length_remove server.timers request.transport client
          request.internalPort
        simp only [afterRemoval] at size total removed
        omega
    | false =>
        cases known : server.gateway.hasExternalAddress with
        | false =>
            rw [decideMapping_of_refuses server client now deletes known] at changed
            contradiction
        | true =>
            rw [decideMapping_of_grants server client now deletes known] at changed size
            cases found : server.table.get? request.transport (request.internal client) with
            | some mapping =>
                simp only [Table.grant, found, Table.refresh] at changed
                contradiction
            | none =>
                simp only [Table.grant, found, Table.create, List.length_append,
                  List.length_singleton] at size
                omega
  · intro differs
    by_contra unchanged
    have kept := redirects_decideMapping server request client now (by simpa using unchanged)
    exact differs kept

/-- The ways in which a datagram can leave the rules as they are. -/
inductive KeepsRules (server : Server β σ) (datagram : Octets) (peer : Endpoint) : Prop where
  /-- It is no mapping request, or does not come over IPv4. -/
  | unserved (other : ¬datagram.AsksForMapping peer)
  /-- It renews a mapping. -/
  | renewal {request : MappingRequest} {client : Ipv4} {mapping : Mapping}
      (served : mappingRequest? datagram peer = some (request, client))
      (asks : request.deletes = false) (known : server.gateway.hasExternalAddress = true)
      (found : server.table.get? request.transport (request.internal client) = some mapping)
  /-- It asks for a mapping while there is no external address. -/
  | refused {request : MappingRequest} {client : Ipv4}
      (served : mappingRequest? datagram peer = some (request, client))
      (asks : request.deletes = false) (unknown : server.gateway.hasExternalAddress = false)
  /-- It deletes mappings, and there are none. -/
  | nothingToDelete {request : MappingRequest} {client : Ipv4}
      (served : mappingRequest? datagram peer = some (request, client))
      (deletes : request.deletes = true)
      (nothing : ∀ mapping ∈ server.table.mappings,
        mapping.leadsTo request.transport client request.internalPort = false)

/-- A served request changes nothing exactly if it is a renewal, a refusal, or a deletion of
nothing. -/
theorem keepsRules_iff_of_served (server : Server β σ) {datagram : Octets} {peer : Endpoint}
    {request : MappingRequest} {client : Ipv4} (now : Int)
    (served : mappingRequest? datagram peer = some (request, client)) :
    server.KeepsRules datagram peer ↔
      (server.decideMapping request client now).value.changed = false := by
  have same : ∀ {other : MappingRequest} {otherClient : Ipv4},
      mappingRequest? datagram peer = some (other, otherClient) →
        request = other ∧ client = otherClient := by
    intro other otherClient alsoServed
    rw [served] at alsoServed
    exact Prod.mk.inj (Option.some.inj alsoServed)
  constructor
  · intro keeps
    cases keeps with
    | unserved other => exact (other (Octets.asksForMapping_iff.mpr ⟨_, served⟩)).elim
    | renewal alsoServed asks known found =>
        rcases same alsoServed with ⟨rfl, rfl⟩
        rw [decideMapping_of_grants server client now asks known]
        simp only [Table.grant, found, Table.refresh]
    | refused alsoServed asks unknown =>
        rcases same alsoServed with ⟨rfl, rfl⟩
        rw [decideMapping_of_refuses server client now asks unknown]
    | nothingToDelete alsoServed deletes nothing =>
        rcases same alsoServed with ⟨rfl, rfl⟩
        rw [decideMapping_of_deletes server client now deletes]
        apply decide_eq_false
        rw [Table.remove, List.filter_eq_nil_iff.mpr (by simpa using nothing)]
        exact Nat.lt_irrefl 0
  · intro unchanged
    cases deletes : request.deletes with
    | true =>
        rw [decideMapping_of_deletes server client now deletes] at unchanged
        have none := Nat.eq_zero_of_not_pos (of_decide_eq_false unchanged)
        have nothing := List.filter_eq_nil_iff.mp (List.eq_nil_of_length_eq_zero none)
        exact .nothingToDelete served deletes fun mapping member =>
          Bool.eq_false_iff.mpr (nothing mapping member)
    | false =>
        cases known : server.gateway.hasExternalAddress with
        | false => exact .refused served deletes known
        | true =>
            rw [decideMapping_of_grants server client now deletes known] at unchanged
            cases found : server.table.get? request.transport (request.internal client) with
            | some mapping => exact .renewal served deletes known found
            | none =>
                simp only [Table.grant, found, Table.create] at unchanged
                contradiction

section Handlers

variable [Backend β]

/-! ## What the filter is asked -/

/-- The same server over a filter that notes the calls made of it. -/
def recording (server : Server β σ) : Server (Recorded β) σ :=
  server.withRules server.rules.recording

/-- What a call asks of the packet filter, and what comes of it. -/
def filterExchanges [AddressSource σ] (server : Server β σ) (call : Call) :
    List FilterExchange :=
  (server.recording.respond call).server.rules.backend.exchanges

/-- What becomes of the rules at a datagram: nothing, or one rebuild. -/
inductive RulesUpdated (server after : Server β σ) : List FilterExchange → Prop where
  | kept (redirects : after.redirects = server.redirects) (rules : after.rules = server.rules) :
      RulesUpdated server after []
  | rebuilt (redirects : after.redirects ≠ server.redirects)
      (rules : after.rules = (server.rules.rebuild after.table.mappings).value.synchronizer) :
      RulesUpdated server after (server.rules.rebuildExchanges after.table.mappings)

theorem RulesUpdated.transacts {server after : Server β σ} {exchanges : List FilterExchange}
    (updated : server.RulesUpdated after exchanges) :
    timesCalled .openTransaction exchanges =
        (if after.redirects = server.redirects then 0 else 1) ∧
      (after.redirects ≠ server.redirects →
        ∃ outcome, Transacts after.redirects exchanges outcome) ∧
      (after.redirects = server.redirects → exchanges = [] ∧ after.rules = server.rules) := by
  cases updated with
  | kept redirects rules =>
      rw [if_pos redirects]
      exact ⟨rfl, fun differs => (differs redirects).elim, fun _ => ⟨rfl, rules⟩⟩
  | rebuilt redirects rules =>
      have transacts := server.rules.transacts_rebuild after.table.mappings
      rw [if_neg redirects]
      exact ⟨transacts.openings_eq, fun _ => ⟨_, transacts⟩, fun same => (redirects same).elim⟩

theorem rulesUpdated_datagram [AddressSource σ] (server : Server β σ) (datagram : Octets)
    (peer : Endpoint) (now : Int) :
    server.RulesUpdated (server.handleDatagram datagram peer now).value.server
      (server.filterExchanges (.datagram datagram peer now)) := by
  rw [filterExchanges, respond, Handled.answer]
  cases served : mappingRequest? datagram peer with
  | none =>
      rw [server_handleDatagram_of_none server now served,
        server_handleDatagram_of_none server.recording now served]
      exact .kept rfl rfl
  | some asked =>
      rcases asked with ⟨request, client⟩
      have decided := server.decideMapping_withRules server.rules.recording request client now
      have rules := rules_decideMapping server request client now
      rw [handleDatagram_of_some server now served,
        handleDatagram_of_some server.recording now served]
      simp only [server_handleMapping, recording, decided]
      cases changed : (server.decideMapping request client now).value.changed with
      | true =>
          have redirects := (changed_iff_redirects_ne server request client now).mp changed
          refine .rebuilt redirects ?_
          simp only [if_true, rebuildRules]
          rw [← rules]
          rfl
      | false => exact .kept (redirects_decideMapping server request client now changed) rules

theorem redirects_handleDatagram_eq_iff (server : Server β σ) (datagram : Octets)
    (peer : Endpoint) (now : Int) :
    (server.handleDatagram datagram peer now).value.server.redirects = server.redirects ↔
      server.KeepsRules datagram peer := by
  cases served : mappingRequest? datagram peer with
  | none =>
      have other : ¬datagram.AsksForMapping peer := by
        rw [Octets.asksForMapping_iff, served]
        simp
      rw [server_handleDatagram_of_none server now served]
      exact iff_of_true rfl (.unserved other)
  | some asked =>
      rcases asked with ⟨request, client⟩
      rcases exists_rules_handleMapping server request client now with ⟨rules, handled⟩
      have decided := changed_iff_redirects_ne server request client now
      rw [keepsRules_iff_of_served server now served, ← Bool.not_eq_true, decided, not_not,
        handleDatagram_of_some server now served]
      simp only [handled]
      rfl

/-- The handlers that follow the interface leave the filter alone. -/
theorem filterExchanges_of_checksAt [AddressSource σ] (server : Server β σ) {call : Call}
    {now : Int} (checks : call.ChecksAt now) :
    server.filterExchanges call = [] ∧ (server.respond call).server.rules = server.rules := by
  have checked : ∀ {γ : Type} [Backend γ] (other : Server γ σ),
      (other.respond call).server.rules = other.rules := by
    intro γ _ other
    cases call with
    | interfaceEvent event instant =>
        rcases server_respond_interfaceEvent other event instant with same | same
        · rw [same]
        · rw [same, rules_checkInterface]
    | checkInterface instant => exact rules_checkInterface other instant
    | start | datagram | fireTimers | shutdown => exact checks.elim
  refine ⟨?_, checked server⟩
  rw [filterExchanges, checked server.recording]
  rfl

/-- At a datagram the filter is asked to open a transaction exactly if the rules that the
mappings ask for become others, and then once; the transaction installs the new rules.  They
stay the same exactly if the datagram is no mapping request that is served, or renews a
mapping, is refused, or deletes nothing; and then nothing is asked of the filter.  Nor do the
handlers that follow the interface ask anything of it. -/
theorem opens_iff_redirects_change [AddressSource σ] (server : Server β σ) :
    (∀ datagram peer now,
      let exchanges := server.filterExchanges (.datagram datagram peer now)
      let after := (server.handleDatagram datagram peer now).value.server
      timesCalled .openTransaction exchanges =
          (if after.redirects = server.redirects then 0 else 1) ∧
        (after.redirects ≠ server.redirects →
          ∃ outcome, Transacts after.redirects exchanges outcome) ∧
        (after.redirects = server.redirects ↔ server.KeepsRules datagram peer) ∧
        (server.KeepsRules datagram peer → exchanges = [] ∧ after.rules = server.rules)) ∧
      ∀ call now, call.ChecksAt now →
        server.filterExchanges call = [] ∧ (server.respond call).server.rules = server.rules := by
  constructor
  · intro datagram peer now exchanges after
    have keeps := server.redirects_handleDatagram_eq_iff datagram peer now
    have updated := server.rulesUpdated_datagram datagram peer now
    rcases updated.transacts with ⟨opened, transacts, idle⟩
    exact ⟨opened, transacts, keeps, fun kept => idle (keeps.mpr kept)⟩
  · intro call now checks
    exact server.filterExchanges_of_checksAt checks

end Handlers

end Server

end PortMapping
