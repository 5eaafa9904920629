import Mathlib.Data.List.Induction
import PortMapping.Proofs.RuleHistory
import PortMapping.Proofs.TimerOwnership

/-!
# Where redirections come from

A step adds one redirection at most, for a request that is granted and finds no mapping;
every other step keeps or drops redirections and adds none.  `Growth` says so.  A
redirection that is added leads from the external address of the moment, at the port of the
related mapping or at one drawn for it, and stays as it is for as long as it stands.
-/

namespace PortMapping

namespace Server

variable {β σ : Type}

/-- The transport and the internal endpoint that a step adds a mapping for. -/
def newKey? (server : Server β σ) : Step β σ → Option (Transport × Endpoint4)
  | .call (.datagram datagram peer _) =>
      match mappingRequest? datagram peer with
      | none => none
      | some (request, client) =>
          if request.deletes = false ∧ server.gateway.hasExternalAddress = true ∧
              server.table.get? request.transport (request.internal client) = none then
            some (request.transport, request.internal client)
          else none
  | _ => none

/-- The redirection that a mapping for a transport and an internal endpoint is added with. -/
def addition (server : Server β σ) (transport : Transport) (internal : Endpoint4) :
    RedirectRule where
  transport := transport
  external :=
    ⟨server.gateway.externalAddress,
      (server.table.relatedPort? internal).getD server.table.ports.next⟩
  internal := internal

/-- The port that a step draws: one for each added mapping that has no related one. -/
def draw? (server : Server β σ) (step : Step β σ) : Option UInt16 :=
  match server.newKey? step with
  | none => none
  | some (_, internal) =>
      match server.table.relatedPort? internal with
      | some _ => none
      | none => some server.table.ports.next

theorem mem_redirects {server : Server β σ} {rule : RedirectRule} :
    rule ∈ server.redirects ↔
      ∃ mapping ∈ server.table.mappings, RedirectRule.ofMapping mapping = rule :=
  List.mem_map

variable [Backend β] [AddressSource σ]

/-- All that a step can do to the redirections, and to the ports still to be drawn. -/
inductive Growth (server : Server β σ) (step : Step β σ) : Prop where
  /-- None is added. -/
  | none (noKey : server.newKey? step = none)
      (rules : (server.step step).redirects ⊆ server.redirects)
      (ports : (server.step step).table.ports = server.table.ports)
  /-- One is added, from the address that the server has. -/
  | one {transport : Transport} {internal : Endpoint4}
      (key : server.newKey? step = some (transport, internal))
      (gateway : (server.step step).gateway = server.gateway)
      (rules : (server.step step).redirects =
        server.redirects ++ [server.addition transport internal])
      (ports : (server.step step).table.ports =
        if (server.table.relatedPort? internal).isSome then server.table.ports
        else server.table.ports.advance)

omit [AddressSource σ] in
/-- A timer that fires adds no redirection and draws no port. -/
theorem redirects_afterTimer_subset (server : Server β σ)
    (fired : TimerQueue.Fired TimerEvent) (now : Int) :
    (server.afterTimer fired now).server.redirects ⊆ server.redirects ∧
      (server.afterTimer fired now).server.table.ports = server.table.ports := by
  cases event : fired.event with
  | announce =>
      rw [afterTimer_announce server event]
      exact ⟨List.Subset.refl _, rfl⟩
  | expire id =>
      cases expired : (server.table.expire id).expired with
      | none =>
          rw [afterTimer_missing server event expired]
          exact ⟨List.Subset.refl _, rfl⟩
      | some mapping =>
          rw [afterTimer_expire server event expired]
          exact ⟨List.map_subset _ List.eraseP_subset, rfl⟩

omit [AddressSource σ] in
theorem redirects_fireTimers_subset (server : Server β σ) (now : Int) :
    (server.fireTimers now).value.server.redirects ⊆ server.redirects ∧
      (server.fireTimers now).value.server.table.ports = server.table.ports := by
  have kept : ∀ (middle : Server β σ) fired,
      middle.redirects ⊆ server.redirects ∧ middle.table.ports = server.table.ports →
        middle.timers.popDue now = some fired →
          (middle.afterTimer fired now).server.redirects ⊆ server.redirects ∧
            (middle.afterTimer fired now).server.table.ports = server.table.ports := by
    intro middle fired before _
    have after := redirects_afterTimer_subset middle fired now
    exact ⟨List.Subset.trans after.1 before.1, after.2.trans before.2⟩
  exact fireTimers_invariant kept ⟨List.Subset.refl _, rfl⟩

/-- A request for a mapping adds one if it is granted and there is none yet. -/
theorem growth_of_served (server : Server β σ) {datagram : Octets} {peer : Endpoint}
    (now : Int) {request : MappingRequest} {client : Ipv4}
    (served : mappingRequest? datagram peer = some (request, client)) :
    Growth server (.call (.datagram datagram peer now)) := by
  have table : (server.step (.call (.datagram datagram peer now))).table =
      (server.decideMapping request client now).value.server.table := by
    rcases exists_rules_handleMapping server request client now with ⟨rules, handled⟩
    rw [step, respond, Handled.answer, handleDatagram_of_some server now served, handled]
  have gateway : (server.step (.call (.datagram datagram peer now))).gateway =
      server.gateway := by
    rcases server_handleDatagram server datagram peer now with ⟨_, _, _, same⟩
    rw [step, respond, Handled.answer, same]
  cases deletes : request.deletes with
  | true =>
      rw [decideMapping_of_deletes server client now deletes] at table
      refine .none ?_ ?_ ?_
      · simp [newKey?, served, deletes]
      · rw [redirects, table]
        exact List.map_subset _ (List.filter_subset_self _)
      · rw [table]
        rfl
  | false =>
      cases known : server.gateway.hasExternalAddress with
      | false =>
          rw [decideMapping_of_refuses server client now deletes known] at table
          refine .none ?_ ?_ ?_
          · simp [newKey?, served, known]
          · rw [redirects, table]
            exact List.Subset.refl _
          · rw [table]
      | true =>
          rw [decideMapping_of_grants server client now deletes known] at table
          simp only at table
          cases found : server.table.get? request.transport (request.internal client) with
          | some mapping =>
              rw [Table.grant_of_some found] at table
              refine .none ?_ ?_ ?_
              · simp [newKey?, served, found]
              · rw [redirects, table, Table.rules_refresh]
                exact List.Subset.refl _
              · rw [table]
                rfl
          | none =>
              rw [Table.grant_of_none found] at table
              have key : server.newKey? (.call (.datagram datagram peer now)) =
                  some (request.transport, request.internal client) := by
                simp [newKey?, served, deletes, known, found]
              refine .one key gateway ?_ ?_
              · rw [redirects, table, Table.mappings_create, List.map_append]
                rfl
              · rw [table]
                rfl

theorem growth (server : Server β σ) (step : Step β σ) : Growth server step := by
  cases step with
  | filter change => exact .none rfl (List.Subset.refl _) rfl
  | addresses change => exact .none rfl (List.Subset.refl _) rfl
  | call call =>
      cases call with
      | start =>
          rcases server_respond_start server with ⟨rules, same⟩
          refine .none rfl ?_ ?_
          · rw [Server.step, same]
            exact List.Subset.refl _
          · rw [Server.step, same]
      | datagram datagram peer now =>
          cases served : mappingRequest? datagram peer with
          | some asked => exact growth_of_served server now served
          | none =>
              have same := server_handleDatagram_of_none server now served
              refine .none ?_ ?_ ?_
              · simp [newKey?, served]
              · rw [Server.step, respond, Handled.answer, same]
                exact List.Subset.refl _
              · rw [Server.step, respond, Handled.answer, same]
      | interfaceEvent event now =>
          have table : (server.respond (.interfaceEvent event now)).server.table =
              server.table := by
            rcases server_respond_interfaceEvent server event now with same | same
            · rw [same]
            · rw [same, table_checkInterface]
          refine .none rfl ?_ ?_
          · rw [redirects, Server.step, table]
            exact List.Subset.refl _
          · rw [Server.step, table]
      | checkInterface now =>
          have table := table_checkInterface server now
          refine .none rfl ?_ (congrArg Table.ports table)
          rw [redirects, Server.step, respond, Handled.answer, table]
          exact List.Subset.refl _
      | fireTimers now =>
          have kept := redirects_fireTimers_subset server now
          exact .none rfl kept.1 kept.2
      | shutdown => exact .none rfl (List.nil_subset _) rfl

/-- The port source advances with each port drawn, and only then. -/
theorem ports_step (server : Server β σ) (step : Step β σ) :
    (server.step step).table.ports =
      if (server.draw? step).isSome then server.table.ports.advance else server.table.ports := by
  cases server.growth step with
  | none noKey _ ports =>
      rw [ports, draw?, noKey]
      rfl
  | @one transport internal key _ _ ports =>
      cases related : server.table.relatedPort? internal <;> simp [ports, draw?, key, related]

/-! ## Since when a redirection stands -/

/-- A redirection was added by a step of a run and has stood ever since. -/
structure StandsSince (first : Server β σ) (rule : RedirectRule) (earlier : List (Step β σ))
    (created : Step β σ) (later : List (Step β σ)) : Prop where
  absent : rule ∉ (first.run earlier).redirects
  stands : ∀ between, between <+: later →
    rule ∈ (first.run (earlier ++ created :: between)).redirects
  /-- It leads from the address that the gateway had when it was added. -/
  address : rule.external.address = (first.run earlier).gateway.externalAddress
  /-- Adding it did not move the gateway. -/
  gateway : (first.run (earlier ++ [created])).gateway = (first.run earlier).gateway

/-- Every redirection was added at some point and has stood since then. -/
theorem exists_standsSince {first : Server β σ} (empty : first.redirects = [])
    {rule : RedirectRule} {steps : List (Step β σ)} (member : rule ∈ (first.run steps).redirects) :
    ∃ earlier created later,
      steps = earlier ++ created :: later ∧ first.StandsSince rule earlier created later := by
  induction steps using List.reverseRecOn with
  | nil =>
      rw [run_nil, empty] at member
      contradiction
  | append_singleton before last ih =>
      by_cases stood : rule ∈ (first.run before).redirects
      · rcases ih stood with ⟨earlier, created, later, split, since⟩
        refine ⟨earlier, created, later ++ [last], by rw [split]; simp, since.absent, ?_,
          since.address, since.gateway⟩
        intro between isPrefix
        rcases List.prefix_concat_iff.mp isPrefix with whole | shorter
        · rw [whole, ← List.cons_append, ← List.append_assoc, ← split]
          exact member
        · exact since.stands between shorter
      · have stepped : first.run (before ++ [last]) = (first.run before).step last :=
          run_append first before [last]
        rw [stepped] at member
        cases (first.run before).growth last with
        | none _ rules _ => exact (stood (rules member)).elim
        | @one transport internal _ gateway rules _ =>
            rw [rules] at member
            have added := (List.mem_append.mp member).resolve_left stood
            cases List.mem_singleton.mp added
            refine ⟨before, last, [], rfl, stood, ?_, rfl, ?_⟩
            · intro between isPrefix
              rw [List.prefix_nil.mp isPrefix, stepped, rules]
              exact List.mem_append_right _ (List.mem_singleton_self _)
            · rw [stepped]
              exact gateway

end Server

end PortMapping
