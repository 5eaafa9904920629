import PortMapping.Proofs.Run

/-!
# Which rebuilds a call makes

Every change of the packet filter's rules, the reset at the start apart, goes through
a rebuild for the mappings of the moment.  `Server.rebuilds` lists the rebuilds that a
call makes, and `Rebuilt` says that nothing else happened to the rules.  The rules
that the mappings ask for change only together with a rebuild: a renewed mapping asks
for the same rule as before.
-/

namespace PortMapping

/-- An attempt to bring the rules up to date: the mappings it was made for, and what
became of it. -/
structure Rebuild where
  mappings : List Mapping
  outcome : Except SyncError Nat

namespace Rebuild

/-- Whether the rules were replaced. -/
def succeeded (rebuild : Rebuild) : Bool := rebuild.outcome.isOk

/-- The rules the mappings ask for. -/
def rules (rebuild : Rebuild) : List RedirectRule :=
  rebuild.mappings.map RedirectRule.ofMapping

end Rebuild

variable {β σ : Type}

/-! ## The rules that the mappings ask for -/

/-- The rules asked for after a sequence of rebuilds: those of the last one. -/
def lastAsked (initial : List RedirectRule) (rebuilds : List Rebuild) : List RedirectRule :=
  (rebuilds.getLast?.map Rebuild.rules).getD initial

theorem lastAsked_append (initial : List RedirectRule) (first second : List Rebuild) :
    lastAsked initial (first ++ second) = lastAsked (lastAsked initial first) second := by
  rw [lastAsked, lastAsked, List.getLast?_append]
  cases second.getLast? <;> rfl

/-- Once anything was rebuilt, what was asked for before no longer matters. -/
theorem lastAsked_of_ne_nil {rebuilds : List Rebuild} (rebuilt : rebuilds ≠ [])
    (first second : List RedirectRule) : lastAsked first rebuilds = lastAsked second rebuilds := by
  rw [lastAsked, lastAsked, List.getLast?_eq_some_getLast rebuilt]
  rfl

namespace Table

/-- Renewing a mapping asks for the same rules. -/
theorem rules_refresh (table : Table) (timers : TimerQueue TimerEvent) (now : Int)
    (mapping : Mapping) (lifetime : Nat) :
    (table.refresh timers now mapping lifetime).table.mappings.map RedirectRule.ofMapping =
      table.mappings.map RedirectRule.ofMapping := by
  rw [refresh, List.map_map]
  apply List.map_congr_left
  intro other _
  rw [Function.comp_apply]
  split <;> rfl

/-- Removing nothing leaves the table as it is. -/
theorem mappings_remove_of_count_eq_zero {table : Table} {timers : TimerQueue TimerEvent}
    {transport : Transport} {address : Ipv4} {port : UInt16}
    (none : (table.remove timers transport address port).count = 0) :
    (table.remove timers transport address port).table.mappings = table.mappings := by
  have nothing : table.mappings.filter (·.leadsTo transport address port) = [] :=
    List.eq_nil_of_length_eq_zero none
  apply List.filter_eq_self.mpr
  intro mapping member
  have stays := List.filter_eq_nil_iff.mp nothing mapping member
  simpa using stays

end Table

namespace Server

/-- The rules that the mappings ask for. -/
def redirects (server : Server β σ) : List RedirectRule :=
  server.table.mappings.map RedirectRule.ofMapping

theorem redirects_decideMapping (server : Server β σ) (request : MappingRequest)
    (client : Ipv4) (now : Int)
    (unchanged : (server.decideMapping request client now).value.changed = false) :
    (server.decideMapping request client now).value.server.redirects = server.redirects := by
  cases deletes : request.deletes with
  | true =>
      rw [decideMapping_of_deletes server client now deletes] at unchanged ⊢
      have nothing := Nat.eq_zero_of_not_pos (of_decide_eq_false unchanged)
      have same := Table.mappings_remove_of_count_eq_zero nothing
      exact congrArg (List.map RedirectRule.ofMapping) same
  | false =>
      cases known : server.gateway.hasExternalAddress with
      | false => rw [decideMapping_of_refuses server client now deletes known]
      | true =>
          rw [decideMapping_of_grants server client now deletes known] at unchanged ⊢
          simp only [redirects] at unchanged ⊢
          cases found : server.table.get? request.transport (request.internal client) with
          | none =>
              rw [Table.grant, found] at unchanged
              contradiction
          | some mapping =>
              rw [Table.grant, found]
              exact Table.rules_refresh _ _ _ _ _

end Server

section Rebuilding

variable [Backend β]

/-- The rules after a sequence of rebuilds, each with the outcome it had. -/
inductive Rebuilt : Synchronizer β → List Rebuild → Synchronizer β → Prop where
  | done (rules : Synchronizer β) : Rebuilt rules [] rules
  | next {rules last : Synchronizer β} (mappings : List Mapping) {later : List Rebuild}
      (rest : Rebuilt (rules.rebuild mappings).value.synchronizer later last) :
      Rebuilt rules (⟨mappings, (rules.rebuild mappings).value.outcome⟩ :: later) last

theorem Rebuilt.append {first second third : Synchronizer β} {earlier later : List Rebuild}
    (left : Rebuilt first earlier second) (right : Rebuilt second later third) :
    Rebuilt first (earlier ++ later) third := by
  induction left with
  | done => exact right
  | next mappings _ ih => exact .next mappings (ih right)

namespace Server

/-- The rebuild for the present mappings. -/
def present (server : Server β σ) : Rebuild :=
  ⟨server.table.mappings, (server.rules.rebuild server.table.mappings).value.outcome⟩

/-- The rebuild after a mapping request, if it changed anything. -/
def rebuildsOfRequest (server : Server β σ) (request : MappingRequest) (client : Ipv4)
    (now : Int) : List Rebuild :=
  let verdict := (server.decideMapping request client now).value
  if verdict.changed then [verdict.server.present] else []

/-- The rebuild after a timer that fired, if it ended a mapping. -/
def rebuildsOfTimer (server : Server β σ) (fired : TimerQueue.Fired TimerEvent) :
    List Rebuild :=
  match fired.event with
  | .announce => []
  | .expire id =>
      let expiry := server.table.expire id
      match expiry.expired with
      | none => []
      | some _ => [{ server with timers := fired.queue, table := expiry.table }.present]

/-- The rebuilds made while firing the timers due at `now`. -/
def rebuildsOfFiring (server : Server β σ) (now : Int) : List Rebuild :=
  match _popped : server.timers.popDue now with
  | none => []
  | some fired =>
      server.rebuildsOfTimer fired ++ rebuildsOfFiring (server.afterTimer fired now).server now
termination_by server.timers.dueCount now
decreasing_by exact dueCount_afterTimer _popped

theorem rebuildsOfFiring_of_none {server : Server β σ} {now : Int}
    (idle : server.timers.popDue now = none) : server.rebuildsOfFiring now = [] := by
  rw [rebuildsOfFiring]
  split
  · rfl
  next popped => rw [idle] at popped; contradiction

theorem rebuildsOfFiring_of_some {server : Server β σ} {now : Int}
    {fired : TimerQueue.Fired TimerEvent} (popped : server.timers.popDue now = some fired) :
    server.rebuildsOfFiring now =
      server.rebuildsOfTimer fired ++
        (server.afterTimer fired now).server.rebuildsOfFiring now := by
  rw [rebuildsOfFiring]
  split
  next idle => rw [idle] at popped; contradiction
  next other alsoPopped =>
    rw [popped] at alsoPopped
    cases alsoPopped
    rfl

/-- The rebuilds that a call makes, in order. -/
def rebuilds (server : Server β σ) : Call → List Rebuild
  | .start =>
      let reset := server.rules.reset.value
      match reset.outcome with
      | .error _ => []
      | .ok _ => [{ server with rules := reset.synchronizer }.present]
  | .datagram datagram peer now =>
      match mappingRequest? datagram peer with
      | none => []
      | some (request, client) => server.rebuildsOfRequest request client now
  | .interfaceEvent _ _ => []
  | .checkInterface _ => []
  | .fireTimers now => server.rebuildsOfFiring now
  | .shutdown => [{ server with table := (server.table.clear server.timers).table }.present]

/-- The rules that a call's rebuilds start from: those cleared by a start, else those of
before. -/
def rulesBefore (server : Server β σ) : Call → Synchronizer β
  | .start => server.rules.reset.value.synchronizer
  | _ => server.rules

/-! ## The rules of a server come from its rebuilds -/

theorem rebuilt_present (server : Server β σ) :
    Rebuilt server.rules [server.present] server.rebuildRules.value.rules :=
  .next server.table.mappings (.done _)

theorem rebuilt_handleMapping (server : Server β σ) (request : MappingRequest) (client : Ipv4)
    (now : Int) :
    Rebuilt server.rules (server.rebuildsOfRequest request client now)
      (server.handleMapping request client now).value.server.rules := by
  rw [server_handleMapping, rebuildsOfRequest, ← rules_decideMapping server request client now]
  simp only
  split
  · exact rebuilt_present _
  · exact .done _

/-- An expiry timer without a mapping does nothing. -/
theorem afterTimer_missing (server : Server β σ) {fired : TimerQueue.Fired TimerEvent}
    {now : Int} {id : MappingId} (event : fired.event = .expire id)
    (missing : (server.table.expire id).expired = none) :
    server.afterTimer fired now = ⟨[], { server with timers := fired.queue }⟩ := by
  simp only [afterTimer, event, handleTimer, expireMapping, missing]
  rfl

theorem rebuilt_afterTimer (server : Server β σ) (fired : TimerQueue.Fired TimerEvent)
    (now : Int) :
    Rebuilt server.rules (server.rebuildsOfTimer fired)
      (server.afterTimer fired now).server.rules := by
  cases event : fired.event with
  | announce =>
      rw [afterTimer_announce server event, rebuildsOfTimer, event]
      exact .done _
  | expire id =>
      cases expired : (server.table.expire id).expired with
      | none =>
          rw [afterTimer_missing server event expired]
          simp only [rebuildsOfTimer, event, expired]
          exact .done _
      | some mapping =>
          rw [afterTimer_expire server event expired]
          simp only [rebuildsOfTimer, event, expired]
          exact rebuilt_present
            { server with timers := fired.queue, table := (server.table.expire id).table }

theorem rebuilt_fireTimers (server : Server β σ) (now : Int) :
    Rebuilt server.rules (server.rebuildsOfFiring now)
      (server.fireTimers now).value.server.rules := by
  refine firing_induction now ?done ?next server
  case done =>
    intro server idle
    rw [fireTimers_of_none idle, rebuildsOfFiring_of_none idle]
    exact .done _
  case next =>
    intro server fired popped ih
    rw [fireTimers_of_some popped, rebuildsOfFiring_of_some popped]
    exact (rebuilt_afterTimer server fired now).append ih

/-- Nothing happens to the rules in a call but its rebuilds. -/
theorem rebuilt_respond [AddressSource σ] (server : Server β σ) (call : Call) :
    Rebuilt (server.rulesBefore call) (server.rebuilds call)
      (server.respond call).server.rules := by
  cases call with
  | start =>
      simp only [rulesBefore, rebuilds, respond, Handled.answer, start, Logged.value_bind]
      cases server.rules.reset.value.outcome with
      | error error => exact .done _
      | ok _ =>
          exact rebuilt_present { server with rules := server.rules.reset.value.synchronizer }
  | datagram datagram peer now =>
      simp only [rulesBefore, rebuilds, respond, Handled.answer]
      cases served : mappingRequest? datagram peer with
      | none =>
          rw [server_handleDatagram_of_none server now served]
          exact .done _
      | some asked =>
          rcases asked with ⟨request, client⟩
          rw [handleDatagram_of_some server now served]
          exact rebuilt_handleMapping server request client now
  | interfaceEvent event now =>
      rcases server_respond_interfaceEvent server event now with same | same
      · rw [same]
        exact .done _
      · rw [same, rules_checkInterface]
        exact .done _
  | checkInterface now =>
      rw [respond, Handled.answer, rules_checkInterface]
      exact .done _
  | fireTimers now => exact rebuilt_fireTimers server now
  | shutdown =>
      exact rebuilt_present { server with table := (server.table.clear server.timers).table }

/-! ## The mappings ask for what was rebuilt -/

theorem redirects_handleMapping (server : Server β σ) (request : MappingRequest)
    (client : Ipv4) (now : Int) :
    (server.handleMapping request client now).value.server.redirects =
      lastAsked server.redirects (server.rebuildsOfRequest request client now) := by
  rw [server_handleMapping, rebuildsOfRequest]
  simp only
  split
  · rfl
  next unchanged =>
    exact redirects_decideMapping server request client now (by simpa using unchanged)

theorem redirects_afterTimer (server : Server β σ) (fired : TimerQueue.Fired TimerEvent)
    (now : Int) :
    (server.afterTimer fired now).server.redirects =
      lastAsked server.redirects (server.rebuildsOfTimer fired) := by
  cases event : fired.event with
  | announce =>
      rw [afterTimer_announce server event, rebuildsOfTimer, event]
      rfl
  | expire id =>
      cases expired : (server.table.expire id).expired with
      | none =>
          rw [afterTimer_missing server event expired]
          simp only [rebuildsOfTimer, event, expired]
          rfl
      | some mapping =>
          rw [afterTimer_expire server event expired]
          simp only [rebuildsOfTimer, event, expired]
          rfl

theorem redirects_fireTimers (server : Server β σ) (now : Int) :
    (server.fireTimers now).value.server.redirects =
      lastAsked server.redirects (server.rebuildsOfFiring now) := by
  refine firing_induction now ?done ?next server
  case done =>
    intro server idle
    rw [fireTimers_of_none idle, rebuildsOfFiring_of_none idle]
    rfl
  case next =>
    intro server fired popped ih
    rw [fireTimers_of_some popped, rebuildsOfFiring_of_some popped, lastAsked_append,
      ← redirects_afterTimer server fired now]
    exact ih

/-- After every call the mappings ask for the rules of its last rebuild; without one they
ask for the same rules as before. -/
theorem redirects_respond [AddressSource σ] (server : Server β σ) (call : Call) :
    (server.respond call).server.redirects =
      lastAsked server.redirects (server.rebuilds call) := by
  cases call with
  | start =>
      simp only [rebuilds, respond, Handled.answer, start, Logged.value_bind]
      cases server.rules.reset.value.outcome <;> rfl
  | datagram datagram peer now =>
      simp only [rebuilds, respond, Handled.answer]
      cases served : mappingRequest? datagram peer with
      | none =>
          rw [server_handleDatagram_of_none server now served]
          rfl
      | some asked =>
          rcases asked with ⟨request, client⟩
          rw [handleDatagram_of_some server now served]
          exact redirects_handleMapping server request client now
  | interfaceEvent event now =>
      rcases server_respond_interfaceEvent server event now with same | same
      · rw [same]
        rfl
      · rw [same, redirects, table_checkInterface]
        rfl
  | checkInterface now =>
      rw [respond, Handled.answer, redirects, table_checkInterface]
      rfl
  | fireTimers now => exact redirects_fireTimers server now
  | shutdown => rfl

end Server

end Rebuilding

end PortMapping
