import PortMapping.Firewall.Faulty
import PortMapping.Proofs.RuleHistory

/-!
# A server without its packet filter

Whether the packet filter takes the rules is logged, and told to whoever starts or shuts
down the server, but nothing else depends on it.  So a server behaves as it would over a
filter that takes everything and keeps nothing.  Each handler is compared with itself over
other rules; a run is then compared with the run of the same calls over no filter at all,
and any two runs of the same calls with each other.
-/

namespace PortMapping

/-- A filter that takes whatever it is given and keeps none of it. -/
structure NoFilter where
  deriving DecidableEq, Repr

namespace NoFilter

/-- A call that succeeds and leaves no trace. -/
def accepted : Logged (Attempt NoFilter) := pure ⟨.ok (), {}⟩

instance : Backend NoFilter where
  reset _ := accepted
  openTransaction _ := accepted
  addRedirect _ _ := accepted
  commit _ := accepted
  rollback filter := filter

end NoFilter

/-- An answer as it looks to all but the caller who asked for the rules to be changed:
whether they were is left out. -/
def Answer.visible : Answer → Answer
  | .outcome _ => .outcome (.ok ())
  | answer => answer

variable {β γ σ : Type}

/-- The same step where there is no packet filter, unless it is the filter's own. -/
def Step.unfiltered? : Step β σ → Option (Step NoFilter σ)
  | .call made => some (.call made)
  | .addresses change => some (.addresses change)
  | .filter _ => none

namespace Server

/-- The same server over other rules. -/
def withRules (server : Server β σ) (rules : Synchronizer γ) : Server γ σ where
  table := server.table
  gateway := server.gateway
  timers := server.timers
  announcer := server.announcer
  rules := rules
  monitor := server.monitor

/-- All of a server but its packet filter. -/
def unfiltered (server : Server β σ) : Server NoFilter σ := server.withRules ⟨{}, 0⟩

/-- Servers that only their packet filters tell apart are one server over two filters. -/
theorem exists_withRules_of_unfiltered_eq {left : Server β σ} {right : Server γ σ}
    (same : left.unfiltered = right.unfiltered) : ∃ rules, right = left.withRules rules := by
  rcases left with ⟨table, gateway, timers, announcer, rules, monitor⟩
  rcases right with ⟨table', gateway', timers', announcer', rules', monitor'⟩
  cases same
  exact ⟨rules', rfl⟩

end Server

/-- What two handlers return, where only the packet filters can tell the servers apart. -/
structure Handled.Alike {α : Type} (left : Handled β σ α) (right : Handled γ σ α) : Prop where
  result : left.result = right.result
  server : left.server.unfiltered = right.server.unfiltered

/-! ## One call over two filters -/

namespace Server

/-- Deciding a mapping request does not involve the rules. -/
theorem decideMapping_withRules (server : Server β σ) (rules : Synchronizer γ)
    (request : MappingRequest) (client : Ipv4) (now : Int) :
    let verdict := (server.decideMapping request client now).value
    ((server.withRules rules).decideMapping request client now).value =
      { externalPort := verdict.externalPort
        lifetime := verdict.lifetime
        changed := verdict.changed
        server := verdict.server.withRules rules } := by
  intro verdict
  have after : verdict.server.refitted rules server.monitor = verdict.server.withRules rules := by
    rcases server_decideMapping server request client now with ⟨table, timers, same⟩
    simp only [verdict, same]
    rfl
  rw [← after]
  exact server.decideMapping_refitted rules server.monitor request client now

section Handlers

variable [Backend β] [Backend γ]

theorem alike_handleMapping (server : Server β σ) (rules : Synchronizer γ)
    (request : MappingRequest) (client : Ipv4) (now : Int) :
    (server.handleMapping request client now).value.Alike
      ((server.withRules rules).handleMapping request client now).value where
  result := by
    rw [result_handleMapping, result_handleMapping, decideMapping_withRules]
    rfl
  server := by
    rcases exists_rules_handleMapping server request client now with ⟨_, left⟩
    rcases exists_rules_handleMapping (server.withRules rules) request client now with ⟨_, right⟩
    rw [left, right, decideMapping_withRules]
    rfl

theorem alike_handleDatagram (server : Server β σ) (rules : Synchronizer γ)
    (datagram : Octets) (peer : Endpoint) (now : Int) :
    (server.handleDatagram datagram peer now).value.Alike
      ((server.withRules rules).handleDatagram datagram peer now).value := by
  cases served : mappingRequest? datagram peer with
  | none =>
      have gateway : server.gateway = (server.withRules rules).gateway := rfl
      refine ⟨result_handleDatagram_of_none gateway now served, ?_⟩
      rw [server_handleDatagram_of_none server now served,
        server_handleDatagram_of_none (server.withRules rules) now served]
      rfl
  | some asked =>
      rcases asked with ⟨request, client⟩
      have alike := alike_handleMapping server rules request client now
      rw [handleDatagram_of_some server now served,
        handleDatagram_of_some (server.withRules rules) now served]
      exact ⟨congrArg (fun response => some response.encode) alike.result, alike.server⟩

/-- A timer that fires ends the same mapping or sends the same announcement. -/
theorem alike_afterTimer (server : Server β σ) (rules : Synchronizer γ)
    (fired : TimerQueue.Fired TimerEvent) (now : Int) :
    (server.afterTimer fired now).Alike ((server.withRules rules).afterTimer fired now) := by
  cases event : fired.event with
  | announce =>
      rw [afterTimer_announce server event, afterTimer_announce (server.withRules rules) event]
      exact ⟨rfl, rfl⟩
  | expire id =>
      cases expired : (server.table.expire id).expired with
      | none =>
          rw [afterTimer_missing server event expired,
            afterTimer_missing (server.withRules rules) event expired]
          exact ⟨rfl, rfl⟩
      | some mapping =>
          rw [afterTimer_expire server event expired,
            afterTimer_expire (server.withRules rules) event expired]
          exact ⟨rfl, rfl⟩

/-- The two filters drift apart from one timer to the next, and the same timers fire. -/
theorem alike_fireTimers (server : Server β σ) (rules : Synchronizer γ) (now : Int) :
    (server.fireTimers now).value.Alike ((server.withRules rules).fireTimers now).value := by
  revert rules
  refine firing_induction now ?done ?next server
  case done =>
    intro server idle rules
    have alsoIdle : (server.withRules rules).timers.popDue now = none := idle
    rw [fireTimers_of_none idle, fireTimers_of_none alsoIdle]
    exact ⟨rfl, rfl⟩
  case next =>
    intro server fired popped ih rules
    have alsoPopped : (server.withRules rules).timers.popDue now = some fired := popped
    have first := alike_afterTimer server rules fired now
    rcases exists_withRules_of_unfiltered_eq first.server with ⟨later, same⟩
    have rest := ih later
    rw [fireTimers_of_some popped, fireTimers_of_some alsoPopped]
    simp only [same]
    exact ⟨congr (congrArg List.append first.result) rest.result, rest.server⟩

omit [Backend β] [Backend γ] in
theorem alike_checkInterface [AddressSource σ] (server : Server β σ) (rules : Synchronizer γ)
    (now : Int) :
    (server.checkInterface now).value.Alike
      ((server.withRules rules).checkInterface now).value := by
  rw [checkInterface, checkInterface]
  cases found : server.monitor.currentAddress.outcome with
  | error failure =>
      have alsoFound :
          (server.withRules rules).monitor.currentAddress.outcome = .error failure := found
      simp only [alsoFound]
      exact ⟨rfl, rfl⟩
  | ok current =>
      have alsoFound :
          (server.withRules rules).monitor.currentAddress.outcome = .ok current := found
      simp only [alsoFound]
      by_cases known : current = server.gateway.externalAddress
      · have alsoKnown : current = (server.withRules rules).gateway.externalAddress := known
        simp only [if_pos known, if_pos alsoKnown]
        exact ⟨rfl, rfl⟩
      · have alsoMoved : ¬current = (server.withRules rules).gateway.externalAddress := known
        simp only [if_neg known, if_neg alsoMoved]
        exact ⟨rfl, rfl⟩

/-- A call over two filters: the answers differ in nothing visible, the servers in nothing but
their filters. -/
theorem alike_respond [AddressSource σ] (server : Server β σ) (rules : Synchronizer γ)
    (call : Call) :
    (server.respond call).result.visible = ((server.withRules rules).respond call).result.visible ∧
      (server.respond call).server.unfiltered =
        ((server.withRules rules).respond call).server.unfiltered := by
  have started : ∀ {δ : Type} [Backend δ] (other : Server δ σ),
      (other.respond .start).server.unfiltered = other.unfiltered := by
    intro δ _ other
    rcases server_respond_start other with ⟨_, same⟩
    rw [same]
    rfl
  have checked : ∀ now,
      (server.respond (.checkInterface now)).result.visible =
          ((server.withRules rules).respond (.checkInterface now)).result.visible ∧
        (server.respond (.checkInterface now)).server.unfiltered =
          ((server.withRules rules).respond (.checkInterface now)).server.unfiltered := by
    intro now
    have alike := alike_checkInterface server rules now
    exact ⟨congrArg (fun change => (Answer.change change).visible) alike.result, alike.server⟩
  cases call with
  | start => exact ⟨rfl, (started server).trans (started (server.withRules rules)).symm⟩
  | datagram datagram peer now =>
      have alike := alike_handleDatagram server rules datagram peer now
      exact ⟨congrArg (fun reply => (Answer.reply reply).visible) alike.result, alike.server⟩
  | interfaceEvent event now =>
      by_cases followed : event.interface = server.monitor.interface
      · have alsoFollowed : event.interface = (server.withRules rules).monitor.interface := followed
        rw [respond, respond, handleInterfaceEvent_of_followed followed,
          handleInterfaceEvent_of_followed alsoFollowed]
        exact checked now
      · have alsoForeign : event.interface ≠ (server.withRules rules).monitor.interface := followed
        rw [respond, respond, handleInterfaceEvent_of_foreign followed,
          handleInterfaceEvent_of_foreign alsoForeign]
        exact ⟨rfl, rfl⟩
  | checkInterface now => exact checked now
  | fireTimers now =>
      have alike := alike_fireTimers server rules now
      exact ⟨congrArg (fun packets => (Answer.announcements packets).visible) alike.result,
        alike.server⟩
  | shutdown => exact ⟨rfl, rfl⟩

end Handlers

/-! ## Runs over any filter -/

section Runs

variable [Backend β] [Backend γ] [AddressSource σ]

/-- What the calls of a run show, one after the other. -/
def shown {α : Type} (view : Server β σ → Call → List α) (server : Server β σ) :
    List (Step β σ) → List α
  | [] => []
  | .call call :: rest => view server call ++ (server.step (.call call)).shown view rest
  | step :: rest => (server.step step).shown view rest

/-- A run passes through the states of the run of the same calls without a filter, and shows
the same by any view that leaves the filter out. -/
theorem unfiltered_run {α : Type} {view : Server β σ → Call → List α}
    {bareView : Server NoFilter σ → Call → List α}
    (agree : ∀ (server : Server β σ) rules call,
      view server call = bareView (server.withRules rules) call)
    {server : Server β σ} {bare : Server NoFilter σ} (same : server.unfiltered = bare.unfiltered)
    (steps : List (Step β σ)) :
    server.shown view steps = bare.shown bareView (steps.filterMap Step.unfiltered?) ∧
      (server.run steps).unfiltered =
        (bare.run (steps.filterMap Step.unfiltered?)).unfiltered := by
  induction steps generalizing server bare with
  | nil => exact ⟨rfl, same⟩
  | cons first rest ih =>
      rcases exists_withRules_of_unfiltered_eq same with ⟨rules, rfl⟩
      cases first with
      | filter change => exact ih rfl
      | addresses change => exact ih rfl
      | call call =>
          have later := ih (alike_respond server rules call).2
          refine ⟨?_, later.2⟩
          exact congr (congrArg List.append (agree server rules call)) later.1

/-- What a call shows to all but the packet filter. -/
structure Observation (σ : Type) where
  /-- The answer, whether the rules could be changed left out. -/
  answer : Answer
  nextDeadline : Option Int
  /-- The server after the call: its mappings, address, timers, announcer and monitor. -/
  server : Server NoFilter σ

/-- What a call shows to all but the packet filter. -/
def observe (server : Server β σ) (call : Call) : List (Observation σ) :=
  let handled := server.respond call
  [{ answer := handled.result.visible
     nextDeadline := handled.server.nextDeadline
     server := handled.server.unfiltered }]

theorem observe_withRules (server : Server β σ) (rules : Synchronizer γ) (call : Call) :
    server.observe call = (server.withRules rules).observe call := by
  have alike := alike_respond server rules call
  have deadline := congrArg nextDeadline alike.2
  simp only [observe, alike.1, alike.2]
  exact congrArg (fun next => [Observation.mk _ next _]) deadline

/-- Over any two filters, whatever they refuse and when, two servers that are otherwise in one
state go on alike: as long as they get the same calls and the same changes of the followed
interface, each call is answered alike, leaves the same next deadline, and leads to states
that only the filters tell apart. -/
theorem observations_same_over_filters {left : Server β σ} {right : Server γ σ}
    (same : left.unfiltered = right.unfiltered) {leftSteps : List (Step β σ)}
    {rightSteps : List (Step γ σ)}
    (sameCalls : leftSteps.filterMap Step.unfiltered? =
      rightSteps.filterMap Step.unfiltered?) :
    left.shown observe leftSteps = right.shown observe rightSteps ∧
      (left.run leftSteps).unfiltered = (right.run rightSteps).unfiltered := by
  have leftSame : left.unfiltered = left.unfiltered.unfiltered := rfl
  have rightSame : right.unfiltered = left.unfiltered.unfiltered := same.symm
  have leftRun := unfiltered_run observe_withRules leftSame leftSteps
  have rightRun := unfiltered_run observe_withRules rightSame rightSteps
  rw [← sameCalls] at rightRun
  exact ⟨leftRun.1.trans rightRun.1.symm, leftRun.2.trans rightRun.2.symm⟩

end Runs

/-- A client is granted a port under each transport, one of them for ten seconds only; timers
are fired after a minute, and the server is shut down. -/
def grantsAndShutdown : List Call :=
  [.checkInterface 0, .ask ⟨10, 0, 0, 5⟩ ⟨.udp, 80, 0, 10⟩ 0,
    .ask ⟨10, 0, 0, 5⟩ ⟨.tcp, 80, 0, 3600⟩ 0, .fireTimers (seconds 60), .shutdown]

/-- Each call, asked when the filter is about to refuse to open a transaction. -/
def refused (calls : List Call) : List (Step (Faulty MemoryFilter) σ) :=
  calls.flatMap fun call => [.filter (·.refuseOpen .busy), .call call]

theorem filterMap_unfiltered?_refused (calls : List Call) :
    (refused calls : List (Step (Faulty MemoryFilter) σ)).filterMap Step.unfiltered? =
      (calls.map .call : List (Step MemoryFilter σ)).filterMap Step.unfiltered? := by
  induction calls with
  | nil => rfl
  | cons call rest ih => exact congrArg (.call call :: ·) ih

/-- One interface is followed, over a filter whose faults can be chosen. -/
def atFaultyFilter : Server (Faulty MemoryFilter) AddressTable :=
  new ⟨{ inner := .empty }, 0⟩ oneInterface 0 (.ofList [50000])

/-- A filter that refuses to open a transaction, each time it is asked to, loses all of the
rules that another filter installs, and nobody can tell the servers apart by anything else. -/
theorem observations_same_over_closedFilter :
    atOneInterface.unfiltered = atFaultyFilter.unfiltered ∧
      (atOneInterface.run (grantsAndShutdown.map .call)).rules.backend.commits = 4 ∧
      (atFaultyFilter.run (refused grantsAndShutdown)).rules.backend.inner.commits = 0 ∧
      atOneInterface.shown observe (grantsAndShutdown.map .call) =
        atFaultyFilter.shown observe (refused grantsAndShutdown) := by
  have same : atOneInterface.unfiltered = atFaultyFilter.unfiltered := rfl
  have alike := observations_same_over_filters same
    (filterMap_unfiltered?_refused grantsAndShutdown).symm
  refine ⟨same, ?_, ?_, alike.1⟩
  · decide +kernel
  · decide +kernel

end Server

end PortMapping
