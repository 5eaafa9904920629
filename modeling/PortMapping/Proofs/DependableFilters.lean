import PortMapping.Proofs.RuleConsistency

/-!
# Filters that never fail

A filter is dependable in the states in which all of its calls succeed.  Over such a filter
every rebuild installs the rules that the mappings ask for, so whenever they ask for any at
all, the rules in force are just those.  Before the first rebuild the filter may still have
rules that a previous run left behind; no mapping asks for anything then.
-/

namespace PortMapping

/-- What a filter is known to do while it is sound, which its own calls leave it. -/
structure Dependable (β : Type) [Backend β] where
  /-- The rules in force. -/
  active : β → List RedirectRule
  /-- The rule set being filled, while a transaction is open. -/
  staged : β → Option (List RedirectRule)
  /-- No call fails in this state. -/
  Sound : β → Prop
  reset : ∀ filter, Sound filter →
    let attempt := (Backend.reset filter).value
    attempt.outcome = .ok () ∧ Sound attempt.backend
  openTransaction : ∀ filter, Sound filter →
    let attempt := (Backend.openTransaction filter).value
    attempt.outcome = .ok () ∧ Sound attempt.backend ∧ staged attempt.backend = some []
  addRedirect : ∀ filter rules rule, Sound filter → staged filter = some rules →
    let attempt := (Backend.addRedirect filter rule).value
    attempt.outcome = .ok () ∧ Sound attempt.backend ∧
      staged attempt.backend = some (rules ++ [rule])
  commit : ∀ filter rules, Sound filter → staged filter = some rules →
    let attempt := (Backend.commit filter).value
    attempt.outcome = .ok () ∧ Sound attempt.backend ∧ active attempt.backend = rules

/-- Rules kept in memory never fail to be installed while no refusal is queued. -/
def MemoryFilter.dependable : Dependable MemoryFilter where
  active := MemoryFilter.active
  staged := MemoryFilter.staged
  Sound filter := filter.commitRefusals = [] ∧ filter.addRefusals = []
  reset _ sound := ⟨rfl, sound⟩
  openTransaction _ sound := ⟨rfl, sound, rfl⟩
  addRedirect filter rules rule sound isOpen := by
    have added : filter.addRedirect rule =
        ⟨.ok (), { filter with staged := some (rules ++ [rule]) }⟩ := by
      simp only [MemoryFilter.addRedirect, sound.2, isOpen]
    simp only [addRedirect_eq, Logged.value_pure, added]
    exact ⟨trivial, sound, trivial⟩
  commit filter rules sound isOpen := by
    simp only [commit_eq, MemoryFilter.commit, sound.1, isOpen]
    exact ⟨trivial, ⟨trivial, sound.2⟩, trivial⟩

namespace Dependable

variable {β : Type} [Backend β] (filter : Dependable β) {rules : Synchronizer β}

theorem addRules_of_sound {backend : β} {staged : List RedirectRule}
    (sound : filter.Sound backend) (isOpen : filter.staged backend = some staged)
    (added : List RedirectRule) :
    let additions := (Synchronizer.addRules backend added).value
    additions.refused = none ∧ filter.Sound additions.backend ∧
      filter.staged additions.backend = some (staged ++ added) := by
  induction added generalizing backend staged with
  | nil =>
      rw [List.append_nil]
      exact ⟨rfl, sound, isOpen⟩
  | cons rule rest ih =>
      rcases filter.addRedirect backend staged rule sound isOpen with ⟨accepted, still, isFilled⟩
      have later := ih still isFilled
      rw [List.append_assoc] at later
      rw [Synchronizer.addRules_of_ok accepted]
      exact later

/-- A rebuild installs the rules of the mappings. -/
theorem rebuild_of_sound (sound : filter.Sound rules.backend) (mappings : List Mapping) :
    let update := (rules.rebuild mappings).value
    filter.Sound update.synchronizer.backend ∧
      filter.active update.synchronizer.backend = mappings.map RedirectRule.ofMapping := by
  rcases filter.openTransaction rules.backend sound with ⟨isOpen, opened, emptySet⟩
  rcases filter.addRules_of_sound opened emptySet (mappings.map RedirectRule.ofMapping) with
    ⟨isFilled, filled, staged⟩
  rcases filter.commit _ _ filled staged with ⟨installed, committed, inForce⟩
  have patiently := rules.commitPatiently_of_ok installed
  have accepted : (rules.committed mappings).outcome = .ok () :=
    (congrArg Attempt.outcome patiently).trans installed
  rw [Synchronizer.rebuild_of_committed_ok isOpen isFilled accepted]
  simp only [Synchronizer.finish, Synchronizer.committed, Synchronizer.filled,
    Synchronizer.opened, patiently]
  exact ⟨committed, inForce⟩

/-- After a sequence of rebuilds the rules in force are those asked for last. -/
theorem active_of_rebuilt {last : Synchronizer β} {rebuilds : List Rebuild}
    (rebuilt : Rebuilt rules rebuilds last) (sound : filter.Sound rules.backend) :
    filter.Sound last.backend ∧
      filter.active last.backend = lastAsked (filter.active rules.backend) rebuilds := by
  induction rebuilt with
  | done => exact ⟨sound, rfl⟩
  | @next rules _ mappings later _ ih =>
      rcases filter.rebuild_of_sound sound mappings with ⟨still, inForce⟩
      rw [inForce] at ih
      have rest := ih still
      refine ⟨rest.1, rest.2.trans ?_⟩
      rw [← List.singleton_append, lastAsked_append]
      rfl

/-! ## Runs over a dependable filter -/

variable {σ : Type} {server : Server β σ}

/-- A step that, if it changes the filter by itself, keeps it sound and its rules in force. -/
def Spares : Step β σ → Prop
  | .filter change => ∀ backend, filter.Sound backend →
      filter.Sound (change backend) ∧ filter.active (change backend) = filter.active backend
  | _ => True

/-- The filter is sound, and has the rules that the mappings ask for if they ask for any. -/
structure InStep (server : Server β σ) : Prop where
  sound : filter.Sound server.rules.backend
  agrees : server.redirects = [] ∨ filter.active server.rules.backend = server.redirects

variable {filter} [AddressSource σ]

theorem InStep.call (inStep : filter.InStep server) (call : Call) :
    filter.InStep (server.step (.call call)) := by
  have resets := filter.reset server.rules.backend inStep.sound
  have soundBefore : filter.Sound (server.rulesBefore call).backend := by
    cases call with
    | start => exact resets.2
    | datagram | interfaceEvent | checkInterface | fireTimers | shutdown => exact inStep.sound
  have after := filter.active_of_rebuilt (server.rebuilt_respond call) soundBefore
  refine ⟨after.1, ?_⟩
  rw [Server.step, server.redirects_respond call, after.2]
  by_cases rebuilt : server.rebuilds call = []
  · have kept : server.rulesBefore call = server.rules := by
      cases call with
      | start =>
          have succeeds : server.rules.reset.value.outcome = .ok () :=
            congrArg (Except.mapError SyncError.reset) resets.1
          simp [Server.rebuilds, succeeds] at rebuilt
      | datagram | interfaceEvent | checkInterface | fireTimers | shutdown => rfl
    rw [rebuilt, kept]
    exact inStep.agrees
  · right
    exact lastAsked_of_ne_nil rebuilt _ _

theorem InStep.step (inStep : filter.InStep server) {step : Step β σ}
    (spares : filter.Spares step) : filter.InStep (server.step step) := by
  cases step with
  | call call => exact inStep.call call
  | addresses change => exact ⟨inStep.sound, inStep.agrees⟩
  | filter change =>
      rcases spares server.rules.backend inStep.sound with ⟨sound, same⟩
      exact ⟨sound, inStep.agrees.imp_right same.trans⟩

/-- Whatever a run over a dependable filter has redirected is in force. -/
theorem mem_active_of_run {rules : Synchronizer β} (sound : filter.Sound rules.backend)
    (monitor : Monitor σ) (startTime : Int) (ports : PortSource) {steps : List (Step β σ)}
    (spares : ∀ step ∈ steps, filter.Spares step) {rule : RedirectRule}
    (member : rule ∈ ((Server.new rules monitor startTime ports).run steps).redirects) :
    rule ∈ filter.active
      ((Server.new rules monitor startTime ports).run steps).rules.backend := by
  have first : filter.InStep (Server.new rules monitor startTime ports) := ⟨sound, .inl rfl⟩
  have inStep : filter.InStep ((Server.new rules monitor startTime ports).run steps) :=
    Server.run_invariant (fun _ step among inStep => inStep.step (spares step among)) first
  rcases inStep.agrees with nothing | agrees
  · rw [nothing] at member
    contradiction
  · rw [agrees]
    exact member

end Dependable

end PortMapping
