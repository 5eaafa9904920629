import PortMapping.Firewall.Memory
import PortMapping.Proofs.RuleHistory

/-!
# The filter's rules and the mappings

Over rules kept in memory, a rebuild either installs one rule for each mapping or
leaves the rules in force as they were, and closes its transaction in both cases,
whatever refusals are queued.  So at any time the rules in force are those of the
last rebuild that succeeded, and they agree with the mappings whenever the last
rebuild did.
-/

namespace PortMapping

/-! ## The four ways a rebuild can go -/

namespace Synchronizer

variable {β : Type} [Backend β] (rules : Synchronizer β) (mappings : List Mapping)

/-- The transaction as it is opened for a rebuild. -/
def opened : Attempt β := (Backend.openTransaction rules.backend).value

/-- The transaction filled with the rules of the mappings. -/
def filled : Additions β :=
  (addRules rules.opened.backend (mappings.map RedirectRule.ofMapping)).value

/-- The transaction after its commit was tried. -/
def committed : Attempt β := (rules.commitPatiently (rules.filled mappings).backend).value

variable {rules mappings}

theorem rebuild_of_opened_error {refusal : BackendError}
    (open_refused : rules.opened.outcome = .error refusal) :
    (rules.rebuild mappings).value =
      rules.finish (.error (.openTransaction refusal)) rules.opened.backend := by
  rw [opened] at open_refused
  simp only [rebuild, Logged.value_bind, open_refused]
  rfl

theorem rebuild_of_refused {rule : RedirectRule} {refusal : BackendError}
    (isOpen : rules.opened.outcome = .ok ())
    (refused : (rules.filled mappings).refused = some (rule, refusal)) :
    (rules.rebuild mappings).value =
      rules.finish (.error (.addRule rule refusal))
        (Backend.rollback (rules.filled mappings).backend) := by
  rw [opened] at isOpen
  rw [filled, opened] at refused
  simp only [rebuild, Logged.value_bind, isOpen, refused]
  rfl

theorem rebuild_of_committed_error {refusal : BackendError}
    (isOpen : rules.opened.outcome = .ok ()) (isFilled : (rules.filled mappings).refused = none)
    (refused : (rules.committed mappings).outcome = .error refusal) :
    (rules.rebuild mappings).value =
      rules.finish (.error (.commit refusal))
        (Backend.rollback (rules.committed mappings).backend) := by
  rw [opened] at isOpen
  rw [filled, opened] at isFilled
  rw [committed, filled, opened] at refused
  simp only [rebuild, Logged.value_bind, isOpen, isFilled, refused]
  rfl

theorem rebuild_of_committed_ok (isOpen : rules.opened.outcome = .ok ())
    (isFilled : (rules.filled mappings).refused = none)
    (installed : (rules.committed mappings).outcome = .ok ()) :
    (rules.rebuild mappings).value =
      rules.finish (.ok mappings.length) (rules.committed mappings).backend := by
  rw [opened] at isOpen
  rw [filled, opened] at isFilled
  rw [committed, filled, opened] at installed
  simp only [rebuild, Logged.value_bind, isOpen, isFilled, installed]
  rfl

end Synchronizer

/-! ## Adding and committing, by their outcomes -/

namespace Synchronizer

variable {β : Type} [Backend β] {backend : β}

theorem addRules_of_ok {rule : RedirectRule}
    (added : (Backend.addRedirect backend rule).value.outcome = .ok ())
    (rules : List RedirectRule) :
    (addRules backend (rule :: rules)).value =
      (addRules (Backend.addRedirect backend rule).value.backend rules).value := by
  simp only [addRules, Logged.value_bind, added]

theorem addRules_of_error {rule : RedirectRule} {refusal : BackendError}
    (refused : (Backend.addRedirect backend rule).value.outcome = .error refusal)
    (rules : List RedirectRule) :
    (addRules backend (rule :: rules)).value =
      ⟨some (rule, refusal), (Backend.addRedirect backend rule).value.backend⟩ := by
  simp only [addRules, Logged.value_bind, refused]
  rfl

/-- Only a busy filter is tried again. -/
theorem commitPatiently_of_ne_busy (rules : Synchronizer β)
    (notBusy : (Backend.commit backend).value.outcome ≠ .error .busy) :
    (rules.commitPatiently backend).value = (Backend.commit backend).value := by
  simp only [commitPatiently, Logged.value_bind]
  rfl

theorem commitPatiently_of_ok (rules : Synchronizer β)
    (accepted : (Backend.commit backend).value.outcome = .ok ()) :
    (rules.commitPatiently backend).value = (Backend.commit backend).value := by
  apply rules.commitPatiently_of_ne_busy
  rw [accepted]
  nofun

/-- A busy filter is tried once more. -/
theorem commitPatiently_of_busy (rules : Synchronizer β)
    (busy : (Backend.commit backend).value.outcome = .error .busy) :
    (rules.commitPatiently backend).value =
      (Backend.commit (Backend.commit backend).value.backend).value := by
  simp only [commitPatiently, Logged.value_bind, busy]
  split <;> rfl

end Synchronizer

/-! ## Rebuilding rules kept in memory -/

namespace MemoryFilter

@[simp] theorem addRedirect_eq (filter : MemoryFilter) (rule : RedirectRule) :
    Backend.addRedirect filter rule = pure (filter.addRedirect rule) := rfl

@[simp] theorem commit_eq (filter : MemoryFilter) : Backend.commit filter = filter.commit := rfl

/-- Adding rules touches the staged set only, and stages all of them unless one is
refused. -/
theorem addRules_spec {filter : MemoryFilter} {staged : List RedirectRule}
    (opened : filter.staged = some staged) (rules : List RedirectRule) :
    (Synchronizer.addRules filter rules).value.backend.active = filter.active ∧
      ((Synchronizer.addRules filter rules).value.refused = none →
        (Synchronizer.addRules filter rules).value.backend.staged = some (staged ++ rules)) := by
  induction rules generalizing filter staged with
  | nil =>
      rw [List.append_nil]
      exact ⟨rfl, fun _ => opened⟩
  | cons rule rules ih =>
      cases refusals : filter.addRefusals with
      | cons refusal later =>
          simp [Synchronizer.addRules, addRedirect, refusals]
      | nil =>
          have added : filter.addRedirect rule =
              ⟨.ok (), { filter with staged := some (staged ++ [rule]) }⟩ := by
            simp only [addRedirect, refusals, opened]
          have accepted : (Backend.addRedirect filter rule).value.outcome = .ok () :=
            congrArg Attempt.outcome added
          have stillOpen : ({ filter with staged := some (staged ++ [rule]) } :
              MemoryFilter).staged = some (staged ++ [rule]) := rfl
          have rest := ih stillOpen
          rw [List.append_assoc] at rest
          rw [Synchronizer.addRules_of_ok accepted, addRedirect_eq, Logged.value_pure, added]
          exact rest

/-- A commit replaces the active rules by the staged ones or leaves them alone. -/
theorem commit_spec {filter : MemoryFilter} {staged : List RedirectRule}
    (opened : filter.staged = some staged) :
    match filter.commit.value.outcome with
    | .ok _ =>
        filter.commit.value.backend.active = staged ∧
          filter.commit.value.backend.staged = none
    | .error _ =>
        filter.commit.value.backend.active = filter.active ∧
          filter.commit.value.backend.staged = some staged := by
  rw [commit]
  cases refusals : filter.commitRefusals with
  | cons refusal later => exact ⟨rfl, opened⟩
  | nil =>
      rw [opened]
      exact ⟨rfl, rfl⟩

theorem commitPatiently_spec (rules : Synchronizer MemoryFilter) {filter : MemoryFilter}
    {staged : List RedirectRule} (opened : filter.staged = some staged) :
    let attempt := (rules.commitPatiently filter).value
    match attempt.outcome with
    | .ok _ => attempt.backend.active = staged ∧ attempt.backend.staged = none
    | .error _ => attempt.backend.active = filter.active := by
  have first := commit_spec opened
  by_cases busy : filter.commit.value.outcome = .error .busy
  · rw [busy] at first
    have second := commit_spec first.2
    rw [Synchronizer.commitPatiently_of_busy rules busy, commit_eq, commit_eq]
    cases outcome : filter.commit.value.backend.commit.value.outcome with
    | ok _ =>
        rw [outcome] at second
        simp only [outcome]
        exact second
    | error refusal =>
        rw [outcome] at second
        simp only [outcome]
        exact second.1.trans first.1
  · rw [Synchronizer.commitPatiently_of_ne_busy rules busy, commit_eq]
    cases outcome : filter.commit.value.outcome with
    | ok _ =>
        rw [outcome] at first
        simp only [outcome]
        exact first
    | error refusal =>
        rw [outcome] at first
        simp only [outcome]
        exact first.1

/-- A rebuild closes its transaction.  It installs the rules of the mappings if it
succeeds and leaves the rules in force alone if it fails. -/
theorem rebuild_spec (rules : Synchronizer MemoryFilter) (mappings : List Mapping) :
    let update := (rules.rebuild mappings).value
    update.synchronizer.backend.staged = none ∧
      update.synchronizer.backend.active =
        if update.outcome.isOk then mappings.map RedirectRule.ofMapping
        else rules.backend.active := by
  have isOpen : rules.opened.outcome = .ok () := rfl
  have emptySet : rules.opened.backend.staged = some [] := rfl
  have added := addRules_spec emptySet (mappings.map RedirectRule.ofMapping)
  rw [List.nil_append] at added
  cases refused : (rules.filled mappings).refused with
  | some refusal =>
      rw [Synchronizer.rebuild_of_refused isOpen refused]
      exact ⟨rfl, added.1⟩
  | none =>
      have committed := commitPatiently_spec rules (added.2 refused)
      cases outcome : (rules.committed mappings).outcome with
      | ok _ =>
          rw [Synchronizer.rebuild_of_committed_ok isOpen refused outcome]
          rw [Synchronizer.committed, Synchronizer.filled] at outcome
          simp only [outcome] at committed
          exact ⟨committed.2, committed.1⟩
      | error refusal =>
          rw [Synchronizer.rebuild_of_committed_error isOpen refused outcome]
          rw [Synchronizer.committed, Synchronizer.filled] at outcome
          simp only [outcome] at committed
          exact ⟨rfl, committed.trans added.1⟩

end MemoryFilter

/-! ## Runs that are watched -/

/-- The mappings of the last rebuild that succeeded, none if none did. -/
def lastInstalled (rebuilds : List Rebuild) : List Mapping :=
  ((rebuilds.filter Rebuild.succeeded).getLast?.map Rebuild.mappings).getD []

theorem lastInstalled_append_singleton (rebuilds : List Rebuild) (rebuild : Rebuild) :
    lastInstalled (rebuilds ++ [rebuild]) =
      if rebuild.succeeded then rebuild.mappings else lastInstalled rebuilds := by
  rw [lastInstalled, List.filter_append]
  split
  next succeeded => simp [succeeded]
  next failed => simp [failed, lastInstalled]

/-- A server, together with the rebuilds since the rules were last reset. -/
structure Watched (β σ : Type) where
  server : Server β σ
  rebuilds : List Rebuild

namespace Watched

variable {β σ : Type} [Backend β] [AddressSource σ]

/-- Take a step and note its rebuilds; a start resets the rules first. -/
def step (watched : Watched β σ) (step : Step β σ) : Watched β σ where
  server := watched.server.step step
  rebuilds :=
    match step with
    | .call .start => watched.server.rebuilds .start
    | .call call => watched.rebuilds ++ watched.server.rebuilds call
    | _ => watched.rebuilds

/-- Take the steps of a run. -/
def run (watched : Watched β σ) (steps : List (Step β σ)) : Watched β σ :=
  steps.foldl step watched

theorem server_run (watched : Watched β σ) (steps : List (Step β σ)) :
    (watched.run steps).server = watched.server.run steps := by
  induction steps generalizing watched with
  | nil => rfl
  | cons first rest ih => exact ih (watched.step first)

end Watched

/-- A step that, if it changes the filter by itself, only queues a refusal of a coming
commit or addition. -/
def Step.QueuesOnly {σ : Type} : Step MemoryFilter σ → Prop
  | .filter change =>
      ∃ refusal, change = (·.refuseCommit refusal) ∨ change = (·.refuseAdd refusal)
  | _ => True

/-- Rules kept in memory are those of the last rebuild that succeeded, and no transaction
is open. -/
structure InForce (rules : Synchronizer MemoryFilter) (rebuilds : List Rebuild) : Prop where
  closed : rules.backend.inTransaction = false
  active : rules.backend.active = (lastInstalled rebuilds).map RedirectRule.ofMapping

theorem InForce.rebuilt {rules last : Synchronizer MemoryFilter}
    {earlier rebuilds : List Rebuild} (inForce : InForce rules earlier)
    (rebuilt : Rebuilt rules rebuilds last) : InForce last (earlier ++ rebuilds) := by
  induction rebuilt generalizing earlier with
  | done =>
      rw [List.append_nil]
      exact inForce
  | @next rules _ mappings later _ ih =>
      rw [List.append_cons]
      apply ih
      have spec := MemoryFilter.rebuild_spec rules mappings
      constructor
      · rw [MemoryFilter.inTransaction, spec.1]
        rfl
      · rw [lastInstalled_append_singleton, spec.2, Rebuild.succeeded]
        split
        · rfl
        · exact inForce.active

namespace Watched

variable {σ : Type} [AddressSource σ] {watched : Watched MemoryFilter σ}

/-- The invariant of a watched run after its start. -/
structure Agrees (watched : Watched MemoryFilter σ) : Prop where
  inForce : InForce watched.server.rules watched.rebuilds
  /-- The mappings ask for the rules of the last rebuild. -/
  asked : watched.rebuilds.getLast?.map Rebuild.rules = some watched.server.redirects

/-- A start clears the rules and rebuilds them, so it establishes the invariant. -/
theorem agrees_start (watched : Watched MemoryFilter σ) :
    (watched.step (.call .start)).Agrees where
  inForce := by
    have cleared : InForce (watched.server.rulesBefore .start) [] := ⟨rfl, rfl⟩
    exact cleared.rebuilt (Server.rebuilt_respond watched.server .start)
  asked := rfl

/-- Any further call keeps the invariant. -/
theorem Agrees.call (agrees : watched.Agrees) (call : Call) :
    (watched.step (.call call)).Agrees := by
  by_cases starts : call = .start
  · rw [starts]
    exact agrees_start watched
  · have rulesSame : watched.server.rulesBefore call = watched.server.rules := by
      cases call <;> first | rfl | contradiction
    have rebuildsSame : (watched.step (.call call)).rebuilds =
        watched.rebuilds ++ watched.server.rebuilds call := by
      cases call <;> first | rfl | contradiction
    have rebuilt := Server.rebuilt_respond watched.server call
    rw [rulesSame] at rebuilt
    constructor
    · rw [rebuildsSame]
      exact agrees.inForce.rebuilt rebuilt
    · have redirects : (watched.step (.call call)).server.redirects =
          lastAsked watched.server.redirects (watched.server.rebuilds call) :=
        Server.redirects_respond watched.server call
      rw [rebuildsSame, redirects, lastAsked, List.getLast?_append]
      cases (watched.server.rebuilds call).getLast? with
      | none => exact agrees.asked
      | some last => rfl

theorem Agrees.step (agrees : watched.Agrees) {step : Step MemoryFilter σ}
    (queuesOnly : step.QueuesOnly) : (watched.step step).Agrees := by
  cases step with
  | call call => exact agrees.call call
  | addresses change => exact ⟨agrees.inForce, agrees.asked⟩
  | filter change =>
      rcases queuesOnly with ⟨refusal, rfl | rfl⟩
      · exact ⟨⟨agrees.inForce.closed, agrees.inForce.active⟩, agrees.asked⟩
      · exact ⟨⟨agrees.inForce.closed, agrees.inForce.active⟩, agrees.asked⟩

theorem Agrees.run (agrees : watched.Agrees) {steps : List (Step MemoryFilter σ)}
    (queuesOnly : ∀ step ∈ steps, step.QueuesOnly) : (watched.run steps).Agrees := by
  induction steps generalizing watched with
  | nil => exact agrees
  | cons first rest ih =>
      apply ih (agrees.step (queuesOnly first List.mem_cons_self))
      intro step member
      exact queuesOnly step (List.mem_cons_of_mem first member)

end Watched

/-- The rebuilds of a run since the rules were last reset. -/
def Server.history {β σ : Type} [Backend β] [AddressSource σ] (server : Server β σ)
    (steps : List (Step β σ)) : List Rebuild :=
  (Watched.run ⟨server, []⟩ steps).rebuilds

/-- Whatever refusals are queued at whatever points of a run after its start: no
transaction is open, the rules in force are those of the mappings at the last rebuild
that succeeded, and they are those of the present mappings whenever the last rebuild
succeeded.  The history lists all that happens to the rules: no call does anything to
them but its rebuilds. -/
theorem rules_in_force_of_run {σ : Type} [AddressSource σ] (rules : Synchronizer MemoryFilter)
    (monitor : Monitor σ) (startTime : Int) (ports : PortSource)
    (steps : List (Step MemoryFilter σ)) (queuesOnly : ∀ step ∈ steps, step.QueuesOnly) :
    let first := Server.new rules monitor startTime ports
    let server := first.run (.call .start :: steps)
    let history := first.history (.call .start :: steps)
    server.rules.backend.inTransaction = false ∧
      server.rules.backend.active = (lastInstalled history).map RedirectRule.ofMapping ∧
      (∀ last, history.getLast? = some last → last.succeeded = true →
        server.rules.backend.active =
          server.table.mappings.map RedirectRule.ofMapping) ∧
      ∀ call, Rebuilt (server.rulesBefore call) (server.rebuilds call)
        (server.respond call).server.rules := by
  intro first server history
  have agrees : (Watched.run ⟨first, []⟩ (.call .start :: steps)).Agrees :=
    (Watched.agrees_start ⟨first, []⟩).run queuesOnly
  have same : (Watched.run ⟨first, []⟩ (.call .start :: steps)).server = server :=
    Watched.server_run _ _
  have inForce := agrees.inForce
  have asked := agrees.asked
  rw [same] at inForce asked
  refine ⟨inForce.closed, inForce.active, ?_, server.rebuilt_respond⟩
  intro last isLast succeeded
  -- The last rebuild being a success, it is also the last success.
  have lastIs : lastInstalled history = last.mappings := by
    rcases List.getLast?_eq_some_iff.mp isLast with ⟨earlier, split⟩
    rw [split, lastInstalled_append_singleton, if_pos succeeded]
  have asksSame : last.rules = server.redirects := by
    have isLast : (Watched.run ⟨first, []⟩ (.call .start :: steps)).rebuilds.getLast? =
      some last := isLast
    rw [isLast] at asked
    exact Option.some.inj asked
  rw [inForce.active]
  exact (congrArg _ lastIs).trans asksSame

/-- Three clients ask for a port each.  Two refused commits spoil the first rebuild and a
refused addition the last one. -/
def spoiledRebuilds : List (Step MemoryFilter AddressTable) :=
  let request : MappingRequest := ⟨.udp, 80, 0, 3600⟩
  [.call (.checkInterface 0),
    .filter (·.refuseCommit .busy), .filter (·.refuseCommit .busy),
    .call (.ask ⟨10, 0, 0, 5⟩ request (seconds 1)),
    .call (.ask ⟨10, 0, 0, 6⟩ request (seconds 2)),
    .filter (·.refuseAdd .busy),
    .call (.ask ⟨10, 0, 0, 7⟩ request (seconds 3))]

theorem rules_in_force_of_spoiledRebuilds :
    (∀ step ∈ spoiledRebuilds, step.QueuesOnly) ∧
      let first := Server.new ⟨.empty, 0⟩ oneInterface 0 (.ofList [50000])
      let server := first.run (.call .start :: spoiledRebuilds)
      let history := first.history (.call .start :: spoiledRebuilds)
      server.table.size = 3 ∧ (lastInstalled history).length = 2 ∧
        server.rules.backend.inTransaction = false ∧
        server.rules.backend.active = (lastInstalled history).map RedirectRule.ofMapping := by
  have queuesOnly : ∀ step ∈ spoiledRebuilds, step.QueuesOnly := by
    simp only [spoiledRebuilds, List.forall_mem_cons]
    exact ⟨trivial, ⟨.busy, .inl rfl⟩, ⟨.busy, .inl rfl⟩, trivial, trivial,
      ⟨.busy, .inr rfl⟩, trivial, nofun⟩
  have inForce := rules_in_force_of_run ⟨.empty, 0⟩ oneInterface 0 (.ofList [50000]) _ queuesOnly
  refine ⟨queuesOnly, ?_, ?_, inForce.1, inForce.2.1⟩
  · rfl
  · rfl

end PortMapping
