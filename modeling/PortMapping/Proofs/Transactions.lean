import PortMapping.Proofs.RecordedCalls

/-!
# The transaction of a rebuild

Whatever a backend answers, the calls of a rebuild form one transaction.  It is opened, filled
with the rules in order, and committed, a busy filter being asked a second time; the first
refusal after it was opened discards it.  `Transacts` lists all the ways this can go.  So a
rebuild that fails over rules kept in memory leaves them in force as they were.
-/

namespace PortMapping

/-- A call of a backend, and what came of it. -/
structure FilterExchange where
  call : FilterCall
  outcome : Except BackendError Unit

namespace FilterExchange

/-- A call that the backend accepted. -/
def accepted (call : FilterCall) : FilterExchange := ⟨call, .ok ()⟩

/-- A call that the backend refused. -/
def refused (call : FilterCall) (cause : BackendError) : FilterExchange := ⟨call, .error cause⟩

/-- A transaction that was opened and took some rules. -/
def filled (rules : List RedirectRule) : List FilterExchange :=
  accepted .openTransaction :: rules.map fun rule => accepted (.addRedirect rule)

end FilterExchange

open FilterExchange

/-! ## The ways a rebuild can go -/

/-- The commits of a transaction, and what came of the last: one more is tried exactly if the
filter is busy. -/
inductive Commits : List FilterExchange → Except BackendError Unit → Prop where
  | once {outcome : Except BackendError Unit} (settled : outcome ≠ .error .busy) :
      Commits [⟨.commit, outcome⟩] outcome
  | again (outcome : Except BackendError Unit) :
      Commits [refused .commit .busy, ⟨.commit, outcome⟩] outcome

/-- The calls of a rebuild for a list of rules, and what the rebuild reports. -/
inductive Transacts (rules : List RedirectRule) :
    List FilterExchange → Except SyncError Nat → Prop where
  | notOpened (cause : BackendError) :
      Transacts rules [refused .openTransaction cause] (.error (.openTransaction cause))
  | ruleRefused {added later : List RedirectRule} {rule : RedirectRule}
      (first : rules = added ++ rule :: later) (cause : BackendError) :
      Transacts rules
        (filled added ++ [refused (.addRedirect rule) cause, accepted .rollback])
        (.error (.addRule rule cause))
  | commitRefused {commits : List FilterExchange} {cause : BackendError}
      (tried : Commits commits (.error cause)) :
      Transacts rules (filled rules ++ commits ++ [accepted .rollback])
        (.error (.commit cause))
  | committed {commits : List FilterExchange} (tried : Commits commits (.ok ())) :
      Transacts rules (filled rules ++ commits) (.ok rules.length)

/-- How often a call was made. -/
def timesCalled (call : FilterCall) (exchanges : List FilterExchange) : Nat :=
  exchanges.countP (·.call = call)

/-- How often a transaction was discarded. -/
def rollbacks (exchanges : List FilterExchange) : Nat :=
  exchanges.countP (·.call = .rollback)

section Counting

variable {call : FilterCall}

theorem timesCalled_append (first second : List FilterExchange) :
    timesCalled call (first ++ second) = timesCalled call first + timesCalled call second :=
  List.countP_append

/-- A transaction is filled by additions alone. -/
theorem timesCalled_filled (noAddition : ∀ rule, call ≠ .addRedirect rule)
    (rules : List RedirectRule) :
    timesCalled call (filled rules) = timesCalled call [accepted .openTransaction] := by
  have added : timesCalled call (rules.map fun rule => accepted (.addRedirect rule)) = 0 := by
    simp [timesCalled, accepted, List.countP_eq_zero, (noAddition _).symm]
  rw [filled, ← List.singleton_append, timesCalled_append, added, Nat.add_zero]

theorem Commits.timesCalled_eq_zero (noCommit : call ≠ .commit) {commits : List FilterExchange}
    {outcome : Except BackendError Unit} (tried : Commits commits outcome) :
    timesCalled call commits = 0 := by
  cases tried <;> simp [timesCalled, refused, noCommit.symm]

end Counting

/-- The last of the commits is what their outcome is about. -/
theorem Commits.getLast?_eq {commits : List FilterExchange}
    {outcome : Except BackendError Unit} (tried : Commits commits outcome) :
    commits.getLast? = some ⟨.commit, outcome⟩ := by
  cases tried <;> rfl

/-- How often a rebuild with an outcome discards its transaction: once if it failed after
opening it. -/
def discards : Except SyncError Nat → Nat
  | .ok _ | .error (.openTransaction _) => 0
  | .error _ => 1

namespace Transacts

variable {rules : List RedirectRule} {exchanges : List FilterExchange}
variable {outcome : Except SyncError Nat}

/-- A rebuild succeeds if its last call is a commit that was accepted, and not otherwise. -/
theorem isOk_iff (transacts : Transacts rules exchanges outcome) :
    outcome.isOk = true ↔ exchanges.getLast? = some (accepted .commit) := by
  cases transacts with
  | notOpened cause => simp [Except.isOk, Except.toBool, refused, accepted]
  | ruleRefused first cause => simp [Except.isOk, Except.toBool, accepted]
  | commitRefused tried => simp [Except.isOk, Except.toBool, accepted]
  | committed tried =>
      rw [List.getLast?_append, tried.getLast?_eq]
      simp [Except.isOk, Except.toBool, accepted]

/-- Apart from additions and commits, a transaction is opened, or tried to be, and discarded if
the rebuild failed later. -/
theorem timesCalled_eq {call : FilterCall} (noAddition : ∀ rule, call ≠ .addRedirect rule)
    (noCommit : call ≠ .commit) (transacts : Transacts rules exchanges outcome) :
    timesCalled call exchanges =
      timesCalled call [accepted .openTransaction] +
        timesCalled call (List.replicate (discards outcome) (accepted .rollback)) := by
  cases transacts with
  | notOpened cause => rfl
  | @ruleRefused added later rule first cause =>
      have refusal : timesCalled call [refused (.addRedirect rule) cause, accepted .rollback] =
          timesCalled call [accepted .rollback] := by
        simp [timesCalled, refused, List.countP_cons, (noAddition rule).symm]
      rw [timesCalled_append, timesCalled_filled noAddition, refusal]
      rfl
  | commitRefused tried =>
      rw [timesCalled_append, timesCalled_append, timesCalled_filled noAddition,
        tried.timesCalled_eq_zero noCommit]
      rfl
  | committed tried =>
      rw [timesCalled_append, timesCalled_filled noAddition, tried.timesCalled_eq_zero noCommit]
      rfl

theorem rollbacks_eq (transacts : Transacts rules exchanges outcome) :
    rollbacks exchanges = discards outcome := by
  have counted : timesCalled .rollback exchanges = _ := transacts.timesCalled_eq nofun nofun
  simpa [timesCalled, rollbacks, accepted, List.countP_replicate] using counted

/-- One transaction is opened, or tried to be, whatever comes of it. -/
theorem openings_eq (transacts : Transacts rules exchanges outcome) :
    timesCalled .openTransaction exchanges = 1 := by
  have counted : timesCalled .openTransaction exchanges = _ :=
    transacts.timesCalled_eq nofun nofun
  simpa [timesCalled, accepted, List.countP_replicate] using counted

end Transacts

/-! ## What is noted of the calls -/

namespace Recorded

variable {β : Type}

/-- The calls that were noted, with what came of them. -/
def exchanges (recorded : Recorded β) : List FilterExchange :=
  recorded.records.map fun record => ⟨record.call, record.outcome⟩

@[simp] theorem exchanges_note (recorded : Recorded β) (call : FilterCall)
    (attempt : Attempt β) :
    (recorded.note call attempt).backend.exchanges =
      recorded.exchanges ++ [⟨call, attempt.outcome⟩] := by
  simp [exchanges, note]

variable [Backend β]

theorem exchanges_openTransaction (recorded : Recorded β) :
    (Backend.openTransaction recorded).value.backend.exchanges =
      recorded.exchanges ++
        [⟨.openTransaction, (Backend.openTransaction recorded).value.outcome⟩] :=
  exchanges_note _ _ _

theorem exchanges_addRedirect (recorded : Recorded β) (rule : RedirectRule) :
    (Backend.addRedirect recorded rule).value.backend.exchanges =
      recorded.exchanges ++
        [⟨.addRedirect rule, (Backend.addRedirect recorded rule).value.outcome⟩] :=
  exchanges_note _ _ _

theorem exchanges_commit (recorded : Recorded β) :
    (Backend.commit recorded).value.backend.exchanges =
      recorded.exchanges ++ [⟨.commit, (Backend.commit recorded).value.outcome⟩] :=
  exchanges_note _ _ _

theorem exchanges_rollback (recorded : Recorded β) :
    (Backend.rollback recorded).exchanges = recorded.exchanges ++ [accepted .rollback] :=
  exchanges_note _ _ _

/-- Rules are added in order, up to the first that is refused. -/
theorem exchanges_addRules (recorded : Recorded β) (rules : List RedirectRule) :
    let additions := (Synchronizer.addRules recorded rules).value
    match additions.refused with
    | none =>
        additions.backend.exchanges =
          recorded.exchanges ++ rules.map fun rule => accepted (.addRedirect rule)
    | some (rule, cause) =>
        ∃ added later, rules = added ++ rule :: later ∧
          additions.backend.exchanges =
            recorded.exchanges ++ (added.map fun rule => accepted (.addRedirect rule)) ++
              [refused (.addRedirect rule) cause] := by
  induction rules generalizing recorded with
  | nil => exact (List.append_nil _).symm
  | cons rule rules ih =>
      have noted := exchanges_addRedirect recorded rule
      cases outcome : (Backend.addRedirect recorded rule).value.outcome with
      | error cause =>
          rw [outcome] at noted
          rw [Synchronizer.addRules_of_error outcome]
          exact ⟨[], rules, rfl, by rw [noted]; simp [refused]⟩
      | ok _ =>
          rw [outcome] at noted
          rw [Synchronizer.addRules_of_ok outcome]
          have rest := ih (Backend.addRedirect recorded rule).value.backend
          simp only [noted, List.append_assoc] at rest ⊢
          cases stopped : (Synchronizer.addRules
            (Backend.addRedirect recorded rule).value.backend rules).value.refused with
          | none =>
              simp only [stopped] at rest
              exact rest
          | some refusal =>
              simp only [stopped] at rest
              rcases rest with ⟨added, later, rfl, same⟩
              exact ⟨rule :: added, later, rfl, same⟩

/-- A commit is tried once, or a second time if the filter is busy. -/
theorem exchanges_commitPatiently (rules : Synchronizer (Recorded β)) (recorded : Recorded β) :
    ∃ commits,
      Commits commits (rules.commitPatiently recorded).value.outcome ∧
        (rules.commitPatiently recorded).value.backend.exchanges =
          recorded.exchanges ++ commits := by
  have first := exchanges_commit recorded
  by_cases busy : (Backend.commit recorded).value.outcome = .error .busy
  · rw [Synchronizer.commitPatiently_of_busy rules busy]
    refine ⟨_, .again _, ?_⟩
    rw [exchanges_commit, first, busy, List.append_assoc]
    rfl
  · rw [Synchronizer.commitPatiently_of_ne_busy rules busy]
    exact ⟨_, .once busy, first⟩

end Recorded

namespace Synchronizer

variable {β : Type} [Backend β]

/-- The calls that a rebuild makes, with what comes of them. -/
def rebuildExchanges (rules : Synchronizer β) (mappings : List Mapping) : List FilterExchange :=
  (rules.rebuildCalls mappings).map fun record => ⟨record.call, record.outcome⟩

theorem rebuildExchanges_eq (rules : Synchronizer β) (mappings : List Mapping) :
    rules.rebuildExchanges mappings =
      (rules.recording.rebuild mappings).value.synchronizer.backend.exchanges := rfl

/-- Whatever the backend answers, a rebuild makes one transaction. -/
theorem transacts_rebuild (rules : Synchronizer β) (mappings : List Mapping) :
    Transacts (mappings.map RedirectRule.ofMapping) (rules.rebuildExchanges mappings)
      (rules.rebuild mappings).value.outcome := by
  rw [← (rules.rebuild_recording mappings).1, rebuildExchanges_eq]
  have opening : rules.recording.opened.backend.exchanges =
      [⟨.openTransaction, rules.recording.opened.outcome⟩] :=
    Recorded.exchanges_openTransaction _
  cases opened : rules.recording.opened.outcome with
  | error cause =>
      rw [opened] at opening
      rw [rebuild_of_opened_error opened]
      simp only [finish, opening]
      exact .notOpened cause
  | ok _ =>
      rw [opened] at opening
      have filling := Recorded.exchanges_addRules rules.recording.opened.backend
        (mappings.map RedirectRule.ofMapping)
      rw [← filled, opening] at filling
      cases refused : (rules.recording.filled mappings).refused with
      | some refusal =>
          rcases refusal with ⟨rule, cause⟩
          simp only [refused] at filling
          rcases filling with ⟨added, later, first, noted⟩
          rw [rebuild_of_refused opened refused]
          simp only [finish, Recorded.exchanges_rollback, noted, List.append_assoc]
          exact .ruleRefused first cause
      | none =>
          simp only [refused] at filling
          rcases Recorded.exchanges_commitPatiently rules.recording
            (rules.recording.filled mappings).backend with ⟨commits, tried, noted⟩
          rw [filling] at noted
          change Commits commits (rules.recording.committed mappings).outcome at tried
          cases outcome : (rules.recording.committed mappings).outcome with
          | error cause =>
              rw [outcome] at tried
              rw [rebuild_of_committed_error opened refused outcome]
              simp only [finish, Recorded.exchanges_rollback, committed, noted]
              exact .commitRefused tried
          | ok _ =>
              rw [outcome] at tried
              rw [rebuild_of_committed_ok opened refused outcome]
              simp only [finish, committed, noted]
              rw [← List.length_map RedirectRule.ofMapping]
              exact .committed tried

end Synchronizer

/-! ## Rules kept in memory -/

namespace MemoryFilter

theorem rollbacks_addRules (filter : MemoryFilter) (rules : List RedirectRule) :
    (Synchronizer.addRules filter rules).value.backend.rollbacks = filter.rollbacks := by
  induction rules generalizing filter with
  | nil => rfl
  | cons rule rules ih =>
      have kept : (filter.addRedirect rule).backend.rollbacks = filter.rollbacks := by
        rw [addRedirect]
        split
        · rfl
        · split <;> rfl
      cases outcome : (Backend.addRedirect filter rule).value.outcome with
      | error cause =>
          rw [Synchronizer.addRules_of_error outcome]
          exact kept
      | ok _ =>
          rw [Synchronizer.addRules_of_ok outcome]
          exact (ih _).trans kept

theorem rollbacks_commit (filter : MemoryFilter) :
    filter.commit.value.backend.rollbacks = filter.rollbacks := by
  rw [commit]
  split
  · rfl
  · split <;> rfl

theorem rollbacks_commitPatiently (rules : Synchronizer MemoryFilter) (filter : MemoryFilter) :
    (rules.commitPatiently filter).value.backend.rollbacks = filter.rollbacks := by
  by_cases busy : filter.commit.value.outcome = .error .busy
  · rw [Synchronizer.commitPatiently_of_busy rules busy, commit_eq, commit_eq,
      rollbacks_commit, rollbacks_commit]
  · rw [Synchronizer.commitPatiently_of_ne_busy rules busy, commit_eq, rollbacks_commit]

/-- A rebuild discards its transaction exactly if it fails. -/
theorem rollbacks_rebuild (rules : Synchronizer MemoryFilter) (mappings : List Mapping) :
    let update := (rules.rebuild mappings).value
    update.synchronizer.backend.rollbacks =
      rules.backend.rollbacks + if update.outcome.isOk then 0 else 1 := by
  have isOpen : rules.opened.outcome = .ok () := rfl
  have filled : (rules.filled mappings).backend.rollbacks = rules.backend.rollbacks :=
    rollbacks_addRules _ _
  have committed : (rules.committed mappings).backend.rollbacks = rules.backend.rollbacks :=
    (rollbacks_commitPatiently _ _).trans filled
  cases refused : (rules.filled mappings).refused with
  | some refusal =>
      rw [Synchronizer.rebuild_of_refused isOpen refused]
      exact congrArg Nat.succ filled
  | none =>
      cases outcome : (rules.committed mappings).outcome with
      | ok _ =>
          rw [Synchronizer.rebuild_of_committed_ok isOpen refused outcome]
          exact committed
      | error cause =>
          rw [Synchronizer.rebuild_of_committed_error isOpen refused outcome]
          exact congrArg Nat.succ committed

end MemoryFilter

/-- A rebuild makes one transaction whatever the backend answers, discarded exactly if the
rebuild fails after opening it.  Over rules kept in memory, a rebuild that fails leaves those
in force as they were. -/
theorem rebuild_transacts :
    (∀ (β : Type) [Backend β] (rules : Synchronizer β) (mappings : List Mapping),
      let exchanges := rules.rebuildExchanges mappings
      let outcome := (rules.rebuild mappings).value.outcome
      Transacts (mappings.map RedirectRule.ofMapping) exchanges outcome ∧
        (outcome.isOk = true ↔ exchanges.getLast? = some (accepted .commit)) ∧
        rollbacks exchanges = discards outcome) ∧
      ∀ (rules : Synchronizer MemoryFilter) (mappings : List Mapping),
        let update := (rules.rebuild mappings).value
        let before := rules.backend
        let after := update.synchronizer.backend
        after.inTransaction = false ∧
          match update.outcome with
          | .ok _ =>
              after.active = mappings.map RedirectRule.ofMapping ∧
                after.rollbacks = before.rollbacks
          | .error _ =>
              after.active = before.active ∧ after.rollbacks = before.rollbacks + 1 := by
  constructor
  · intro β _ rules mappings
    have transacts := rules.transacts_rebuild mappings
    exact ⟨transacts, transacts.isOk_iff, transacts.rollbacks_eq⟩
  · intro rules mappings update before after
    rcases MemoryFilter.rebuild_spec rules mappings with ⟨closed, active⟩
    have discarded := MemoryFilter.rollbacks_rebuild rules mappings
    refine ⟨congrArg Option.isSome closed, ?_⟩
    change after.active =
      if update.outcome.isOk then mappings.map RedirectRule.ofMapping else before.active at active
    change after.rollbacks = before.rollbacks + if update.outcome.isOk then 0 else 1 at discarded
    cases outcome : update.outcome with
    | ok _ =>
        rw [outcome] at active discarded
        exact ⟨active, discarded⟩
    | error _ =>
        rw [outcome] at active discarded
        exact ⟨active, discarded⟩

end PortMapping
