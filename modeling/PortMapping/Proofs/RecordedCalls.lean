import PortMapping.Proofs.RuleConsistency

/-!
# The calls of a rebuild

A backend can be watched by another one that passes each call on and notes it, with the state
before and after.  Being watched changes nothing, so what is noted are the calls that a
rebuild makes.
-/

namespace PortMapping

/-- A call of a backend. -/
inductive FilterCall where
  | reset
  | openTransaction
  | addRedirect (rule : RedirectRule)
  | commit
  | rollback
  deriving DecidableEq, Repr

/-- A call that was made, and what it did. -/
structure CallRecord (β : Type) where
  call : FilterCall
  before : β
  /-- What came of the call; a rollback does not fail. -/
  outcome : Except BackendError Unit
  after : β

/-- A backend with the calls that were made of it. -/
structure Recorded (β : Type) where
  backend : β
  records : List (CallRecord β) := []

namespace Recorded

variable {β : Type}

/-- Note a call. -/
def note (recorded : Recorded β) (call : FilterCall) (attempt : Attempt β) :
    Attempt (Recorded β) where
  outcome := attempt.outcome
  backend :=
    { backend := attempt.backend
      records := recorded.records ++
        [⟨call, recorded.backend, attempt.outcome, attempt.backend⟩] }

variable [Backend β]

instance : Backend (Recorded β) where
  reset recorded := recorded.note .reset <$> Backend.reset recorded.backend
  openTransaction recorded :=
    recorded.note .openTransaction <$> Backend.openTransaction recorded.backend
  addRedirect recorded rule :=
    recorded.note (.addRedirect rule) <$> Backend.addRedirect recorded.backend rule
  commit recorded := recorded.note .commit <$> Backend.commit recorded.backend
  rollback recorded :=
    (recorded.note .rollback ⟨.ok (), Backend.rollback recorded.backend⟩).backend

theorem value_openTransaction (recorded : Recorded β) :
    (Backend.openTransaction recorded).value =
      recorded.note .openTransaction (Backend.openTransaction recorded.backend).value := rfl

end Recorded

/-! ## Being watched changes nothing -/

namespace Synchronizer

variable {β : Type} [Backend β]

/-- The same synchronizer over a backend that notes the calls made of it. -/
def recording (rules : Synchronizer β) : Synchronizer (Recorded β) :=
  ⟨⟨rules.backend, []⟩, rules.retryDelay⟩

/-- The calls that a rebuild makes, in order. -/
def rebuildCalls (rules : Synchronizer β) (mappings : List Mapping) : List (CallRecord β) :=
  (rules.recording.rebuild mappings).value.synchronizer.backend.records

theorem addRules_recorded (recorded : Recorded β) (rules : List RedirectRule) :
    (addRules recorded rules).value.refused = (addRules recorded.backend rules).value.refused ∧
      (addRules recorded rules).value.backend.backend =
        (addRules recorded.backend rules).value.backend := by
  induction rules generalizing recorded with
  | nil => exact ⟨rfl, rfl⟩
  | cons rule rules ih =>
      cases outcome : (Backend.addRedirect recorded.backend rule).value.outcome with
      | error refusal =>
          have noted : (Backend.addRedirect recorded rule).value.outcome = .error refusal := outcome
          rw [addRules_of_error outcome, addRules_of_error noted]
          exact ⟨rfl, rfl⟩
      | ok _ =>
          have noted : (Backend.addRedirect recorded rule).value.outcome = .ok () := outcome
          rw [addRules_of_ok outcome, addRules_of_ok noted]
          exact ih _

theorem commitPatiently_recorded (rules : Synchronizer β) (watched : Synchronizer (Recorded β))
    (recorded : Recorded β) :
    (watched.commitPatiently recorded).value.outcome =
        (rules.commitPatiently recorded.backend).value.outcome ∧
      (watched.commitPatiently recorded).value.backend.backend =
        (rules.commitPatiently recorded.backend).value.backend := by
  by_cases busy : (Backend.commit recorded.backend).value.outcome = .error .busy
  · have noted : (Backend.commit recorded).value.outcome = .error .busy := busy
    rw [commitPatiently_of_busy rules busy, commitPatiently_of_busy watched noted]
    exact ⟨rfl, rfl⟩
  · have noted : (Backend.commit recorded).value.outcome ≠ .error .busy := busy
    rw [commitPatiently_of_ne_busy rules busy, commitPatiently_of_ne_busy watched noted]
    exact ⟨rfl, rfl⟩

/-- A watched rebuild has the outcome of the rebuild and leaves the backend as it does. -/
theorem rebuild_recording (rules : Synchronizer β) (mappings : List Mapping) :
    (rules.recording.rebuild mappings).value.outcome = (rules.rebuild mappings).value.outcome ∧
      (rules.recording.rebuild mappings).value.synchronizer.backend.backend =
        (rules.rebuild mappings).value.synchronizer.backend := by
  have filled := addRules_recorded rules.recording.opened.backend
    (mappings.map RedirectRule.ofMapping)
  have committed := commitPatiently_recorded rules rules.recording
    (rules.recording.filled mappings).backend
  cases opened : rules.opened.outcome with
  | error refusal =>
      have noted : rules.recording.opened.outcome = .error refusal := opened
      rw [rebuild_of_opened_error opened, rebuild_of_opened_error noted]
      exact ⟨rfl, rfl⟩
  | ok _ =>
      have noted : rules.recording.opened.outcome = .ok () := opened
      cases refused : (rules.filled mappings).refused with
      | some refusal =>
          have alsoRefused := filled.1.trans refused
          rw [rebuild_of_refused opened refused, rebuild_of_refused noted alsoRefused]
          exact ⟨rfl, congrArg Backend.rollback filled.2⟩
      | none =>
          have alsoFilled := filled.1.trans refused
          have same : (rules.recording.filled mappings).backend.backend =
              (rules.filled mappings).backend := filled.2
          rw [same] at committed
          cases outcome : (rules.committed mappings).outcome with
          | error refusal =>
              have alsoFailed := committed.1.trans outcome
              rw [rebuild_of_committed_error opened refused outcome,
                rebuild_of_committed_error noted alsoFilled alsoFailed]
              exact ⟨rfl, congrArg Backend.rollback committed.2⟩
          | ok _ =>
              have alsoInstalled := committed.1.trans outcome
              rw [rebuild_of_committed_ok opened refused outcome,
                rebuild_of_committed_ok noted alsoFilled alsoInstalled]
              exact ⟨rfl, committed.2⟩

end Synchronizer

end PortMapping
