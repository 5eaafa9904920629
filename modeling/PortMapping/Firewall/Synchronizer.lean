import PortMapping.Firewall.Backend

/-!
# Keeping the packet filter in step

The filter holds one rule for each mapping.  Rules are never patched: every
change installs the complete set in one transaction, so the filter either agrees
with the mappings or keeps its previous rules.
-/

namespace PortMapping

/-- Why the rules could not be brought up to date. -/
inductive SyncError where
  | reset (cause : BackendError)
  | openTransaction (cause : BackendError)
  | addRule (rule : RedirectRule) (cause : BackendError)
  | commit (cause : BackendError)
  deriving DecidableEq, Repr

namespace SyncError

/-- The backend's own refusal. -/
def cause : SyncError → BackendError
  | .reset cause => cause
  | .openTransaction cause => cause
  | .addRule _ cause => cause
  | .commit cause => cause

/-- The words for a failed update. -/
def message : SyncError → String
  | .reset cause => "unable to reset ruleset: " ++ cause.message
  | .openTransaction cause => "unable to start transaction: " ++ cause.message
  | .addRule rule cause => "unable to add rule " ++ rule.text ++ ": " ++ cause.message
  | .commit cause => "unable to commit ruleset: " ++ cause.message

/-- The words for what lies beneath a failed update, outermost first. -/
def causes (error : SyncError) : List String := error.cause.message :: error.cause.causes

end SyncError

/-- The pause before a busy filter is tried again. -/
def commitRetryDelay : Nat := milliseconds 5

/-- Nanoseconds in units of a power of ten, with as many decimal places as needed. -/
def inUnits (nanoseconds places : Nat) : String :=
  let unit := Nat.pow 10 places
  let digits := Nat.toDigits 10 (unit + nanoseconds % unit) |>.tail
  let kept := (digits.reverse.dropWhile (· = '0')).reverse
  let fraction := if kept.isEmpty then "" else "." ++ String.ofList kept
  s!"{nanoseconds / unit}{fraction}"

/-- A pause as text, in the largest unit that it fills: nanoseconds, microseconds,
milliseconds or seconds. -/
def pauseText (nanoseconds : Nat) : String :=
  if nanoseconds < 1000 then inUnits nanoseconds 0 ++ "ns"
  else if nanoseconds < 1000000 then inUnits nanoseconds 3 ++ "µs"
  else if nanoseconds < 1000000000 then inUnits nanoseconds 6 ++ "ms"
  else inUnits nanoseconds 9 ++ "s"

/-- A backend, and the pause before it is tried again when busy. -/
structure Synchronizer (β : Type) where
  backend : β
  retryDelay : Nat := commitRetryDelay

namespace Synchronizer

variable {β : Type}

/-- What became of an update, and the synchronizer after it. -/
structure Update (β : Type) (α : Type) where
  outcome : Except SyncError α
  synchronizer : Synchronizer β

/-- An update that leaves the backend in a new state. -/
def finish (synchronizer : Synchronizer β) {α : Type} (outcome : Except SyncError α)
    (backend : β) : Update β α :=
  ⟨outcome, { synchronizer with backend }⟩

/-- What became of adding rules, and the backend after it. -/
structure Additions (β : Type) where
  /-- The rule that was refused, with the refusal. -/
  refused : Option (RedirectRule × BackendError)
  backend : β

variable [Backend β]

/-- Add rules in order, up to the first refusal. -/
def addRules (backend : β) : List RedirectRule → Logged (Additions β)
  | [] => pure ⟨none, backend⟩
  | rule :: rules => do
      let attempt ← Backend.addRedirect backend rule
      match attempt.outcome with
      | .ok _ => addRules attempt.backend rules
      | .error refusal => return ⟨some (rule, refusal), attempt.backend⟩

/-- Commit, trying once more when the filter is busy. -/
def commitPatiently (synchronizer : Synchronizer β) (backend : β) : Logged (Attempt β) := do
  let attempt ← Backend.commit backend
  match attempt.outcome with
  | .error .busy =>
      .debug ("Firewall busy, retrying commit in " ++ pauseText synchronizer.retryDelay)
      let second ← Backend.commit attempt.backend
      match second.outcome with
      | .ok _ => return second
      | .error refusal =>
          .warn ("Commit retry failed: " ++ refusal.message)
          return second
  | _ => return attempt

/-- Clear the rules that a previous run left behind. -/
def reset (synchronizer : Synchronizer β) : Logged (Update β Unit) := do
  let attempt ← Backend.reset synchronizer.backend
  return synchronizer.finish (attempt.outcome.mapError .reset) attempt.backend

/-- Install one rule for each mapping and report how many.  A refused rule or
commit discards the transaction; the rules installed before stay in force. -/
def rebuild (synchronizer : Synchronizer β) (mappings : List Mapping) :
    Logged (Update β Nat) := do
  let opened ← Backend.openTransaction synchronizer.backend
  match opened.outcome with
  | .error refusal =>
      return synchronizer.finish (.error (.openTransaction refusal)) opened.backend
  | .ok _ =>
      let additions ← addRules opened.backend (mappings.map RedirectRule.ofMapping)
      match additions.refused with
      | some (rule, refusal) =>
          return synchronizer.finish (.error (.addRule rule refusal))
            (Backend.rollback additions.backend)
      | none =>
          let committed ← synchronizer.commitPatiently additions.backend
          match committed.outcome with
          | .error refusal =>
              return synchronizer.finish (.error (.commit refusal))
                (Backend.rollback committed.backend)
          | .ok _ =>
              .debug s!"Committed {mappings.length} redirect rules"
              return synchronizer.finish (.ok mappings.length) committed.backend

end Synchronizer

end PortMapping
