import PortMapping.Failure
import PortMapping.Log
import PortMapping.Mapping.Basic

/-!
# Packet filter backends

A backend replaces the active redirect rules in a transaction: a rule set is
opened, filled and committed, or discarded.  A commit refused because the filter
is busy leaves the rule set staged, so that it can be tried again.
-/

namespace PortMapping

/-- One inbound redirection. -/
structure RedirectRule where
  transport : Transport
  /-- The destination matched on arriving packets. -/
  external : Endpoint4
  /-- The destination that packets are given instead. -/
  internal : Endpoint4
  deriving DecidableEq, Repr

namespace RedirectRule

/-- A rule as text. -/
def text (rule : RedirectRule) : String :=
  redirectText rule.transport rule.external rule.internal

/-- The rule that makes a mapping effective. -/
def ofMapping (mapping : Mapping) : RedirectRule :=
  ⟨mapping.transport, mapping.external, mapping.internal⟩

end RedirectRule

/-- Why a backend refused. -/
inductive BackendError where
  /-- Somebody else holds the rules; worth one more try. -/
  | busy
  | failed (message : String)
  | io (failure : IoFailure)
  deriving DecidableEq, Repr

namespace BackendError

/-- The words for a refusal. -/
def message : BackendError → String
  | .busy => "firewall busy"
  | .failed message => "firewall error: " ++ message
  | .io failure => "IO error: " ++ failure.text

/-- The words for what lies beneath a refusal, outermost first. -/
def causes : BackendError → List String
  | .io failure => [failure.text]
  | _ => []

/-- The refusal of a step that needs a staged rule set when there is none. -/
def noTransaction : BackendError := .failed "no open transaction"

end BackendError

/-- What became of a call to a backend, and the backend after it. -/
structure Attempt (β : Type) where
  outcome : Except BackendError Unit
  backend : β

/-- The calls that a packet filter answers. -/
class Backend (β : Type) where
  /-- Drop every rule, outside any transaction. -/
  reset : β → Logged (Attempt β)
  /-- Stage an empty rule set. -/
  openTransaction : β → Logged (Attempt β)
  /-- Add a rule to the staged set. -/
  addRedirect : β → RedirectRule → Logged (Attempt β)
  /-- Replace the active rules by the staged set. -/
  commit : β → Logged (Attempt β)
  /-- Discard the staged set. -/
  rollback : β → β

end PortMapping
