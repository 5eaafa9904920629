import PortMapping.Firewall.Memory

/-!
# Queued refusals

A backend around another that refuses the coming resets and the coming openings
of a transaction when told to.  A refused call does not reach the inner backend.
-/

namespace PortMapping

/-- A backend with refusals queued in front of it. -/
structure Faulty (β : Type) where
  inner : β
  resetRefusals : List BackendError := []
  openRefusals : List BackendError := []
  deriving DecidableEq, Repr

namespace Faulty

variable {β : Type}

/-- Let a coming reset fail. -/
def refuseReset (faulty : Faulty β) (refusal : BackendError) : Faulty β :=
  { faulty with resetRefusals := faulty.resetRefusals ++ [refusal] }

/-- Let a coming transaction fail to open. -/
def refuseOpen (faulty : Faulty β) (refusal : BackendError) : Faulty β :=
  { faulty with openRefusals := faulty.openRefusals ++ [refusal] }

/-- Put the backend after a call back behind its queued refusals. -/
def wrap (faulty : Faulty β) (attempt : Attempt β) : Attempt (Faulty β) :=
  ⟨attempt.outcome, { faulty with inner := attempt.backend }⟩

instance [Backend β] : Backend (Faulty β) where
  reset faulty :=
    match faulty.resetRefusals with
    | refusal :: later => pure ⟨.error refusal, { faulty with resetRefusals := later }⟩
    | [] => faulty.wrap <$> Backend.reset faulty.inner
  openTransaction faulty :=
    match faulty.openRefusals with
    | refusal :: later => pure ⟨.error refusal, { faulty with openRefusals := later }⟩
    | [] => faulty.wrap <$> Backend.openTransaction faulty.inner
  addRedirect faulty rule := faulty.wrap <$> Backend.addRedirect faulty.inner rule
  commit faulty := faulty.wrap <$> Backend.commit faulty.inner
  rollback faulty := { faulty with inner := Backend.rollback faulty.inner }

end Faulty

end PortMapping
