import PortMapping.Firewall.Backend

/-!
# Rules kept in memory

A backend for dry runs, which logs the rules it would install.  Refusals of
coming commits and additions can be queued; they are used up in order.
-/

namespace PortMapping

/-- Redirect rules kept in memory. -/
structure MemoryFilter where
  /-- The rules committed last. -/
  active : List RedirectRule := []
  /-- The rule set being filled, while a transaction is open. -/
  staged : Option (List RedirectRule) := none
  commitRefusals : List BackendError := []
  addRefusals : List BackendError := []
  /-- How many commits were tried. -/
  commits : Nat := 0
  /-- How many transactions were discarded. -/
  rollbacks : Nat := 0
  deriving DecidableEq, Repr

namespace MemoryFilter

/-- A filter without rules. -/
def empty : MemoryFilter := {}

instance : Inhabited MemoryFilter := ⟨empty⟩

/-- Whether a transaction is open. -/
def inTransaction (filter : MemoryFilter) : Bool := filter.staged.isSome

/-- Let a coming commit fail. -/
def refuseCommit (filter : MemoryFilter) (refusal : BackendError) : MemoryFilter :=
  { filter with commitRefusals := filter.commitRefusals ++ [refusal] }

/-- Let a coming addition fail. -/
def refuseAdd (filter : MemoryFilter) (refusal : BackendError) : MemoryFilter :=
  { filter with addRefusals := filter.addRefusals ++ [refusal] }

/-- Drop every rule and any staged set. -/
def reset (filter : MemoryFilter) : Attempt MemoryFilter :=
  ⟨.ok (), { filter with active := [], staged := none }⟩

/-- Stage an empty rule set. -/
def openTransaction (filter : MemoryFilter) : Attempt MemoryFilter :=
  ⟨.ok (), { filter with staged := some [] }⟩

/-- Add a rule to the staged set, unless a refusal is queued. -/
def addRedirect (filter : MemoryFilter) (rule : RedirectRule) : Attempt MemoryFilter :=
  match filter.addRefusals with
  | refusal :: later => ⟨.error refusal, { filter with addRefusals := later }⟩
  | [] =>
      match filter.staged with
      | some rules => ⟨.ok (), { filter with staged := some (rules ++ [rule]) }⟩
      | none => ⟨.error .noTransaction, filter⟩

/-- Make the staged set the active one, unless a refusal is queued.  A refused
commit leaves the staged set in place. -/
def commit (filter : MemoryFilter) : Logged (Attempt MemoryFilter) :=
  let tried := { filter with commits := filter.commits + 1 }
  match filter.commitRefusals with
  | refusal :: later => pure ⟨.error refusal, { tried with commitRefusals := later }⟩
  | [] =>
      match filter.staged with
      | some rules =>
          { value := ⟨.ok (), { tried with active := rules, staged := none }⟩
            log := rules.map fun rule => ⟨.info, "rdr " ++ rule.text⟩ }
      | none => pure ⟨.error .noTransaction, tried⟩

/-- Discard the staged set. -/
def rollback (filter : MemoryFilter) : MemoryFilter :=
  { filter with staged := none, rollbacks := filter.rollbacks + 1 }

instance : Backend MemoryFilter where
  reset filter := pure filter.reset
  openTransaction filter := pure filter.openTransaction
  addRedirect filter rule := pure (filter.addRedirect rule)
  commit := commit
  rollback := rollback

end MemoryFilter

end PortMapping
