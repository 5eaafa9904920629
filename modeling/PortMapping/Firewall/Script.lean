import PortMapping.Firewall.Backend
import PortMapping.Text.Blank
import PortMapping.Text.Utf8

/-!
# Rules installed by scripts

A backend that owns one table of the nftables packet filter.  A transaction is a
script that empties the table's chain and adds every rule anew.  The filter
program applies a script as a whole or not at all, so a refused script leaves the
previous rules in force.
-/

namespace PortMapping

/-- How a run of the filter program ended. -/
structure ProgramExit where
  /-- The exit status, zero for success. -/
  status : Int
  errorOutput : Octets
  deriving DecidableEq, Repr

namespace ProgramExit

/-- A run that succeeds in silence. -/
def success : ProgramExit := ⟨0, []⟩

end ProgramExit

/-- How the coming runs of the filter program go. -/
structure RunPlan where
  installed : Bool := true
  /-- What breaks the coming exchanges with the program, if anything; nothing breaks
  further ones. -/
  failures : List (Option IoFailure) := []
  /-- How the coming runs end; further ones succeed in silence. -/
  upcoming : List ProgramExit := []
  deriving DecidableEq, Repr

/-- The filter program: how its coming runs go, the scripts it was given, and the one
it applied last. -/
structure FilterProgram extends RunPlan where
  /-- The scripts of all runs, in order. -/
  received : List String := []
  /-- The script of the last run that succeeded. -/
  applied : Option String := none
  deriving DecidableEq, Repr

/-- Whether a text occurs within another. -/
def occursIn (needle : List Char) : List Char → Bool
  | [] => needle.isEmpty
  | character :: rest => needle.isPrefixOf (character :: rest) || occursIn needle rest

/-- What an unsuccessful run's error output means: a busy filter is worth another
try, anything else is passed on without the blanks around it. -/
def refusalOf (errorOutput : Octets) : BackendError :=
  let output := Text.utf8LossyChars errorOutput
  if occursIn "Device or resource busy".toList output then .busy
  else .failed (String.ofList (Text.trimChars output))

namespace RunPlan

/-- What breaks the next exchange with the program, if anything does. -/
def failure? (plan : RunPlan) : Option IoFailure :=
  if plan.installed then plan.failures.headD none else some (.refused .noSuchFile)

/-- How the next run goes. -/
def outcome (plan : RunPlan) : Except BackendError Unit :=
  match plan.failure? with
  | some failure => .error (.io failure)
  | none =>
      let ending := plan.upcoming.headD .success
      if ending.status = 0 then .ok () else .error (refusalOf ending.errorOutput)

/-- What is left of a plan after a run. -/
def later (plan : RunPlan) : RunPlan :=
  if plan.installed then
    { plan with
      failures := plan.failures.tail
      upcoming := if plan.failure?.isSome then plan.upcoming else plan.upcoming.tail }
  else plan

end RunPlan

namespace FilterProgram

/-- What became of a run of the program. -/
structure Run where
  outcome : Except BackendError Unit
  program : FilterProgram

/-- Give the program a script.  It reads the script unless the exchange breaks, and
applies it as a whole if the run succeeds. -/
def run (program : FilterProgram) (script : String) : Run :=
  { outcome := program.outcome
    program :=
      { toRunPlan := program.later
        received :=
          if program.failure?.isSome then program.received else program.received ++ [script]
        applied := if program.outcome.isOk then some script else program.applied } }

end FilterProgram

/-- A packet filter driven by scripts. -/
structure ScriptFilter where
  /-- The table owned by the gateway. -/
  table : String
  program : FilterProgram := {}
  /-- The script being written, while a transaction is open. -/
  script : Option String := none
  deriving DecidableEq, Repr

namespace ScriptFilter

/-- The chain that holds the rules. -/
def chain : String := "prerouting"

/-- The beginning of a script: the table and its chain exist, the chain is empty. -/
def header (table : String) : String :=
  "add table ip " ++ table ++ "\n" ++
  "add chain ip " ++ table ++ " " ++ chain ++
    " \x7b type nat hook prerouting priority -100; policy accept; \x7d\n" ++
  "flush chain ip " ++ table ++ " " ++ chain ++ "\n"

/-- The script that removes the table.  Adding it first lets the deletion succeed
when there is no table. -/
def resetScript (table : String) : String :=
  "add table ip " ++ table ++ "\ndelete table ip " ++ table ++ "\n"

/-- The line that adds a rule. -/
def ruleLine (table : String) (rule : RedirectRule) : String :=
  "add rule ip " ++ table ++ " " ++ chain ++ " ip daddr " ++ rule.external.address.text ++ " " ++
    rule.transport.keyword ++ " dport " ++ toString rule.external.port.toNat ++ " dnat to " ++
    rule.internal.text ++ "\n"

/-- The script that installs rules. -/
def installScript (table : String) (rules : List RedirectRule) : String :=
  rules.foldl (fun script rule => script ++ ruleLine table rule) (header table)

/-- Whether a transaction is open. -/
def inTransaction (filter : ScriptFilter) : Bool := filter.script.isSome

/-- Give the filter program a script. -/
def apply (filter : ScriptFilter) (script : String) : Logged (Attempt ScriptFilter) := do
  .debug ("Applying nft script:\n" ++ script)
  let run := filter.program.run script
  return ⟨run.outcome, { filter with program := run.program }⟩

/-- Remove the table and any script being written. -/
def reset (filter : ScriptFilter) : Logged (Attempt ScriptFilter) :=
  { filter with script := none }.apply (resetScript filter.table)

/-- Begin a script. -/
def openTransaction (filter : ScriptFilter) : Attempt ScriptFilter :=
  ⟨.ok (), { filter with script := some (header filter.table) }⟩

/-- Add a line to the script. -/
def addRedirect (filter : ScriptFilter) (rule : RedirectRule) : Attempt ScriptFilter :=
  match filter.script with
  | some script =>
      ⟨.ok (), { filter with script := some (script ++ ruleLine filter.table rule) }⟩
  | none => ⟨.error .noTransaction, filter⟩

/-- Run the script.  It is kept when the run fails. -/
def commit (filter : ScriptFilter) : Logged (Attempt ScriptFilter) :=
  match filter.script with
  | some script => do
      let attempt ← filter.apply script
      match attempt.outcome with
      | .ok _ => return ⟨.ok (), { attempt.backend with script := none }⟩
      | .error refusal => return ⟨.error refusal, attempt.backend⟩
  | none => pure ⟨.error .noTransaction, filter⟩

/-- Drop the script being written. -/
def rollback (filter : ScriptFilter) : ScriptFilter := { filter with script := none }

instance : Backend ScriptFilter where
  reset := reset
  openTransaction filter := pure filter.openTransaction
  addRedirect filter rule := pure (filter.addRedirect rule)
  commit := commit
  rollback := rollback

end ScriptFilter

end PortMapping
