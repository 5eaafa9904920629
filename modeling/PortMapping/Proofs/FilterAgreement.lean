import Mathlib.Data.List.Forall2
import PortMapping.Firewall.Script
import PortMapping.Proofs.RecordedCalls

/-!
# Rules in memory and rules in scripts

One backend stages a list of rules and swaps it in, the other writes a script and has it run.
Where their commits are taken or refused alike, they cannot be told apart: the script being
written is always that of the staged rules, and the script applied last that of the rules in
force.  `Paired` says so of two states, and every call of a rebuild keeps it.
-/

namespace PortMapping

/-! ## Outcomes of one kind -/

variable {κ : Type}

/-- Two calls went alike: both were accepted, or both were refused in the same way. -/
inductive SameKind (kind : BackendError → κ) :
    Except BackendError Unit → Except BackendError Unit → Prop where
  | accepted : SameKind kind (.ok ()) (.ok ())
  | refused {left right : BackendError} (same : kind left = kind right) :
      SameKind kind (.error left) (.error right)

/-- A way of telling refusals apart that tells at least the busy ones from the others. -/
def TellsBusy (kind : BackendError → κ) : Prop :=
  ∀ refusal, kind refusal = kind .busy → refusal = .busy

theorem SameKind.busy_iff {kind : BackendError → κ} (tellsBusy : TellsBusy kind)
    {left right : Except BackendError Unit} (same : SameKind kind left right) :
    left = .error .busy ↔ right = .error .busy := by
  cases same with
  | accepted => exact Iff.rfl
  | refused same =>
      constructor
      · rintro ⟨⟩
        rw [tellsBusy _ same.symm]
      · rintro ⟨⟩
        rw [tellsBusy _ same]

/-- How a commit goes with refusals queued. -/
def comingOutcome : List BackendError → Except BackendError Unit
  | [] => .ok ()
  | refusal :: _ => .error refusal

/-- The coming commits go alike, by the refusals queued and the plan of the filter program.
Further commits count only for as long as the filter is busy. -/
def ComingAlike (kind : BackendError → κ) : Nat → List BackendError → RunPlan → Prop
  | 0, _, _ => True
  | attempts + 1, refusals, plan =>
      SameKind kind (comingOutcome refusals) plan.outcome ∧
        (refusals.head? = some .busy → ComingAlike kind attempts refusals.tail plan.later)

/-! ## Commits of an open transaction -/

/-- A script for more rules is the script with more lines. -/
theorem ScriptFilter.installScript_append_singleton (table : String)
    (rules : List RedirectRule) (rule : RedirectRule) :
    installScript table (rules ++ [rule]) = installScript table rules ++ ruleLine table rule :=
  List.foldl_append

theorem ScriptFilter.commit_of_writing {filter : ScriptFilter} {script : String}
    (writing : filter.script = some script) :
    filter.commit.value =
      { outcome := filter.program.outcome
        backend :=
          { filter with
            program := (filter.program.run script).program
            script := if filter.program.outcome.isOk then none else some script } } := by
  rw [commit, writing]
  cases outcome : filter.program.outcome with
  | ok _ => simp [apply, FilterProgram.run, outcome, Except.isOk, Except.toBool]
  | error refusal => simp [apply, FilterProgram.run, outcome, Except.isOk, Except.toBool, writing]

theorem MemoryFilter.commit_of_staged {filter : MemoryFilter} {rules : List RedirectRule}
    (staged : filter.staged = some rules) :
    filter.commit.value.outcome = comingOutcome filter.commitRefusals ∧
      filter.commit.value.backend.commitRefusals = filter.commitRefusals.tail ∧
      filter.commit.value.backend.addRefusals = filter.addRefusals := by
  rw [commit]
  cases refusals : filter.commitRefusals with
  | nil =>
      rw [staged]
      exact ⟨rfl, rfl, rfl⟩
  | cons refusal later => exact ⟨rfl, rfl, rfl⟩

/-! ## States that correspond -/

/-- A filter of each sort with the same rules, in force and staged.  No addition is about to
be refused, which scripts never do. -/
structure Paired (table : String) (memory : MemoryFilter) (script : ScriptFilter) : Prop where
  willing : memory.addRefusals = []
  owns : script.table = table
  /-- The script being written is that of the staged rules. -/
  pending : script.script = memory.staged.map (ScriptFilter.installScript table)
  /-- The script applied last is that of the rules in force; before any was applied there
  are none. -/
  applied : script.program.applied = none ∧ memory.active = [] ∨
    script.program.applied = some (ScriptFilter.installScript table memory.active)

namespace Paired

variable {table : String} {memory : MemoryFilter} {script : ScriptFilter}

/-- A script is pending iff a set of rules is staged. -/
theorem inTransaction_eq (paired : Paired table memory script) :
    script.inTransaction = memory.inTransaction := by
  rw [ScriptFilter.inTransaction, MemoryFilter.inTransaction, paired.pending, Option.isSome_map]

theorem openTransaction (paired : Paired table memory script) :
    Paired table memory.openTransaction.backend script.openTransaction.backend where
  willing := paired.willing
  owns := paired.owns
  pending := congrArg (fun owned => some (ScriptFilter.header owned)) paired.owns
  applied := paired.applied

theorem rollback (paired : Paired table memory script) :
    Paired table memory.rollback script.rollback where
  willing := paired.willing
  owns := paired.owns
  pending := rfl
  applied := paired.applied

/-- A rule that is staged is a line that is written. -/
theorem addRedirect (paired : Paired table memory script) {staged : List RedirectRule}
    (isOpen : memory.staged = some staged) (rule : RedirectRule) :
    let ours := memory.addRedirect rule
    let theirs := script.addRedirect rule
    ours.outcome = .ok () ∧ theirs.outcome = .ok () ∧
      Paired table ours.backend theirs.backend ∧
      ours.backend.staged = some (staged ++ [rule]) ∧
      ours.backend.commitRefusals = memory.commitRefusals ∧
      theirs.backend.program = script.program := by
  have writing : script.script = some (ScriptFilter.installScript table staged) := by
    rw [paired.pending, isOpen]
    rfl
  have line := ScriptFilter.installScript_append_singleton table staged rule
  have written : script.addRedirect rule =
      ⟨.ok (), { script with
        script := some (ScriptFilter.installScript table (staged ++ [rule])) }⟩ := by
    simp only [ScriptFilter.addRedirect, writing, line, paired.owns]
  have added : memory.addRedirect rule =
      ⟨.ok (), { memory with staged := some (staged ++ [rule]) }⟩ := by
    simp only [MemoryFilter.addRedirect, paired.willing, isOpen]
  rw [written, added]
  exact ⟨rfl, rfl, ⟨paired.willing, paired.owns, rfl, paired.applied⟩, rfl, rfl, rfl⟩

/-- A commit that goes alike for both keeps them paired. -/
theorem commit (paired : Paired table memory script) {staged : List RedirectRule}
    (isOpen : memory.staged = some staged) {kind : BackendError → κ}
    (alike : SameKind kind (comingOutcome memory.commitRefusals) script.program.outcome) :
    SameKind kind memory.commit.value.outcome script.commit.value.outcome ∧
      Paired table memory.commit.value.backend script.commit.value.backend := by
  have writing : script.script = some (ScriptFilter.installScript table staged) := by
    rw [paired.pending, isOpen]
    rfl
  have tried := MemoryFilter.commit_of_staged isOpen
  have swapped := MemoryFilter.commit_spec isOpen
  have applies : (script.program.run (ScriptFilter.installScript table staged)).program.applied =
      if script.program.outcome.isOk then some (ScriptFilter.installScript table staged)
      else script.program.applied := rfl
  rw [ScriptFilter.commit_of_writing writing, tried.1]
  rw [tried.1] at swapped
  have willing := tried.2.2.trans paired.willing
  generalize comingOutcome memory.commitRefusals = ours at alike swapped ⊢
  generalize script.program.outcome = theirs at alike applies ⊢
  refine ⟨alike, willing, paired.owns, ?pending, ?applied⟩
  case pending =>
    cases alike with
    | accepted | refused =>
        rw [swapped.2]
        rfl
  case applied =>
    cases alike with
    | accepted =>
        rw [swapped.1]
        exact .inr applies
    | refused =>
        rw [swapped.1, applies]
        exact paired.applied

end Paired

/-! ## The calls of a rebuild, side by side -/

/-- A call that was made of both filters while rules were being installed. -/
structure CallsAlike (kind : BackendError → κ) (table : String) (rules : List RedirectRule)
    (memory : CallRecord MemoryFilter) (script : CallRecord ScriptFilter) : Prop where
  call : memory.call = script.call
  outcome : SameKind kind memory.outcome script.outcome
  /-- A script is pending after the call iff a set of rules is staged. -/
  pending : script.after.inTransaction = memory.after.inTransaction
  /-- The filter program is given the script of the rules with each commit, unless the
  exchange with it breaks, and is given nothing else. -/
  given : script.after.program.received = script.before.program.received ++
    if script.call = .commit ∧ script.before.program.failure? = none then
      [ScriptFilter.installScript table rules]
    else []

/-- Two filters in the midst of installing rules, the calls so far alike. -/
structure Abreast (kind : BackendError → κ) (table : String) (rules : List RedirectRule)
    (memory : Recorded MemoryFilter) (script : Recorded ScriptFilter) : Prop where
  paired : Paired table memory.backend script.backend
  calls : List.Forall₂ (CallsAlike kind table rules) memory.records script.records

namespace Abreast

variable {kind : BackendError → κ} {table : String} {rules : List RedirectRule}
variable {memory : Recorded MemoryFilter} {script : Recorded ScriptFilter}

/-- One more call that goes alike. -/
theorem note (abreast : Abreast kind table rules memory script) (call : FilterCall)
    {ours : Attempt MemoryFilter} {theirs : Attempt ScriptFilter}
    (outcome : SameKind kind ours.outcome theirs.outcome)
    (paired : Paired table ours.backend theirs.backend)
    (given : theirs.backend.program.received = script.backend.program.received ++
      if call = .commit ∧ script.backend.program.failure? = none then
        [ScriptFilter.installScript table rules]
      else []) :
    Abreast kind table rules (memory.note call ours).backend (script.note call theirs).backend where
  paired := paired
  calls := List.rel_append abreast.calls
    (.cons ⟨rfl, outcome, paired.inTransaction_eq, given⟩ .nil)

theorem openTransaction (abreast : Abreast kind table rules memory script) :
    Abreast kind table rules (Backend.openTransaction memory).value.backend
      (Backend.openTransaction script).value.backend := by
  rw [Recorded.value_openTransaction, Recorded.value_openTransaction]
  refine abreast.note .openTransaction .accepted abreast.paired.openTransaction ?_
  exact (List.append_nil _).symm

theorem rollback (abreast : Abreast kind table rules memory script) :
    Abreast kind table rules (Backend.rollback memory) (Backend.rollback script) := by
  refine abreast.note .rollback .accepted abreast.paired.rollback ?_
  exact (List.append_nil _).symm

/-- Adding rules goes well for both, and touches nothing but what is staged. -/
theorem addRules (abreast : Abreast kind table rules memory script)
    {staged : List RedirectRule} (isOpen : memory.backend.staged = some staged)
    (added : List RedirectRule) :
    let ours := (Synchronizer.addRules memory added).value
    let theirs := (Synchronizer.addRules script added).value
    ours.refused = none ∧ theirs.refused = none ∧
      Abreast kind table rules ours.backend theirs.backend ∧
      ours.backend.backend.staged = some (staged ++ added) ∧
      ours.backend.backend.commitRefusals = memory.backend.commitRefusals ∧
      theirs.backend.backend.program = script.backend.program := by
  induction added generalizing memory script staged with
  | nil =>
      rw [List.append_nil]
      exact ⟨rfl, rfl, abreast, isOpen, rfl, rfl⟩
  | cons rule rest ih =>
      rcases abreast.paired.addRedirect isOpen rule with
        ⟨ours, theirs, paired, isFilled, refusals, program⟩
      have oursAccepted : (Backend.addRedirect memory rule).value.outcome = .ok () := ours
      have theirsAccepted : (Backend.addRedirect script rule).value.outcome = .ok () := theirs
      have alike : SameKind kind (memory.backend.addRedirect rule).outcome
          (script.backend.addRedirect rule).outcome := by
        rw [ours, theirs]
        exact .accepted
      have given : (script.backend.addRedirect rule).backend.program.received =
          script.backend.program.received ++ [] := by
        rw [program, List.append_nil]
      have noted : Abreast kind table rules (Backend.addRedirect memory rule).value.backend
          (Backend.addRedirect script rule).value.backend :=
        abreast.note (.addRedirect rule) alike paired given
      have later := ih noted isFilled
      rw [List.append_assoc] at later
      rw [Synchronizer.addRules_of_ok oursAccepted, Synchronizer.addRules_of_ok theirsAccepted]
      rcases later with ⟨oursFilled, theirsFilled, abreast, staged, unused, ran⟩
      exact ⟨oursFilled, theirsFilled, abreast, staged, unused.trans refusals, ran.trans program⟩

/-- A commit goes alike if it comes alike, and leaves the coming ones alike while both are
busy. -/
theorem commit (abreast : Abreast kind table rules memory script)
    (isOpen : memory.backend.staged = some rules) {attempts : Nat}
    (coming : ComingAlike kind (attempts + 1) memory.backend.commitRefusals
      script.backend.program.toRunPlan) :
    let ours := (Backend.commit memory).value
    let theirs := (Backend.commit script).value
    SameKind kind ours.outcome theirs.outcome ∧
      Abreast kind table rules ours.backend theirs.backend ∧
      (ours.outcome = .error .busy →
        ours.backend.backend.staged = some rules ∧
          ComingAlike kind attempts ours.backend.backend.commitRefusals
            theirs.backend.backend.program.toRunPlan) := by
  intro ours theirs
  have writing : script.backend.script = some (ScriptFilter.installScript table rules) := by
    rw [abreast.paired.pending, isOpen]
    rfl
  have tried := MemoryFilter.commit_of_staged isOpen
  have ran := ScriptFilter.commit_of_writing writing
  have went := abreast.paired.commit isOpen coming.1
  have given : script.backend.commit.value.backend.program.received =
      script.backend.program.received ++
        if FilterCall.commit = .commit ∧ script.backend.program.failure? = none then
          [ScriptFilter.installScript table rules]
        else [] := by
    rw [ran]
    cases broken : script.backend.program.failure? with
    | none => simp [FilterProgram.run, broken]
    | some failure => simp [FilterProgram.run, broken]
  refine ⟨went.1, abreast.note .commit went.1 went.2 given, ?_⟩
  intro busy
  have swapped := MemoryFilter.commit_spec isOpen
  have refused : memory.backend.commit.value.outcome = .error .busy := busy
  rw [refused] at swapped
  refine ⟨swapped.2, ?_⟩
  have first : memory.backend.commitRefusals.head? = some .busy := by
    rw [tried.1] at refused
    cases refusals : memory.backend.commitRefusals with
    | nil =>
        rw [refusals] at refused
        cases refused
    | cons refusal later =>
        rw [refusals] at refused
        cases refused
        rfl
  have next := coming.2 first
  have left : ours.backend.backend.commitRefusals = memory.backend.commitRefusals.tail := tried.2.1
  have planned : theirs.backend.backend.program.toRunPlan = script.backend.program.later := by
    have after : theirs.backend.backend = script.backend.commit.value.backend := rfl
    rw [after, ran]
    rfl
  rw [left, planned]
  exact next

/-- Committing patiently goes alike if the first two commits come alike. -/
theorem commitPatiently (abreast : Abreast kind table rules memory script)
    (tellsBusy : TellsBusy kind) (isOpen : memory.backend.staged = some rules)
    (coming : ComingAlike kind 2 memory.backend.commitRefusals script.backend.program.toRunPlan)
    (ours : Synchronizer (Recorded MemoryFilter))
    (theirs : Synchronizer (Recorded ScriptFilter)) :
    SameKind kind (ours.commitPatiently memory).value.outcome
        (theirs.commitPatiently script).value.outcome ∧
      Abreast kind table rules (ours.commitPatiently memory).value.backend
        (theirs.commitPatiently script).value.backend := by
  rcases abreast.commit isOpen coming with ⟨alike, later, again⟩
  by_cases busy : (Backend.commit memory).value.outcome = .error .busy
  · rcases again busy with ⟨stillOpen, comingAgain⟩
    have alsoBusy := (alike.busy_iff tellsBusy).mp busy
    rcases later.commit stillOpen comingAgain with ⟨alikeAgain, last, _⟩
    rw [ours.commitPatiently_of_busy busy, theirs.commitPatiently_of_busy alsoBusy]
    exact ⟨alikeAgain, last⟩
  · have alsoNotBusy := mt (alike.busy_iff tellsBusy).mpr busy
    rw [ours.commitPatiently_of_ne_busy busy, theirs.commitPatiently_of_ne_busy alsoNotBusy]
    exact ⟨alike, later⟩

end Abreast

/-! ## Rebuilds, side by side -/

/-- What a rebuild of both filters for some mappings comes to. -/
structure RebuildsAlike (kind : BackendError → κ) (table : String)
    (memory : Synchronizer MemoryFilter) (script : Synchronizer ScriptFilter)
    (mappings : List Mapping) : Prop where
  /-- Both report as many rules as there are mappings, or commits refused in the same way. -/
  outcome :
    (memory.rebuild mappings).value.outcome = .ok mappings.length ∧
        (script.rebuild mappings).value.outcome = .ok mappings.length ∨
      ∃ ours theirs, kind ours = kind theirs ∧
        (memory.rebuild mappings).value.outcome = .error (.commit ours) ∧
        (script.rebuild mappings).value.outcome = .error (.commit theirs)
  calls : List.Forall₂ (CallsAlike kind table (mappings.map RedirectRule.ofMapping))
    (memory.rebuildCalls mappings) (script.rebuildCalls mappings)
  paired : Paired table (memory.rebuild mappings).value.synchronizer.backend
    (script.rebuild mappings).value.synchronizer.backend

/-- Paired filters whose coming commits go alike are rebuilt alike. -/
theorem Paired.rebuild {kind : BackendError → κ} {table : String}
    {memory : Synchronizer MemoryFilter} {script : Synchronizer ScriptFilter}
    (paired : Paired table memory.backend script.backend) (tellsBusy : TellsBusy kind)
    (coming : ComingAlike kind 2 memory.backend.commitRefusals
      script.backend.program.toRunPlan)
    (mappings : List Mapping) : RebuildsAlike kind table memory script mappings := by
  have first : Abreast kind table (mappings.map RedirectRule.ofMapping)
      memory.recording.backend script.recording.backend := ⟨paired, .nil⟩
  have opened := first.openTransaction
  have emptySet : memory.recording.opened.backend.backend.staged = some [] := rfl
  have added := opened.addRules emptySet (mappings.map RedirectRule.ofMapping)
  rw [List.nil_append] at added
  rcases added with ⟨oursFilled, theirsFilled, filled, isFilled, refusals, program⟩
  have oursQueued : (memory.recording.filled mappings).backend.backend.commitRefusals =
      memory.backend.commitRefusals := refusals
  have theirsPlanned : (script.recording.filled mappings).backend.backend.program =
      script.backend.program := program
  rw [← oursQueued, ← theirsPlanned] at coming
  have committed := filled.commitPatiently tellsBusy isFilled coming
    memory.recording script.recording
  have oursSame := memory.rebuild_recording mappings
  have theirsSame := script.rebuild_recording mappings
  have alike : SameKind kind (memory.recording.committed mappings).outcome
      (script.recording.committed mappings).outcome := committed.1
  generalize oursWent : (memory.recording.committed mappings).outcome = ours at alike
  generalize theirsWent : (script.recording.committed mappings).outcome = theirs at alike
  cases alike with
  | accepted =>
      have oursRebuilt := Synchronizer.rebuild_of_committed_ok rfl oursFilled oursWent
      have theirsRebuilt := Synchronizer.rebuild_of_committed_ok rfl theirsFilled theirsWent
      rw [oursRebuilt] at oursSame
      rw [theirsRebuilt] at theirsSame
      refine ⟨.inl ⟨oursSame.1.symm, theirsSame.1.symm⟩, ?calls, ?paired⟩
      case calls =>
        rw [Synchronizer.rebuildCalls, Synchronizer.rebuildCalls, oursRebuilt, theirsRebuilt]
        exact committed.2.calls
      case paired =>
        rw [← oursSame.2, ← theirsSame.2]
        exact committed.2.paired
  | @refused ours theirs same =>
      have oursRebuilt := Synchronizer.rebuild_of_committed_error rfl oursFilled oursWent
      have theirsRebuilt := Synchronizer.rebuild_of_committed_error rfl theirsFilled theirsWent
      rw [oursRebuilt] at oursSame
      rw [theirsRebuilt] at theirsSame
      have discarded := committed.2.rollback
      refine ⟨.inr ⟨ours, theirs, same, oursSame.1.symm, theirsSame.1.symm⟩, ?calls, ?paired⟩
      case calls =>
        rw [Synchronizer.rebuildCalls, Synchronizer.rebuildCalls, oursRebuilt, theirsRebuilt]
        exact discarded.calls
      case paired =>
        rw [← oursSame.2, ← theirsSame.2]
        exact discarded.paired

/-! ## Any sequence of rebuilds -/

/-- A rebuild that is due: the mappings, and how the coming commits will go. -/
structure Round where
  mappings : List Mapping
  /-- The refusals queued for rules kept in memory. -/
  refusals : List BackendError
  /-- The plan of the program that is given scripts. -/
  plan : RunPlan

/-- The coming commits go alike: both are accepted, or both refused in the same way, and where
they are refused as busy, so it is for the next ones. -/
def Round.Fair (kind : BackendError → κ) (round : Round) : Prop :=
  ComingAlike kind 2 round.refusals round.plan

/-- A filter of each sort, side by side. -/
structure FilterPair where
  memory : Synchronizer MemoryFilter
  script : Synchronizer ScriptFilter

namespace FilterPair

/-- New filters without rules, the scripts being for a table. -/
def new (table : String) (memoryDelay scriptDelay : Nat) : FilterPair where
  memory := ⟨.empty, memoryDelay⟩
  script := ⟨{ table }, scriptDelay⟩

/-- Settle how the coming commits will go. -/
def prepare (pair : FilterPair) (round : Round) : FilterPair where
  memory := { pair.memory with
    backend := { pair.memory.backend with commitRefusals := round.refusals } }
  script := { pair.script with
    backend := { pair.script.backend with
      program := { pair.script.backend.program with toRunPlan := round.plan } } }

/-- Rebuild both filters once. -/
def play (pair : FilterPair) (round : Round) : FilterPair where
  memory := ((pair.prepare round).memory.rebuild round.mappings).value.synchronizer
  script := ((pair.prepare round).script.rebuild round.mappings).value.synchronizer

/-- Rebuild both filters again and again. -/
def run (pair : FilterPair) (rounds : List Round) : FilterPair := rounds.foldl play pair

variable {kind : BackendError → κ} {table : String} {pair : FilterPair}

/-- Paired filters are rebuilt alike in a fair round. -/
theorem rebuildsAlike_prepare (paired : Paired table pair.memory.backend pair.script.backend)
    (tellsBusy : TellsBusy kind) {round : Round} (fair : round.Fair kind) :
    RebuildsAlike kind table (pair.prepare round).memory (pair.prepare round).script
      round.mappings := by
  have ready : Paired table (pair.prepare round).memory.backend
      (pair.prepare round).script.backend :=
    ⟨paired.willing, paired.owns, paired.pending, paired.applied⟩
  exact ready.rebuild tellsBusy fair round.mappings

theorem paired_run (paired : Paired table pair.memory.backend pair.script.backend)
    (tellsBusy : TellsBusy kind) {rounds : List Round} (fair : ∀ round ∈ rounds, round.Fair kind) :
    Paired table (pair.run rounds).memory.backend (pair.run rounds).script.backend := by
  induction rounds generalizing pair with
  | nil => exact paired
  | cons round rest ih =>
      have rebuilt := rebuildsAlike_prepare paired tellsBusy (fair round List.mem_cons_self)
      have next : Paired table (pair.play round).memory.backend
          (pair.play round).script.backend := rebuilt.paired
      apply ih next
      intro later member
      exact fair later (List.mem_cons_of_mem round member)

/-- Over any sequence of rebuilds whose commits are accepted or refused alike, rules kept in
memory and rules written as scripts agree.  Each rebuild reports the same: the same count, or
commits refused in the same way.  It makes the same calls, after each of which a script is
pending iff rules are staged; every commit gives the filter program the script of the rules
that were asked for, the second one the same as the first.  After the rebuild no transaction is
open, and the script applied last is that of the rules in force in memory. -/
theorem rebuilds_alike_of_run (tellsBusy : TellsBusy kind) (table : String)
    (memoryDelay scriptDelay : Nat) {earlier : List Round}
    (fairSoFar : ∀ round ∈ earlier, round.Fair kind) {round : Round}
    (fair : round.Fair kind) :
    let ready := ((new table memoryDelay scriptDelay).run earlier).prepare round
    let ours := (ready.memory.rebuild round.mappings).value
    let theirs := (ready.script.rebuild round.mappings).value
    RebuildsAlike kind table ready.memory ready.script round.mappings ∧
      ours.synchronizer.backend.inTransaction = false ∧
      theirs.synchronizer.backend.inTransaction = false ∧
      ours.synchronizer.backend.active =
        if ours.outcome.isOk then round.mappings.map RedirectRule.ofMapping
        else ready.memory.backend.active := by
  intro ready ours theirs
  have fresh : Paired table (new table memoryDelay scriptDelay).memory.backend
      (new table memoryDelay scriptDelay).script.backend := ⟨rfl, rfl, rfl, .inl ⟨rfl, rfl⟩⟩
  have alike := rebuildsAlike_prepare (paired_run fresh tellsBusy fairSoFar) tellsBusy fair
  have spec := MemoryFilter.rebuild_spec ready.memory round.mappings
  have closed : ours.synchronizer.backend.inTransaction = false := by
    rw [MemoryFilter.inTransaction, spec.1]
    rfl
  exact ⟨alike, closed, alike.paired.inTransaction_eq.trans closed, spec.2⟩

/-- A run of the filter program that finds the filter busy. -/
def busyExit : ProgramExit :=
  ⟨1, "Error: Device or resource busy".toList.map fun character => .ofNat character.toNat⟩

/-- A mapping to port 80 of a host. -/
def mappingTo (host : UInt8) : Mapping :=
  ⟨⟨0⟩, .tcp, ⟨⟨198, 51, 100, 1⟩, 50000⟩, ⟨⟨10, 0, 0, host⟩, 80⟩, ⟨0⟩⟩

/-- A commit that is accepted, and one that is accepted at the second attempt. -/
def acceptedRounds : List Round :=
  [⟨[mappingTo 5], [], {}⟩,
    ⟨[mappingTo 5, mappingTo 6], [.busy], { upcoming := [busyExit] }⟩]

/-- A commit that finds the filter busy, and is then refused for other reasons. -/
def refusedRound : Round :=
  ⟨[mappingTo 6], [.busy, .failed "refused"],
    { failures := [none, some (.refused .permissionDenied)], upcoming := [busyExit] }⟩

/-- Whether a refusal is one that is worth another try. -/
def isBusy (refusal : BackendError) : Bool := refusal = .busy

theorem tellsBusy_isBusy : TellsBusy isBusy := by
  intro refusal same
  simpa [isBusy] using same

theorem outcome_of_busyExit {plan : RunPlan} (unbroken : plan.failure? = none)
    (busy : plan.upcoming.headD .success = busyExit) : plan.outcome = .error .busy := by
  have refused : refusalOf busyExit.errorOutput = .busy := by decide +kernel
  rw [RunPlan.outcome, unbroken]
  simp only [busy, refused]
  rfl

theorem fair_acceptedRounds : ∀ round ∈ acceptedRounds, round.Fair isBusy := by
  have busy : ({ upcoming := [busyExit] } : RunPlan).outcome = .error .busy :=
    outcome_of_busyExit rfl rfl
  simp only [acceptedRounds, List.forall_mem_cons]
  refine ⟨⟨.accepted, nofun⟩, ⟨?_, fun _ => ⟨.accepted, nofun⟩⟩, nofun⟩
  rw [busy]
  exact .refused rfl

theorem fair_refusedRound : refusedRound.Fair isBusy := by
  have busy : refusedRound.plan.outcome = .error .busy := outcome_of_busyExit rfl rfl
  refine ⟨?_, fun _ => ⟨.refused rfl, nofun⟩⟩
  rw [busy]
  exact .refused rfl

/-- After two rebuilds that went well, at three attempts, a third one fails: its script is run
once, cannot be handed over again, and leaves the two rules of the second in force. -/
theorem rebuilds_alike_after_acceptedRounds :
    TellsBusy isBusy ∧ (∀ round ∈ acceptedRounds, round.Fair isBusy) ∧
      refusedRound.Fair isBusy ∧
      let ready := ((new "gateway" 5 5).run acceptedRounds).prepare refusedRound
      let ours := (ready.memory.rebuild refusedRound.mappings).value
      let theirs := (ready.script.rebuild refusedRound.mappings).value
      RebuildsAlike isBusy "gateway" ready.memory ready.script refusedRound.mappings ∧
        ours.outcome.isOk = false ∧
        ours.synchronizer.backend.active =
          [mappingTo 5, mappingTo 6].map RedirectRule.ofMapping ∧
        theirs.synchronizer.backend.program.received.length = 4 := by
  have alike := rebuilds_alike_of_run tellsBusy_isBusy "gateway" 5 5 fair_acceptedRounds
    fair_refusedRound
  refine ⟨tellsBusy_isBusy, fair_acceptedRounds, fair_refusedRound, alike.1, ?_, ?_, ?_⟩
  all_goals decide +kernel

end FilterPair

end PortMapping
