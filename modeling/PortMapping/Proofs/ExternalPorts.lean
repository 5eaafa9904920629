import PortMapping.Proofs.Redirections

/-!
# External ports

Redirections to one internal endpoint share an external port, in every run.  The converse,
that redirections at one port lead to one internal endpoint, depends on the ports drawn, and
on nothing else: as long as no port is drawn that is in use at that moment, it holds as well.
Both are facts about what determines what among the redirections, kept by every step because
an addition takes the port of a related redirection where there is one.
-/

namespace PortMapping

/-- A port of the dynamic range. -/
def IsDynamicPort (port : UInt16) : Prop := firstDynamicPort ≤ port ∧ port ≤ lastDynamicPort

instance (port : UInt16) : Decidable (IsDynamicPort port) :=
  inferInstanceAs (Decidable (_ ∧ _))

/-- Redirections that agree in one respect agree in another. -/
def Determines {ι κ : Type} (respect : RedirectRule → ι) (other : RedirectRule → κ)
    (rules : List RedirectRule) : Prop :=
  ∀ left ∈ rules, ∀ right ∈ rules, respect left = respect right → other left = other right

namespace Determines

variable {ι κ : Type} {respect : RedirectRule → ι} {other : RedirectRule → κ}
variable {rules fewer : List RedirectRule} {added : RedirectRule}

theorem subset (determines : Determines respect other rules) (subset : fewer ⊆ rules) :
    Determines respect other fewer := by
  intro left leftMember right rightMember same
  exact determines left (subset leftMember) right (subset rightMember) same

/-- A redirection can be added that agrees with those it has to agree with. -/
theorem append_singleton (determines : Determines respect other rules)
    (agrees : ∀ rule ∈ rules, respect rule = respect added → other rule = other added) :
    Determines respect other (rules ++ [added]) := by
  intro left leftMember right rightMember same
  rcases List.mem_append.mp leftMember with leftMember | leftNew
  · rcases List.mem_append.mp rightMember with rightMember | rightNew
    · exact determines left leftMember right rightMember same
    · cases List.mem_singleton.mp rightNew
      exact agrees left leftMember same
  · cases List.mem_singleton.mp leftNew
    rcases List.mem_append.mp rightMember with rightMember | rightNew
    · exact (agrees right rightMember same.symm).symm
    · cases List.mem_singleton.mp rightNew
      rfl

end Determines

namespace Server

variable {β σ : Type} {server : Server β σ} {internal : Endpoint4}

/-! ## Related redirections -/

theorem exists_redirect_of_relatedPort? {port : UInt16}
    (related : server.table.relatedPort? internal = some port) :
    ∃ rule ∈ server.redirects, rule.internal = internal ∧ rule.external.port = port := by
  rcases Table.exists_mapping_of_relatedPort? related with ⟨mapping, member, leads, port⟩
  exact ⟨_, mem_redirects.mpr ⟨mapping, member, rfl⟩, leads, port⟩

theorem internal_ne_of_relatedPort?_eq_none
    (unrelated : server.table.relatedPort? internal = none) {rule : RedirectRule}
    (member : rule ∈ server.redirects) : rule.internal ≠ internal := by
  rcases mem_redirects.mp member with ⟨mapping, mappingMember, rfl⟩
  exact Table.internal_ne_of_relatedPort?_eq_none unrelated mappingMember

theorem port_addition_of_related {port : UInt16} (transport : Transport)
    (related : server.table.relatedPort? internal = some port) :
    (server.addition transport internal).external.port = port := by
  rw [addition, related]
  rfl

theorem port_addition_of_unrelated (transport : Transport)
    (unrelated : server.table.relatedPort? internal = none) :
    (server.addition transport internal).external.port = server.table.ports.next := by
  rw [addition, unrelated]
  rfl

/-! ## What a step keeps -/

/-- Redirections to one internal endpoint have one external port. -/
def SharesPorts (server : Server β σ) : Prop :=
  Determines (·.internal) (·.external.port) server.redirects

/-- Redirections at one external port have one internal endpoint. -/
def SeparatesPorts (server : Server β σ) : Prop :=
  Determines (·.external.port) (·.internal) server.redirects

/-- The step draws no port that a mapping has at that moment. -/
def DrawsFresh (server : Server β σ) (step : Step β σ) : Prop :=
  ∀ mapping ∈ server.table.mappings, server.draw? step ≠ some mapping.external.port

instance (step : Step β σ) : Decidable (server.DrawsFresh step) :=
  inferInstanceAs (Decidable (∀ mapping ∈ server.table.mappings, _))

variable [Backend β] [AddressSource σ]

theorem SharesPorts.step (shared : server.SharesPorts) (step : Step β σ) :
    (server.step step).SharesPorts := by
  cases server.growth step with
  | none _ rules _ => exact Determines.subset shared rules
  | @one transport internal _ _ rules _ =>
      rw [SharesPorts, rules]
      apply Determines.append_singleton shared
      intro rule member leads
      cases related : server.table.relatedPort? internal with
      | none => exact (internal_ne_of_relatedPort?_eq_none related member leads).elim
      | some port =>
          rcases exists_redirect_of_relatedPort? related with ⟨known, knownMember, same, rfl⟩
          rw [port_addition_of_related transport related]
          exact shared rule member known knownMember (leads.trans same.symm)

theorem SeparatesPorts.step (apart : server.SeparatesPorts) {step : Step β σ}
    (fresh : server.DrawsFresh step) : (server.step step).SeparatesPorts := by
  cases server.growth step with
  | none _ rules _ => exact Determines.subset apart rules
  | @one transport internal key _ rules _ =>
      rw [SeparatesPorts, rules]
      apply Determines.append_singleton apart
      intro rule member atPort
      cases related : server.table.relatedPort? internal with
      | none =>
          rw [port_addition_of_unrelated transport related] at atPort
          rcases mem_redirects.mp member with ⟨mapping, mappingMember, rfl⟩
          have drawn : server.draw? step = some server.table.ports.next := by
            simp only [draw?, key, related]
          exact (fresh mapping mappingMember (drawn.trans (congrArg some atPort.symm))).elim
      | some port =>
          rcases exists_redirect_of_relatedPort? related with ⟨known, knownMember, same, rfl⟩
          rw [port_addition_of_related transport related] at atPort
          exact (apart rule member known knownMember atPort).trans same

/-- The ports of a server, those still to be drawn included, are dynamic ones. -/
structure InDynamicRange (server : Server β σ) : Prop where
  upcoming : ∀ position, IsDynamicPort (server.table.ports.upcoming position)
  inUse : ∀ rule ∈ server.redirects, IsDynamicPort rule.external.port

theorem InDynamicRange.step (inRange : server.InDynamicRange) (step : Step β σ) :
    (server.step step).InDynamicRange where
  upcoming := by
    rw [ports_step]
    split
    · intro position
      exact inRange.upcoming (position + 1)
    · exact inRange.upcoming
  inUse := by
    cases server.growth step with
    | none _ rules _ =>
        intro rule member
        exact inRange.inUse rule (rules member)
    | @one transport internal _ _ rules _ =>
        rw [rules]
        intro rule member
        rcases List.mem_append.mp member with member | new
        · exact inRange.inUse rule member
        · cases List.mem_singleton.mp new
          cases related : server.table.relatedPort? internal with
          | none =>
              rw [port_addition_of_unrelated transport related]
              exact inRange.upcoming 0
          | some port =>
              rcases exists_redirect_of_relatedPort? related with ⟨known, knownMember, _, rfl⟩
              rw [port_addition_of_related transport related]
              exact inRange.inUse known knownMember

/-- In every state of every run, external ports are dynamic ones if those drawn are, and
mappings for one internal endpoint share their external port.  In a run whose draws are
fresh, only those do: related ports, deletions, expiries and recreations bring about no
collision, and no two mappings of one transport share an external port. -/
theorem external_ports_of_run (rules : Synchronizer β) (monitor : Monitor σ) (startTime : Int)
    (ports : PortSource) (steps : List (Step β σ)) :
    let first := new rules monitor startTime ports
    let mappings := (first.run steps).table.mappings
    ((∀ position, IsDynamicPort (ports.upcoming position)) →
        ∀ mapping ∈ mappings, IsDynamicPort mapping.external.port) ∧
      (∀ left ∈ mappings, ∀ right ∈ mappings,
        left.internal = right.internal → left.external.port = right.external.port) ∧
      (first.Along DrawsFresh steps → ∀ left ∈ mappings, ∀ right ∈ mappings,
        (left.external.port = right.external.port ↔ left.internal = right.internal) ∧
          (left.transport = right.transport → left.external.port = right.external.port →
            left = right)) := by
  intro first mappings
  have rule : ∀ mapping ∈ mappings,
      RedirectRule.ofMapping mapping ∈ (first.run steps).redirects :=
    fun mapping member => mem_redirects.mpr ⟨mapping, member, rfl⟩
  have empty : first.SharesPorts ∧ first.SeparatesPorts := ⟨nofun, nofun⟩
  have shared : (first.run steps).SharesPorts :=
    run_invariant (fun _ step _ shared => shared.step step) empty.1
  refine ⟨?_, ?_, ?_⟩
  · intro dynamic mapping member
    have inRange : (first.run steps).InDynamicRange :=
      run_invariant (fun _ step _ inRange => inRange.step step) ⟨dynamic, nofun⟩
    exact inRange.inUse _ (rule mapping member)
  · intro left leftMember right rightMember same
    exact shared _ (rule left leftMember) _ (rule right rightMember) same
  · intro fresh left leftMember right rightMember
    have apart : (first.run steps).SeparatesPorts :=
      fresh.invariant (fun _ _ drawsFresh apart => apart.step drawsFresh) empty.2
    have leadsSame : left.external.port = right.external.port → left.internal = right.internal :=
      apart _ (rule left leftMember) _ (rule right rightMember)
    refine ⟨⟨leadsSame, shared _ (rule left leftMember) _ (rule right rightMember)⟩, ?_⟩
    intro transport port
    have reachable : (first.run steps).Reachable := ⟨rules, monitor, startTime, ports, steps, rfl⟩
    apply reachable.consistent.table.eq_of_key_eq leftMember rightMember
    rw [Mapping.key, Mapping.key, transport, leadsSame port]

/-- One client holds a port under both transports and another client one of its own.  Of the
pair, one half ends and is asked for again after the external address has changed. -/
def halfRecreated : List (Step MemoryFilter AddressTable) :=
  [.call (.checkInterface 0), .call (.ask ⟨10, 0, 0, 5⟩ ⟨.udp, 80, 0, 1⟩ 0),
    .call (.ask ⟨10, 0, 0, 5⟩ ⟨.tcp, 80, 0, 60⟩ 0),
    .call (.ask ⟨10, 0, 0, 6⟩ ⟨.udp, 80, 0, 60⟩ 0), .call (.fireTimers (seconds 1)),
    .addresses (·.set "em0" [.v4 ⟨203, 0, 113, 9⟩]), .call (.checkInterface (milliseconds 1500)),
    .call (.ask ⟨10, 0, 0, 5⟩ ⟨.udp, 80, 0, 60⟩ (seconds 2))]

/-- The half that is asked for again gets the port of the other half, and no other has it. -/
theorem external_ports_of_halfRecreated :
    let first := new ⟨.empty, 0⟩ oneInterface 0 (.ofList [50000, 50001])
    let mappings := (first.run halfRecreated).table.mappings
    first.Along DrawsFresh halfRecreated ∧
      mappings.map (fun mapping => (mapping.internal.address, mapping.external.port)) =
        [(⟨10, 0, 0, 5⟩, 50000), (⟨10, 0, 0, 6⟩, 50001), (⟨10, 0, 0, 5⟩, 50000)] ∧
      ∀ left ∈ mappings, ∀ right ∈ mappings,
        left.external.port = right.external.port ↔ left.internal = right.internal := by
  have fresh : (new ⟨.empty, 0⟩ oneInterface 0 (.ofList [50000, 50001])).Along DrawsFresh
      halfRecreated := by decide +kernel
  have ports := external_ports_of_run ⟨.empty, 0⟩ oneInterface 0 (.ofList [50000, 50001])
    halfRecreated
  refine ⟨fresh, by decide +kernel, ?_⟩
  intro left leftMember right rightMember
  exact (ports.2.2 fresh left leftMember right rightMember).1

end Server

end PortMapping
