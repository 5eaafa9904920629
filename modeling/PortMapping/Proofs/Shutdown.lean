import PortMapping.Proofs.RuleConsistency

/-!
# Shutting down

Shutting down drops the mappings, the timers and the announcements before it turns to the
packet filter, so nothing that the filter answers can leave any of them behind.  A server that
is stopped stays so, and sends nothing, until it is asked for a mapping or looks for its
address again.
-/

namespace PortMapping

/-- A step at which no datagram comes and the interface is not looked at. -/
def Step.Undemanding {β σ : Type} : Step β σ → Prop
  | .call .start | .call (.fireTimers _) | .call .shutdown => True
  | .call (.datagram ..) | .call (.interfaceEvent ..) | .call (.checkInterface _) => False
  | .filter _ | .addresses _ => True

namespace Server

variable {β σ : Type}

/-- Nothing is left for a server to do: it holds no mapping, no timer is pending, and no
announcement is planned. -/
structure Stopped (server : Server β σ) : Prop where
  mappings : server.table.mappings = []
  schedule : server.timers.schedule = []
  deadlines : server.timers.deadlines = []
  announcer : server.announcer.isActive = false

/-- Two servers hold the same mappings and have the same timers and announcements to see to. -/
structure SameDuties (left right : Server β σ) : Prop where
  table : left.table = right.table
  timers : left.timers = right.timers
  announcer : left.announcer = right.announcer

namespace SameDuties

variable {first second third : Server β σ}

theorem refl (server : Server β σ) : server.SameDuties server := ⟨rfl, rfl, rfl⟩

theorem trans (left : first.SameDuties second) (right : second.SameDuties third) :
    first.SameDuties third :=
  ⟨left.table.trans right.table, left.timers.trans right.timers,
    left.announcer.trans right.announcer⟩

theorem stopped (same : first.SameDuties second) (stopped : second.Stopped) : first.Stopped := by
  constructor
  · rw [same.table, stopped.mappings]
  · rw [same.timers, stopped.schedule]
  · rw [same.timers, stopped.deadlines]
  · rw [same.announcer, stopped.announcer]

end SameDuties

section Handlers

variable [Backend β]

/-- Shutting down stops a server, whatever the filter does. -/
theorem stopped_shutdown (server : Server β σ) : server.shutdown.value.server.Stopped where
  mappings := rfl
  schedule := rfl
  deadlines := rfl
  announcer := by
    change (server.announcer.cancel _).announcer.isActive = false
    rw [Announcer.cancel]
    split
    next idle => rw [Announcer.isActive, idle]; rfl
    · rfl

namespace Stopped

variable {server : Server β σ}

omit [Backend β] in
theorem nextDeadline (stopped : server.Stopped) : server.nextDeadline = none := by
  rw [Server.nextDeadline, TimerQueue.nextDeadline, stopped.schedule]
  rfl

/-- A stopped server has no timer to fire. -/
theorem fireTimers (stopped : server.Stopped) (now : Int) :
    (server.fireTimers now).value = ⟨[], server⟩ := by
  apply fireTimers_of_none
  rw [TimerQueue.popDue, stopped.schedule]

/-- Shutting down a stopped server does no more than clear the rules again. -/
theorem shutdown (stopped : server.Stopped) :
    server.shutdown.value.server.SameDuties server := by
  have timers : (server.table.clear server.timers).timers = server.timers := by
    simp only [Table.clear, stopped.mappings]
    rfl
  have idle : server.announcer.cancel server.timers = ⟨server.announcer, server.timers⟩ := by
    have unplanned : server.announcer.pending = none := by
      simpa [Announcer.isActive] using stopped.announcer
    simp only [Announcer.cancel, unplanned]
  constructor
  · change { server.table with mappings := [] } = server.table
    rw [← stopped.mappings]
  · change (server.announcer.cancel (server.table.clear server.timers).timers).timers.clear = _
    rw [timers, idle]
    simp only [TimerQueue.clear, ← stopped.schedule, ← stopped.deadlines]
  · change (server.announcer.cancel (server.table.clear server.timers).timers).announcer = _
    rw [timers, idle]

variable [AddressSource σ]

/-- Until it is asked for a mapping or looks for its address, a stopped server has nothing more
to do, and sends nothing. -/
theorem step (stopped : server.Stopped) {step : Step β σ} (undemanding : step.Undemanding) :
    (server.step step).SameDuties server ∧ server.sent step = [] := by
  cases step with
  | filter change => exact ⟨⟨rfl, rfl, rfl⟩, rfl⟩
  | addresses change => exact ⟨⟨rfl, rfl, rfl⟩, rfl⟩
  | call call =>
      cases call with
      | start =>
          rcases server_respond_start server with ⟨rules, same⟩
          rw [Server.step, same]
          exact ⟨⟨rfl, rfl, rfl⟩, rfl⟩
      | fireTimers now =>
          rw [Server.step, respond, sent, stopped.fireTimers now]
          exact ⟨.refl server, rfl⟩
      | shutdown => exact ⟨stopped.shutdown, rfl⟩
      | datagram | interfaceEvent | checkInterface => exact undemanding.elim

theorem run (stopped : server.Stopped) {steps : List (Step β σ)}
    (undemanding : ∀ step ∈ steps, step.Undemanding) :
    (server.run steps).SameDuties server ∧ server.announcements steps = [] := by
  induction steps generalizing server with
  | nil => exact ⟨.refl server, rfl⟩
  | cons first rest ih =>
      rcases stopped.step (undemanding first List.mem_cons_self) with ⟨same, silent⟩
      have later := ih (same.stopped stopped) fun step member =>
        undemanding step (List.mem_cons_of_mem first member)
      rw [announcements, silent, later.2]
      exact ⟨later.1.trans same, rfl⟩

end Stopped

end Handlers

/-- Shutting down leaves no transaction open.  It clears the rules in force if it succeeds, and
leaves them alone if it fails. -/
theorem rules_shutdown (server : Server MemoryFilter σ) :
    let handled := server.shutdown.value
    handled.server.rules.backend.inTransaction = false ∧
      (handled.result = .ok () → handled.server.rules.backend.active = []) ∧
      ∀ error, handled.result = .error error →
        handled.server.rules.backend.active = server.rules.backend.active := by
  have spec := MemoryFilter.rebuild_spec server.rules []
  have result : server.shutdown.value.result =
      ((server.rules.rebuild []).value.outcome.map fun _ => ()).mapError .firewall := rfl
  have rules : server.shutdown.value.server.rules =
      (server.rules.rebuild []).value.synchronizer := rfl
  simp only [result, rules, MemoryFilter.inTransaction, spec.1, spec.2]
  cases (server.rules.rebuild []).value.outcome with
  | error refusal =>
      refine ⟨rfl, ?_, fun _ _ => rfl⟩
      intro succeeded
      contradiction
  | ok count =>
      refine ⟨rfl, fun _ => rfl, ?_⟩
      intro error failed
      contradiction

/-- Whatever the filter answers, shutting down leaves no mapping, no timer and no announcement
behind.  Nothing is due any more, firing does nothing, shutting down again changes none of
them, and neither does anything else that happens until a request comes or the interface is
looked at; nothing is sent meanwhile.  A filter in memory is left without a transaction, and
without rules in force if it took the change, with the rules of before if it did not. -/
theorem shutdown_complete [Backend β] [AddressSource σ] (server : Server β σ) :
    let after := server.shutdown.value.server
    after.Stopped ∧
      after.nextDeadline = none ∧
      (∀ now, (after.fireTimers now).value = ⟨[], after⟩) ∧
      after.shutdown.value.server.SameDuties after ∧
      (∀ steps, (∀ step ∈ steps, step.Undemanding) →
        (after.run steps).SameDuties after ∧ after.announcements steps = []) ∧
      ∀ inMemory : Server MemoryFilter σ,
        let handled := inMemory.shutdown.value
        handled.server.rules.backend.inTransaction = false ∧
          (handled.result = .ok () → handled.server.rules.backend.active = []) ∧
          ∀ error, handled.result = .error error →
            handled.server.rules.backend.active = inMemory.rules.backend.active := by
  have stopped := server.stopped_shutdown
  exact ⟨stopped, stopped.nextDeadline, stopped.fireTimers, stopped.shutdown,
    fun _ undemanding => stopped.run undemanding, rules_shutdown⟩

end Server

end PortMapping
