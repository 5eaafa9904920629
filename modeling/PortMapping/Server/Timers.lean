import PortMapping.Packet.Response
import PortMapping.Server.Basic

/-!
# Firing timers

A timer that is due either ends a mapping, after which the rules are rebuilt, or
sends an announcement, after which the next one is planned.  A planned
announcement is never due at once, so firing ends when every timer that was due
has fired.
-/

namespace PortMapping

namespace Server

variable {β σ : Type} [Backend β]

/-- The announcement of the present address. -/
def announcement (server : Server β σ) (now : Int) : Octets :=
  AddressResponse.encode
    { result := .success
      epoch := server.gateway.epoch now
      address := server.gateway.externalAddress }

/-- End a mapping whose timer has fired. -/
def expireMapping (server : Server β σ) (id : MappingId) : Logged (Server β σ) :=
  let expiry := server.table.expire id
  match expiry.expired with
  | none => pure server
  | some mapping => do
      .info ("expiring mapping " ++ mapping.text)
      { server with table := expiry.table }.rebuildRules

/-- Act on a timer that has fired; the result holds the announcement to send. -/
def handleTimer (server : Server β σ) (event : TimerEvent) (now : Int) :
    Logged (Handled β σ (List Octets)) :=
  match event with
  | .expire id => do
      let server ← server.expireMapping id
      return ⟨[], server⟩
  | .announce =>
      let next := server.announcer.onSent server.timers now
      pure ⟨[server.announcement now],
        { server with announcer := next.announcer, timers := next.timers }⟩

/-- Rebuilding the rules leaves the timers alone. -/
theorem timers_rebuildRules (server : Server β σ) :
    server.rebuildRules.value.timers = server.timers := rfl

/-- Acting on a timer makes no other timer due and stops none. -/
theorem dueCount_handleTimer (server : Server β σ) (event : TimerEvent) (now : Int) :
    (server.handleTimer event now).value.server.timers.dueCount now =
      server.timers.dueCount now := by
  cases event with
  | expire id =>
      simp only [handleTimer, expireMapping, Logged.value_bind, Logged.value_pure]
      split
      · rfl
      · simp only [Logged.value_bind, timers_rebuildRules]
  | announce => exact Announcer.dueCount_onSent server.announcer server.timers now

/-- Fire every timer that is due at `now` and return the announcements to send. -/
def fireTimers (server : Server β σ) (now : Int) : Logged (Handled β σ (List Octets)) :=
  match _popped : server.timers.popDue now with
  | none => pure ⟨[], server⟩
  | some fired =>
      let handled := handleTimer { server with timers := fired.queue } fired.event now
      let later := fireTimers handled.value.server now
      { value :=
          { result := handled.value.result ++ later.value.result
            server := later.value.server }
        log := handled.log ++ later.log }
termination_by server.timers.dueCount now
decreasing_by
  simp only [dueCount_handleTimer, TimerQueue.dueCount_popDue _popped]
  omega

end Server

end PortMapping
