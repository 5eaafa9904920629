import PortMapping.Proofs.Announcements

/-!
# What is never announced

Whatever the clock does, an announcement tells the address that the server has, there is
one at most for each firing, and between two changes of the address no more than a burst.
The bound is a count of what the plan leaves to be sent: an announcement uses one up, and
only a move to a new address adds to it.  Without a plan nothing is sent, and only a move
to an address makes one.
-/

namespace PortMapping

/-- The announcements of a burst from the planned one on. -/
def Planned.left (planned : Planned) : Nat := announceDelays.length - planned.position

/-- An announcement uses up one of those left. -/
theorem Planned.left_next? {planned : Planned}
    (unfinished : planned.position < announceDelays.length) (now : Int) :
    (planned.next? now).elim 0 left < planned.left := by
  cases follows : planned.next? now with
  | none =>
      rw [Option.elim_none, left]
      omega
  | some following =>
      rcases Option.map_eq_some_iff.mp follows with ⟨delay, _, rfl⟩
      simp only [Option.elim_some, left]
      omega

namespace Server

variable {β σ : Type} {server : Server β σ} {step : Step β σ}

/-- The announcements that a server has yet to send while its address stays the same. -/
def announcementsLeft (server : Server β σ) : Nat := server.planned?.elim 0 Planned.left

theorem announcementsLeft_le (server : Server β σ) :
    server.announcementsLeft ≤ announceDelays.length := by
  rw [announcementsLeft]
  cases server.planned? with
  | none => exact Nat.zero_le _
  | some planned => exact Nat.sub_le _ _

variable [Backend β] [AddressSource σ]

/-! ## Between two addresses -/

/-- While the address stays, what a step sends is taken from what was left to send. -/
theorem Announceable.length_sent_add_left_le (announceable : server.Announceable)
    (progress : Progress server step) (stays : server.Stays step) :
    (server.sent step).length + (server.step step).announcementsLeft ≤
      server.announcementsLeft := by
  cases progress with
  | kept _ silent _ plan => simp [announcementsLeft, silent, plan]
  | moved _ _ _ _ moves =>
      rw [Stays, moves] at stays
      contradiction
  | @announced now due _ plans _ _ sends _ plan =>
      have used := Planned.left_next? (announceable.unfinished due plans) now
      simp only [announcementsLeft, sends, plan, plans, Option.elim_some, List.length_singleton]
      omega
  | stopped _ _ silent _ plan => simp [announcementsLeft, silent, plan]

/-- While the address stays, a run sends no more than was left to send. -/
theorem length_announcements_le {steps : List (Step β σ)} (consistent : server.Consistent)
    (announceable : server.Announceable) (stays : server.Along Stays steps) :
    (server.announcements steps).length ≤ server.announcementsLeft := by
  induction steps generalizing server with
  | nil => exact Nat.zero_le _
  | cons first rest ih =>
      have progress := consistent.progress first
      have now := announceable.length_sent_add_left_le progress stays.1
      have later := ih (consistent.step first) (announceable.step progress) stays.2
      rw [announcements, List.length_append]
      omega

/-! ## Without an address -/

/-- A step that does not lead the server to an address; it may lose the one it has. -/
def GainsNoAddress (server : Server β σ) (step : Step β σ) : Prop :=
  ∀ current, server.movesTo? step = some current → current = .unspecified

/-- Only an address that is gained makes a server plan an announcement. -/
theorem unplanned_step (progress : Progress server step) (unplanned : server.planned? = none)
    (gainless : server.GainsNoAddress step) :
    server.sent step = [] ∧ (server.step step).planned? = none := by
  cases progress with
  | kept _ silent _ plan => exact ⟨silent, plan.trans unplanned⟩
  | moved _ _ _ _ moves silent _ plan =>
      have lost := (Ipv4.isUnspecified_iff _).mpr (gainless _ moves)
      exact ⟨silent, plan.trans (if_pos lost)⟩
  | announced _ plans =>
      rw [unplanned] at plans
      contradiction
  | stopped _ _ silent _ plan => exact ⟨silent, plan⟩

/-- Without a plan nothing is sent until an address is gained. -/
theorem announcements_of_unplanned {steps : List (Step β σ)} (consistent : server.Consistent)
    (unplanned : server.planned? = none) (gainless : server.Along GainsNoAddress steps) :
    server.announcements steps = [] := by
  induction steps generalizing server with
  | nil => rfl
  | cons first rest ih =>
      have quiet := unplanned_step (consistent.progress first) unplanned gainless.1
      rw [announcements, quiet.1, List.nil_append]
      exact ih (consistent.step first) quiet.2 gainless.2

/-- Nothing is planned at first, without an address, or after shutting down. -/
theorem planned?_run_eq_none {rules : Synchronizer β} {monitor : Monitor σ} {startTime : Int}
    {ports : PortSource} {steps : List (Step β σ)}
    (announceable : ((new rules monitor startTime ports).run steps).Announceable)
    (without : steps = [] ∨
      ((new rules monitor startTime ports).run steps).gateway.externalAddress = .unspecified ∨
        steps.getLast? = some (.call .shutdown)) :
    ((new rules monitor startTime ports).run steps).planned? = none := by
  rcases without with rfl | unknown | ended
  · exact planned?_new rules monitor startTime ports
  · apply Option.eq_none_iff_forall_ne_some.mpr
    intro planned plans
    exact announceable.known planned plans unknown
  · rcases List.getLast?_eq_some_iff.mp ended with ⟨earlier, rfl⟩
    rw [run_append]
    exact planned?_shutdown _

/-! ## What a firing sends -/

omit [AddressSource σ] in
/-- A firing sends nothing, or one announcement of the address that the server has. -/
theorem result_fireTimers (consistent : server.Consistent) (announceable : server.Announceable)
    (now : Int) :
    (server.fireTimers now).value.result = [] ∨
      server.gateway.externalAddress ≠ .unspecified ∧
        (server.fireTimers now).value.result = [server.announcement now] := by
  by_cases due : ∃ planned, server.planned? = some planned ∧ planned.deadline ≤ now
  · rcases due with ⟨planned, plans, late⟩
    exact .inr ⟨announceable.known planned plans, (consistent.fireTimers_of_due plans late).1⟩
  · refine .inl (consistent.fireTimers_before_due ?_).1
    intro planned plans
    exact Int.not_le.mp fun late => due ⟨planned, plans, late⟩

/-- In every state of every run, whatever the instants of its calls: a firing sends at most
one packet, which tells the address the server has, and it has one; while the address stays
at most ten packets are sent; and until an address is gained none is sent by a server that
is new, has none, or was just shut down. -/
theorem announcements_safe_of_run (rules : Synchronizer β) (monitor : Monitor σ)
    (startTime : Int) (ports : PortSource) (steps : List (Step β σ)) :
    let server := (new rules monitor startTime ports).run steps
    (∀ now,
      (server.fireTimers now).value.server.gateway = server.gateway ∧
        ((server.fireTimers now).value.result = [] ∨
          server.gateway.externalAddress ≠ .unspecified ∧
            (server.fireTimers now).value.result =
              [AddressResponse.encode
                ⟨.success, server.gateway.epoch now, server.gateway.externalAddress⟩])) ∧
      (∀ later, server.Along Stays later → (server.announcements later).length ≤ 10) ∧
        ∀ later, server.Along GainsNoAddress later →
          (steps = [] ∨ server.gateway.externalAddress = .unspecified ∨
            steps.getLast? = some (.call .shutdown)) →
              server.announcements later = [] := by
  intro server
  have reachable : server.Reachable := ⟨rules, monitor, startTime, ports, steps, rfl⟩
  have consistent := reachable.consistent
  have announceable := reachable.announceable
  refine ⟨?_, ?_, ?_⟩
  · intro now
    exact ⟨gateway_fireTimers server now, result_fireTimers consistent announceable now⟩
  · intro later stays
    calc (server.announcements later).length
        ≤ server.announcementsLeft := length_announcements_le consistent announceable stays
      _ ≤ announceDelays.length := announcementsLeft_le server
  · intro later gainless without
    exact announcements_of_unplanned consistent (planned?_run_eq_none announceable without)
      gainless

end Server

end PortMapping
