import PortMapping.Proofs.AnnouncementSafety

/-!
# Bursts on time

A reactor that fires timers at the next deadline and at no other instant sends a burst of
announcements exactly on schedule, whatever datagrams and events come between, and whatever
an earlier burst had left to send.  The invariant of such a run is `InBurst`: the plan is
the one that a burst has after a number of announcements.  Any such run can be carried on
until no timer is pending, since every timer that fires leaves less to be done.
-/

namespace PortMapping

/-- The instant at which a series of delays that begins at `start` has passed. -/
def afterDelays (start : Int) (delays : List Nat) : Int :=
  delays.foldl (fun instant delay => instant + (delay : Nat)) start

theorem le_afterDelays (start : Int) (delays : List Nat) : start ≤ afterDelays start delays := by
  induction delays generalizing start with
  | nil => exact Int.le_refl start
  | cons delay rest ih =>
      have later := ih (start + (delay : Nat))
      rw [afterDelays, List.foldl_cons]
      rw [afterDelays] at later
      omega

theorem afterDelays_append (start : Int) (first second : List Nat) :
    afterDelays start (first ++ second) = afterDelays (afterDelays start first) second :=
  List.foldl_append

/-- The instant of an announcement in a burst that begins at `start`: the delays up to its
own have passed. -/
def burstInstant (start : Int) (position : Nat) : Int :=
  afterDelays start (announceDelays.take (position + 1))

theorem burstInstant_succ {position delay : Nat}
    (found : announceDelays[position + 1]? = some delay) (start : Int) :
    burstInstant start (position + 1) = burstInstant start position + (delay : Nat) := by
  rw [burstInstant, List.take_add_one, afterDelays_append, found]
  rfl

/-- No announcement of a burst is due later than 127.75 seconds after it begins. -/
theorem burstInstant_le (start : Int) (position : Nat) :
    burstInstant start position ≤ start + milliseconds 127750 := by
  have whole : afterDelays start announceDelays = start + milliseconds 127750 := by
    simp only [afterDelays, announceDelays, milliseconds, seconds, List.foldl_cons, List.foldl_nil]
    omega
  rw [← whole, ← List.take_append_drop (position + 1) announceDelays, afterDelays_append]
  exact le_afterDelays _ _

/-- What a burst that begins at `start` has planned once a number of announcements was sent. -/
def Planned.afterSending? (start : Int) (count : Nat) : Option Planned :=
  if count < announceDelays.length then some ⟨count, burstInstant start count⟩ else none

/-- Once an announcement is sent on time, the burst goes on with the one that follows. -/
theorem Planned.next?_burstInstant (start : Int) (count : Nat) :
    next? ⟨count, burstInstant start count⟩ (burstInstant start count) =
      afterSending? start (count + 1) := by
  rw [next?, afterSending?]
  cases found : announceDelays[count + 1]? with
  | none =>
      rw [if_neg (Nat.not_lt.mpr (List.getElem?_eq_none_iff.mp found))]
      rfl
  | some delay =>
      rw [if_pos (List.getElem?_eq_some_iff.mp found).1, burstInstant_succ found]
      rfl

namespace Announcer

variable {announcer : Announcer} {timers : TimerQueue TimerEvent}

theorem position_of_planned? {planned : Planned}
    (plans : announcer.planned? timers = some planned) : planned.position = announcer.index := by
  rcases Option.bind_eq_some_iff.mp plans with ⟨timer, _, found⟩
  rcases Option.map_eq_some_iff.mp found with ⟨deadline, _, rfl⟩
  rfl

/-- An announcement arms one timer at most, and only where it uses up one of those left. -/
theorem size_onSent_add_left_le (announcer : Announcer) (timers : TimerQueue TimerEvent)
    (now : Int) :
    (announcer.onSent timers now).timers.size +
        ((announcer.onSent timers now).announcer.planned?
          (announcer.onSent timers now).timers).elim 0 Planned.left ≤
      timers.size + (announceDelays.length - announcer.index) := by
  have current : (⟨announcer.index, 0⟩ : Planned).position = announcer.index := rfl
  rw [planned?_onSent current, onSent, Planned.next?]
  cases found : announceDelays[announcer.index + 1]? with
  | none => simp
  | some delay =>
      have unfinished := (List.getElem?_eq_some_iff.mp found).1
      simp only [TimerQueue.size_arm, Option.map_some, Option.elim_some, Planned.left]
      omega

end Announcer

/-- An instant is the only one at which a call looks for an address. -/
theorem Call.ChecksAt.unique {call : Call} {first second : Int} (checks : call.ChecksAt first)
    (alsoChecks : call.ChecksAt second) : first = second := by
  cases call with
  | interfaceEvent | checkInterface => exact checks.symm.trans alsoChecks
  | start | datagram | fireTimers | shutdown => exact checks.elim

deriving instance DecidableEq for Answer

namespace Server

variable {β σ : Type} {server : Server β σ} [Backend β] [AddressSource σ]
variable {start : Int} {gateway : Gateway} {count : Nat} {steps : List (Step β σ)}

/-! ## Firing on time -/

/-- A step of a reactor that fires timers at the next deadline only, while the interface
keeps an address. -/
def Drives (address : Ipv4) (server : Server β σ) : Step β σ → Prop
  | .call (.fireTimers now) => server.nextDeadline = some now
  | .call (.interfaceEvent _ _) | .call (.checkInterface _) =>
      ∀ current ∈ server.monitor.currentAddress.outcome.toOption, current = address
  | .call .shutdown => False
  | _ => True

instance (address : Ipv4) (step : Step β σ) : Decidable (server.Drives address step) :=
  match step with
  | .call (.fireTimers _) => inferInstanceAs (Decidable (_ = _))
  | .call (.interfaceEvent _ _) | .call (.checkInterface _) =>
      Option.decidableForallMem _
  | .call .shutdown => inferInstanceAs (Decidable False)
  | .call .start | .call (.datagram _ _ _) | .filter _ | .addresses _ =>
      inferInstanceAs (Decidable True)

/-- A server in the course of a burst, after a number of its announcements. -/
structure InBurst (start : Int) (gateway : Gateway) (count : Nat) (server : Server β σ) :
    Prop where
  consistent : server.Consistent
  gateway : server.gateway = gateway
  plan : server.planned? = Planned.afterSending? start count
  bounded : count ≤ announceDelays.length

/-- The announcement at a position of a burst, with its instant. -/
def burstAnnouncement (gateway : Gateway) (start : Int) (position : Nat) : Int × Octets :=
  let instant := burstInstant start position
  (instant, AddressResponse.encode ⟨.success, gateway.epoch instant, gateway.externalAddress⟩)

namespace InBurst

/-- A step of such a reactor sends the next announcements of the burst, none or one, and
leaves the server in the same burst. -/
theorem step (inBurst : InBurst start gateway count server) {step : Step β σ}
    (drives : server.Drives gateway.externalAddress step) :
    ∃ more,
      server.sent step = (List.range' count more).map (burstAnnouncement gateway start) ∧
        InBurst start gateway (count + more) (server.step step) := by
  have consistent := inBurst.consistent.step step
  cases inBurst.consistent.progress step with
  | kept _ silent same plan =>
      exact ⟨0, silent, consistent, same.trans inBurst.gateway, plan.trans inBurst.plan,
        inBurst.bounded⟩
  | @moved call now current isCall checks found isNew =>
      -- The address found is the one the server has, so it does not move.
      subst isCall
      rw [inBurst.gateway] at isNew
      cases call with
      | interfaceEvent | checkInterface =>
          have reported : current ∈ server.monitor.currentAddress.outcome.toOption := by
            rw [found]
            rfl
          exact (isNew (drives current reported)).elim
      | start | datagram | fireTimers | shutdown => exact checks.elim
  | @announced now due fires plans late _ sends same plan =>
      subst fires
      have scheduled := inBurst.plan.symm.trans plans
      rw [Planned.afterSending?] at scheduled
      split at scheduled
      next unfinished =>
        cases scheduled
        -- Due by now, and not before the next deadline, which is now.
        rcases exists_timer_of_planned plans with ⟨timer, pending⟩
        rcases inBurst.consistent.timers.wellFormed.exists_nextDeadline pending with
          ⟨earliest, notLater, next⟩
        have onTime : now = burstInstant start count := by
          have isNow := Option.some.inj (next.symm.trans drives)
          simp only at notLater late
          omega
        subst onTime
        refine ⟨1, ?_, consistent, same.trans inBurst.gateway,
          plan.trans (Planned.next?_burstInstant start count), unfinished⟩
        rw [sends, announcement, inBurst.gateway]
        rfl
      · contradiction
  | stopped ends =>
      subst ends
      exact drives.elim

/-- A run of such a reactor sends a stretch of the burst. -/
theorem run (inBurst : InBurst start gateway count server)
    (driven : server.Along (Drives gateway.externalAddress) steps) :
    ∃ more,
      server.announcements steps = (List.range' count more).map (burstAnnouncement gateway start) ∧
        InBurst start gateway (count + more) (server.run steps) := by
  induction steps generalizing server count with
  | nil => exact ⟨0, rfl, inBurst⟩
  | cons first rest ih =>
      rcases inBurst.step driven.1 with ⟨sentNow, sends, stepped⟩
      rcases ih stepped driven.2 with ⟨sentLater, follow, ends⟩
      refine ⟨sentNow + sentLater, ?_, ?_⟩
      · rw [announcements, sends, follow, ← List.map_append, ← List.range'_append, Nat.one_mul]
      · rw [← Nat.add_assoc]
        exact ends

omit [Backend β] [AddressSource σ] in
/-- A burst without a plan is complete. -/
theorem complete (inBurst : InBurst start gateway count server)
    (unplanned : server.planned? = none) : count = announceDelays.length := by
  have noneLeft := inBurst.plan.symm.trans unplanned
  rw [Planned.afterSending?] at noneLeft
  split at noneLeft
  · contradiction
  next finished => exact Nat.le_antisymm inBurst.bounded (Nat.not_lt.mp finished)

omit [Backend β] [AddressSource σ] in
/-- Whatever a burst has planned is due before it is over. -/
theorem deadline_le (inBurst : InBurst start gateway count server) {planned : Planned}
    (plans : server.planned? = some planned) : planned.deadline ≤ start + milliseconds 127750 := by
  have scheduled := inBurst.plan.symm.trans plans
  rw [Planned.afterSending?] at scheduled
  split at scheduled
  · cases scheduled
    exact burstInstant_le start count
  · contradiction

end InBurst

/-! ## When the burst is over -/

omit [AddressSource σ] in
/-- Whatever is planned after a firing is not due yet. -/
theorem Consistent.lt_deadline_of_fireTimers (consistent : server.Consistent) {now : Int}
    {planned : Planned}
    (plans : (server.fireTimers now).value.server.planned? = some planned) :
    now < planned.deadline := by
  rcases exists_timer_of_planned plans with ⟨timer, pending⟩
  exact (consistent.fireTimers now).timers.wellFormed.lt_deadline_of_popDue_none
    (firesTo_fireTimers server now).2 pending

/-- A run has passed an instant: timers were fired then or later, or none is due until
after it. -/
def Passes (server : Server β σ) (instant : Int) (steps : List (Step β σ)) : Prop :=
  (∃ later, .call (.fireTimers later) ∈ steps ∧ instant ≤ later) ∨
    ∀ deadline, (server.run steps).nextDeadline = some deadline → instant < deadline

/-- Once a burst has no plan it never has one again. -/
theorem InBurst.unplanned_run (inBurst : InBurst start gateway count server)
    (unplanned : server.planned? = none)
    (driven : server.Along (Drives gateway.externalAddress) steps) :
    (server.run steps).planned? = none := by
  rcases inBurst.run driven with ⟨more, _, later⟩
  have complete := inBurst.complete unplanned
  rw [later.plan, Planned.afterSending?, if_neg (by omega)]

/-- Once a run has passed the end of a burst, no announcement is planned any more. -/
theorem InBurst.unplanned_of_passes (inBurst : InBurst start gateway count server)
    (driven : server.Along (Drives gateway.externalAddress) steps)
    (passed : server.Passes (start + milliseconds 127750) steps) :
    (server.run steps).planned? = none := by
  rcases passed with ⟨later, member, late⟩ | ahead
  · rcases List.append_of_mem member with ⟨earlier, rest, rfl⟩
    rcases along_append.mp driven with ⟨drivenBefore, drivenNow, drivenAfter⟩
    rcases inBurst.run drivenBefore with ⟨_, _, before⟩
    rcases before.step drivenNow with ⟨_, _, fired⟩
    have unplanned : ((server.run earlier).step (.call (.fireTimers later))).planned? = none := by
      apply Option.eq_none_iff_forall_ne_some.mpr
      intro planned plans
      have notYet := before.consistent.lt_deadline_of_fireTimers plans
      have within := fired.deadline_le plans
      omega
    rw [run_append, run_cons]
    exact fired.unplanned_run unplanned drivenAfter
  · rcases inBurst.run driven with ⟨_, _, ends⟩
    apply Option.eq_none_iff_forall_ne_some.mpr
    intro planned plans
    rcases exists_timer_of_planned plans with ⟨timer, pending⟩
    rcases ends.consistent.timers.wellFormed.exists_nextDeadline pending with
      ⟨earliest, notLater, next⟩
    have within := ends.deadline_le plans
    have after := ahead earliest next
    omega

/-! ## Firing until nothing is pending -/

/-- What firing on time has yet to do. -/
def work (server : Server β σ) : Nat := server.timers.size + server.announcementsLeft

omit [AddressSource σ] in
/-- Whatever fires, there is less to do afterwards. -/
theorem Consistent.work_afterTimer_lt (consistent : server.Consistent) {now : Int}
    {fired : TimerQueue.Fired TimerEvent} (popped : server.timers.popDue now = some fired) :
    (server.afterTimer fired now).server.work < server.work := by
  have smaller := consistent.timers.wellFormed.size_popDue popped
  cases event : fired.event with
  | expire id =>
      rcases consistent.exists_mapping_of_popDue popped event with ⟨mapping, member, _, rfl⟩
      have kept := consistent.planned?_afterTimer_expire popped event
      have timers : (server.afterTimer fired now).server.timers = fired.queue := by
        rw [afterTimer_expire server event (consistent.table.expired_eq member)]
        rfl
      rw [work, work, announcementsLeft, announcementsLeft, kept, timers]
      omega
  | announce =>
      rcases consistent.planned?_afterTimer_announce popped event with ⟨due, plans, _, _⟩
      have position := Announcer.position_of_planned? plans
      have used := server.announcer.size_onSent_add_left_le fired.queue now
      have left : server.announcementsLeft = announceDelays.length - server.announcer.index := by
        rw [announcementsLeft, plans, Option.elim_some, Planned.left, position]
      have after : (server.afterTimer fired now).server.work =
          (server.announcer.onSent fired.queue now).timers.size +
            ((server.announcer.onSent fired.queue now).announcer.planned?
              (server.announcer.onSent fired.queue now).timers).elim 0 Planned.left := by
        rw [afterTimer_announce server event]
        rfl
      rw [after, work, left]
      omega

omit [AddressSource σ] in
/-- At the next deadline something is done. -/
theorem Consistent.work_fireTimers_lt (consistent : server.Consistent) {now : Int}
    (next : server.nextDeadline = some now) :
    (server.fireTimers now).value.server.work < server.work := by
  have noMore : ∀ middle : Server β σ, middle.Consistent →
      (middle.fireTimers now).value.server.work ≤ middle.work := by
    intro middle middleConsistent
    have kept : ∀ (earlier : Server β σ) fired,
        earlier.Consistent ∧ earlier.work ≤ middle.work →
          earlier.timers.popDue now = some fired →
            (earlier.afterTimer fired now).server.Consistent ∧
              (earlier.afterTimer fired now).server.work ≤ middle.work := by
      intro earlier fired before popped
      have less := before.1.work_afterTimer_lt popped
      exact ⟨before.1.afterTimer popped, by omega⟩
    exact (fireTimers_invariant kept ⟨middleConsistent, Nat.le_refl _⟩).2
  rcases TimerQueue.exists_popDue next with ⟨fired, popped⟩
  have less := consistent.work_afterTimer_lt popped
  have rest := noMore _ (consistent.afterTimer popped)
  rw [fireTimers_of_some popped]
  exact Nat.lt_of_le_of_lt rest less

/-- The steps of a reactor that only fires timers. -/
def firings (instants : List Int) : List (Step β σ) :=
  instants.map fun now => .call (.fireTimers now)

/-- Firing at each next deadline ends with no timer pending. -/
theorem Consistent.exists_firings (consistent : server.Consistent) (address : Ipv4) :
    ∃ instants, server.Along (Drives address) (firings instants) ∧
      (server.run (firings instants)).nextDeadline = none := by
  induction todo : server.work using Nat.strongRecOn generalizing server with
  | ind amount ih =>
      cases next : server.nextDeadline with
      | none => exact ⟨[], trivial, next⟩
      | some now =>
          have less := consistent.work_fireTimers_lt next
          rw [todo] at less
          rcases ih _ less (consistent.fireTimers now) rfl with ⟨instants, drives, ended⟩
          exact ⟨now :: instants, ⟨next, drives⟩, ended⟩

/-! ## The burst after a change of address -/

/-- A server that reports a move to an address is at the beginning of a burst. -/
theorem Consistent.inBurst_of_change (consistent : server.Consistent) {call : Call} {now : Int}
    {previous current : Ipv4} (checks : call.ChecksAt now)
    (changed : (server.respond call).result = .change (.ok (.changed previous current)))
    (known : current ≠ .unspecified) :
    InBurst now { server.gateway with externalAddress := current } 0
      (server.step (.call call)) := by
  have moves : server.movesTo? (.call call) = some current := by
    rw [movesTo?, changed]
  have after := consistent.step (.call call)
  cases consistent.progress (.call call) with
  | kept stays | announced _ _ _ stays | stopped _ stays =>
      rw [Stays, moves] at stays
      contradiction
  | @moved found instant address isCall alsoChecks _ _ alsoMoves _ gateway plan =>
      cases isCall
      cases moves.symm.trans alsoMoves
      cases checks.unique alsoChecks
      have isKnown := fun lost => known ((Ipv4.isUnspecified_iff current).mp lost)
      exact ⟨after, gateway, plan.trans (if_neg isKnown), Nat.zero_le _⟩

/-- A server that moves to an address announces it on time.  As long as the interface keeps
that address and timers are fired at the next deadline only, whatever else comes between,
it sends a stretch of at most ten announcements of that address, each at its instant, and
nothing besides.  Once the end of the burst has passed, all ten are sent and the announcer
is idle; and firing on at each next deadline gets there. -/
theorem burst_of_change (reachable : server.Reachable) {call : Call} {now : Int}
    {previous current : Ipv4} (checks : call.ChecksAt now)
    (changed : (server.respond call).result = .change (.ok (.changed previous current)))
    (known : current ≠ .unspecified) {steps : List (Step β σ)}
    (driven : (server.step (.call call)).Along (Drives current) steps) :
    let first := server.step (.call call)
    let last := first.run steps
    ∃ count ≤ 10,
      first.announcements steps =
          (List.range count).map (fun position =>
            let instant := burstInstant now position
            (instant, AddressResponse.encode ⟨.success, server.gateway.epoch instant, current⟩)) ∧
        (∀ packet ∈ first.announcements steps, packet.2.length = 12) ∧
        (first.Passes (now + milliseconds 127750) steps →
          count = 10 ∧ last.announcer.pending = none ∧
            ∀ pending ∈ last.timers.schedule, pending.event ≠ .announce) ∧
        ∃ instants, last.Along (Drives current) (firings instants) ∧
          (last.run (firings instants)).nextDeadline = none := by
  intro first last
  have inBurst := reachable.consistent.inBurst_of_change checks changed known
  rcases inBurst.run driven with ⟨count, sends, ends⟩
  rw [Nat.zero_add] at ends
  rw [← List.range_eq_range'] at sends
  refine ⟨count, ends.bounded, sends, ?_, ?_, ends.consistent.exists_firings current⟩
  · intro packet member
    rw [sends] at member
    rcases List.mem_map.mp member with ⟨position, _, rfl⟩
    rfl
  · intro passed
    have unplanned := inBurst.unplanned_of_passes driven passed
    exact ⟨ends.complete unplanned, ends.consistent.idle_of_planned?_eq_none unplanned⟩

/-- A server that has sent two announcements of an address when its interface gets another
one; a client holds a port for a second. -/
def midBurst : Server MemoryFilter AddressTable :=
  atOneInterface.run
    [.call (.checkInterface 0), .call (.ask ⟨10, 0, 0, 5⟩ ⟨.tcp, 80, 0, 1⟩ 0),
      .call (.fireTimers 0), .call (.fireTimers (milliseconds 250)),
      .addresses (·.set "em0" [.v4 ⟨203, 0, 113, 9⟩])]

/-- Timers are fired on time; the client renews its port meanwhile, and the interface is
looked at again, by a clock that went backwards. -/
def onTime : List (Step MemoryFilter AddressTable) :=
  [.call (.fireTimers (milliseconds 300)),
    .call (.ask ⟨10, 0, 0, 5⟩ ⟨.tcp, 80, 0, 2⟩ (milliseconds 310)),
    .call (.fireTimers (milliseconds 550)), .call (.checkInterface (milliseconds 10))] ++
    firings ([1050, 2050, 2310, 4050, 8050, 16050, 32050, 64050, 128050].map (milliseconds ·))

/-- The new address gets its ten announcements, and nothing is left of the burst before. -/
theorem burst_onTime :
    let first := midBurst.step (.call (.checkInterface (milliseconds 300)))
    midBurst.Reachable ∧
      midBurst.planned? = some ⟨2, milliseconds 750⟩ ∧
      (midBurst.respond (.checkInterface (milliseconds 300))).result =
        .change (.ok (.changed ⟨198, 51, 100, 1⟩ ⟨203, 0, 113, 9⟩)) ∧
      first.Along (Drives ⟨203, 0, 113, 9⟩) onTime ∧
      first.Passes (milliseconds 300 + milliseconds 127750) onTime ∧
      (first.announcements onTime).map Prod.fst =
        [300, 550, 1050, 2050, 4050, 8050, 16050, 32050, 64050, 128050].map (milliseconds ·) ∧
      (first.run onTime).announcer.pending = none := by
  intro first
  have reachable : midBurst.Reachable := reachable_atOneInterface.run _
  have changed : (midBurst.respond (.checkInterface (milliseconds 300))).result =
      .change (.ok (.changed ⟨198, 51, 100, 1⟩ ⟨203, 0, 113, 9⟩)) := by decide +kernel
  have driven : (midBurst.step (.call (.checkInterface (milliseconds 300)))).Along
      (Drives ⟨203, 0, 113, 9⟩) onTime := by decide +kernel
  have passed : first.Passes (milliseconds 300 + milliseconds 127750) onTime :=
    .inl ⟨milliseconds 128050, by simp [onTime, firings], by decide⟩
  have checks : Call.ChecksAt (milliseconds 300) (.checkInterface (milliseconds 300)) := rfl
  rcases burst_of_change reachable checks changed (by decide) driven with
    ⟨count, _, sends, _, complete, _⟩
  rcases complete passed with ⟨rfl, idle, _⟩
  refine ⟨reachable, by decide +kernel, changed, driven, passed, ?_, idle⟩
  rw [sends]
  rfl

end Server

end PortMapping
