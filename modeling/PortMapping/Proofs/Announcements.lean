import PortMapping.Proofs.TimerOwnership

/-!
# The announcement that is planned

What a server will announce is decided by its address and by one planned announcement
at most.  The announcer knows the position in the burst, and the timer queue knows when
the announcement is due; `Server.planned?` reads the two together.  Each handler is
described by what it does to the plan, and `Progress` lists all that a step can do to
it, so that bursts can be followed without looking at tables and timers again.
-/

namespace PortMapping

/-- A planned announcement: its position in the burst, and when it is due. -/
structure Planned where
  position : Nat
  deadline : Int
  deriving DecidableEq, Repr

namespace Planned

/-- The first announcement of a burst that begins at `now`. -/
def first (now : Int) : Planned := ⟨0, now + (announceDelays.headD 0 : Nat)⟩

/-- The announcement that follows one sent at `now`, none after the last. -/
def next? (planned : Planned) (now : Int) : Option Planned :=
  announceDelays[planned.position + 1]?.map fun delay =>
    ⟨planned.position + 1, now + (delay : Nat)⟩

/-- What follows is never due at once. -/
theorem lt_deadline_of_next? {planned following : Planned} {now : Int}
    (follows : planned.next? now = some following) : now < following.deadline := by
  rcases Option.map_eq_some_iff.mp follows with ⟨delay, found, rfl⟩
  have positive := announceDelays_pos found
  change now < now + (delay : Int)
  omega

end Planned

namespace Announcer

variable {announcer : Announcer} {timers later : TimerQueue TimerEvent}

/-- The planned announcement, if one is pending in a queue of timers. -/
def planned? (announcer : Announcer) (timers : TimerQueue TimerEvent) : Option Planned :=
  announcer.pending.bind fun timer =>
    (timers.deadline? timer).map fun deadline => ⟨announcer.index, deadline⟩

theorem planned?_of_idle (idle : announcer.pending = none) :
    announcer.planned? timers = none := by
  rw [planned?, idle]
  rfl

theorem planned?_of_pending {timer : TimerId} {deadline : Int}
    (pending : announcer.pending = some timer) (due : timers.deadline? timer = some deadline) :
    announcer.planned? timers = some ⟨announcer.index, deadline⟩ := by
  rw [planned?, pending, Option.bind_some, due]
  rfl

/-- The plan depends on the deadline of the announcer's own timer alone. -/
theorem planned?_congr
    (same : ∀ owner ∈ announcer.owners, later.deadline? owner.1 = timers.deadline? owner.1) :
    announcer.planned? later = announcer.planned? timers := by
  cases pending : announcer.pending with
  | none => rw [planned?_of_idle pending, planned?_of_idle pending]
  | some timer =>
      have owned : (timer, TimerEvent.announce) ∈ announcer.owners := by
        simp [owners, pending]
      rw [planned?, planned?, pending, Option.bind_some, Option.bind_some, same _ owned]

theorem planned?_cancel (announcer : Announcer) (timers later : TimerQueue TimerEvent) :
    (announcer.cancel timers).announcer.planned? later = none := by
  rw [cancel]
  split
  next idle => exact planned?_of_idle idle
  · rfl

theorem planned?_restart (announcer : Announcer) (timers : TimerQueue TimerEvent) (now : Int) :
    (announcer.restart timers now).announcer.planned? (announcer.restart timers now).timers =
      some (.first now) := by
  apply planned?_of_pending rfl
  rw [restart, TimerQueue.deadline?_arm]
  exact if_pos rfl

theorem planned?_onSent {planned : Planned} (same : planned.position = announcer.index)
    (timers : TimerQueue TimerEvent) (now : Int) :
    (announcer.onSent timers now).announcer.planned? (announcer.onSent timers now).timers =
      planned.next? now := by
  rw [onSent, Planned.next?, same]
  split
  next complete =>
    rw [complete]
    rfl
  next delay found =>
    rw [found]
    apply planned?_of_pending rfl
    rw [TimerQueue.deadline?_arm]
    exact if_pos rfl

end Announcer

namespace Server

variable {β σ : Type} {server : Server β σ}

/-- The announcement that a server has planned. -/
def planned? (server : Server β σ) : Option Planned :=
  server.announcer.planned? server.timers

theorem planned?_new (rules : Synchronizer β) (monitor : Monitor σ) (startTime : Int)
    (ports : PortSource) : (new rules monitor startTime ports).planned? = none := rfl

/-- A planned announcement has a timer that is pending until it is due. -/
theorem exists_timer_of_planned {planned : Planned} (plans : server.planned? = some planned) :
    ∃ timer, server.timers.deadline? timer = some planned.deadline := by
  rcases Option.bind_eq_some_iff.mp plans with ⟨timer, _, found⟩
  rcases Option.map_eq_some_iff.mp found with ⟨deadline, due, rfl⟩
  exact ⟨timer, due⟩

/-! ## What the handlers do to the plan -/

/-- A burst begins when the server moves to an address, and none goes on without one. -/
theorem planned?_moveTo (server : Server β σ) (current : Ipv4) (now : Int) :
    (server.moveTo current now).planned? =
      if current.isUnspecified then none else some (.first now) := by
  simp only [planned?, moveTo]
  split
  · exact Announcer.planned?_cancel _ _ _
  · exact Announcer.planned?_restart _ _ _

namespace Consistent

/-- Without a plan the announcer is idle and no timer announces anything. -/
theorem idle_of_planned?_eq_none (consistent : server.Consistent)
    (unplanned : server.planned? = none) :
    server.announcer.pending = none ∧
      ∀ pending ∈ server.timers.schedule, pending.event ≠ .announce := by
  have idle : server.announcer.pending = none := by
    cases pending : server.announcer.pending with
    | none => rfl
    | some timer =>
        have owned : (timer, TimerEvent.announce) ∈
            server.table.owners ++ server.announcer.owners := by
          simp [Announcer.owners, pending]
        rcases consistent.timers.exists_deadline owned with ⟨deadline, due⟩
        rw [planned?, Announcer.planned?_of_pending pending due] at unplanned
        contradiction
  refine ⟨idle, ?_⟩
  intro pending scheduled announces
  have owned := consistent.timers.owned.mem_iff.mp (List.mem_map_of_mem scheduled)
  rw [Announcer.owners, idle] at owned
  simp only [Option.toList_none, List.map_nil, List.append_nil] at owned
  exact Table.ne_announce_of_mem_owners owned announces

theorem planned?_decideMapping (consistent : server.Consistent) (request : MappingRequest)
    (client : Ipv4) (now : Int) :
    (server.decideMapping request client now).value.server.planned? = server.planned? := by
  cases deletes : request.deletes with
  | true =>
      rw [decideMapping_of_deletes server client now deletes]
      exact Announcer.planned?_congr fun owner owned =>
        Table.deadline?_remove_of_mem_others consistent.timers owned
  | false =>
      cases known : server.gateway.hasExternalAddress with
      | true =>
          rw [decideMapping_of_grants server client now deletes known]
          exact Announcer.planned?_congr fun owner owned =>
            Table.deadline?_grant_of_mem_others consistent.timers owned
      | false => rw [decideMapping_of_refuses server client now deletes known]

section Handlers

variable [Backend β] {now : Int} {fired : TimerQueue.Fired TimerEvent}

theorem planned?_handleDatagram (consistent : server.Consistent) (datagram : Octets)
    (peer : Endpoint) (now : Int) :
    (server.handleDatagram datagram peer now).value.server.planned? = server.planned? := by
  cases served : mappingRequest? datagram peer with
  | none => rw [server_handleDatagram_of_none server now served]
  | some asked =>
      rcases asked with ⟨request, client⟩
      rcases exists_rules_handleMapping server request client now with ⟨rules, handled⟩
      rw [handleDatagram_of_some server now served]
      simp only [handled]
      exact consistent.planned?_decideMapping request client now

/-- A mapping that ends leaves the plan alone. -/
theorem planned?_afterTimer_expire (consistent : server.Consistent) {id : MappingId}
    (popped : server.timers.popDue now = some fired) (event : fired.event = .expire id) :
    (server.afterTimer fired now).server.planned? = server.planned? := by
  rcases consistent.exists_mapping_of_popDue popped event with ⟨mapping, member, timerSame, rfl⟩
  rw [afterTimer_expire server event (consistent.table.expired_eq member)]
  apply Announcer.planned?_congr
  intro owner owned
  have apart : owner.1 ≠ fired.timer := by
    rw [← timerSame]
    exact Table.timer_ne_of_mem_others consistent.timers member owned
  exact (consistent.timers.wellFormed.deadline?_popDue popped).trans (if_neg apart)

/-- The announcement that fires was planned and is due, and what follows it is planned. -/
theorem planned?_afterTimer_announce (consistent : server.Consistent)
    (popped : server.timers.popDue now = some fired) (event : fired.event = .announce) :
    ∃ due, server.planned? = some due ∧ due.deadline ≤ now ∧
      (server.afterTimer fired now).server.planned? = due.next? now := by
  have pending := consistent.pending_of_announce popped event
  have owned : (fired.timer, TimerEvent.announce) ∈
      server.table.owners ++ server.announcer.owners := by
    simp [Announcer.owners, pending]
  rcases consistent.timers.exists_deadline owned with ⟨deadline, due⟩
  refine ⟨⟨server.announcer.index, deadline⟩, Announcer.planned?_of_pending pending due,
    consistent.timers.wellFormed.deadline_le_of_popDue popped due, ?_⟩
  rw [afterTimer_announce server event]
  exact Announcer.planned?_onSent rfl fired.queue now

/-! ## What firing announces -/

/-- Before the planned announcement is due, firing sends nothing and keeps the plan. -/
theorem fireTimers_before_due (consistent : server.Consistent)
    (early : ∀ planned, server.planned? = some planned → now < planned.deadline) :
    (server.fireTimers now).value.result = [] ∧
      (server.fireTimers now).value.server.planned? = server.planned? := by
  revert consistent early
  refine firing_induction now ?done ?next server
  case done =>
    intro server idle _ _
    rw [fireTimers_of_none idle]
    exact ⟨rfl, rfl⟩
  case next =>
    intro server fired popped ih consistent early
    have later := consistent.afterTimer popped
    rw [fireTimers_of_some popped]
    cases event : fired.event with
    | announce =>
        rcases consistent.planned?_afterTimer_announce popped event with ⟨due, plans, late, _⟩
        exact (Int.not_lt.mpr late (early due plans)).elim
    | expire id =>
        have kept := consistent.planned?_afterTimer_expire popped event
        rw [← kept] at early
        have rest := ih later early
        simp only [result_afterTimer, event, reduceCtorEq, if_false, List.nil_append]
        exact ⟨rest.1, rest.2.trans kept⟩

/-- Once the planned announcement is due, firing sends it, however late, and plans the one
that follows.  What follows is not due yet, so one announcement is all that is sent. -/
theorem fireTimers_of_due (consistent : server.Consistent) {due : Planned}
    (plans : server.planned? = some due) (late : due.deadline ≤ now) :
    (server.fireTimers now).value.result = [server.announcement now] ∧
      (server.fireTimers now).value.server.planned? = due.next? now := by
  revert consistent plans
  refine firing_induction now ?done ?next server
  case done =>
    intro server idle consistent plans
    rcases exists_timer_of_planned plans with ⟨timer, pending⟩
    have early := consistent.timers.wellFormed.lt_deadline_of_popDue_none idle pending
    exact (Int.not_lt.mpr late early).elim
  case next =>
    intro server fired popped ih consistent plans
    have later := consistent.afterTimer popped
    rw [fireTimers_of_some popped]
    cases event : fired.event with
    | announce =>
        rcases consistent.planned?_afterTimer_announce popped event with ⟨_, same, _, follows⟩
        rw [plans] at same
        cases same
        have rest := later.fireTimers_before_due fun planned following =>
          Planned.lt_deadline_of_next? (follows.symm.trans following)
        simp only [result_afterTimer, event, if_true, rest.1, List.append_nil]
        exact ⟨trivial, rest.2.trans follows⟩
    | expire id =>
        have kept := consistent.planned?_afterTimer_expire popped event
        have rest := ih later (kept.trans plans)
        have sameGateway : (server.afterTimer fired now).server.announcement now =
            server.announcement now := by
          rw [announcement, gateway_afterTimer]
          rfl
        rw [sameGateway] at rest
        simp only [result_afterTimer, event, reduceCtorEq, if_false, List.nil_append]
        exact rest

end Handlers

end Consistent

theorem planned?_shutdown [Backend β] (server : Server β σ) :
    server.shutdown.value.server.planned? = none :=
  Announcer.planned?_cancel _ _ _

end Server

/-! ## What a step can do to the plan -/

/-- A call that looks for a new external address at an instant. -/
def Call.ChecksAt (now : Int) : Call → Prop
  | .interfaceEvent _ instant => instant = now
  | .checkInterface instant => instant = now
  | _ => False

namespace Server

variable {β σ : Type} {server : Server β σ} [Backend β]

theorem sent_of_checksAt {call : Call} {now : Int} (checks : call.ChecksAt now) :
    server.sent (.call call) = [] := by
  cases call with
  | interfaceEvent | checkInterface => rfl
  | start | datagram | fireTimers | shutdown => exact checks.elim

variable [AddressSource σ]

/-- All that a step can do to the address, to the plan, and to those who listen. -/
inductive Progress (server : Server β σ) (step : Step β σ) : Prop where
  /-- Nothing is sent, and address and plan are kept. -/
  | kept (stays : server.Stays step) (silent : server.sent step = [])
      (gateway : (server.step step).gateway = server.gateway)
      (plan : (server.step step).planned? = server.planned?)
  /-- The server moves to the address it found, and a burst begins if that is one. -/
  | moved {call : Call} {now : Int} {current : Ipv4} (isCall : step = .call call)
      (checks : call.ChecksAt now)
      (found : server.monitor.currentAddress.outcome = .ok current)
      (isNew : current ≠ server.gateway.externalAddress)
      (moves : server.movesTo? step = some current) (silent : server.sent step = [])
      (gateway : (server.step step).gateway =
        { server.gateway with externalAddress := current })
      (plan : (server.step step).planned? =
        if current.isUnspecified then none else some (.first now))
  /-- Firing sends the planned announcement, and the next one is planned. -/
  | announced {now : Int} {due : Planned} (fires : step = .call (.fireTimers now))
      (plans : server.planned? = some due) (late : due.deadline ≤ now)
      (stays : server.Stays step) (sends : server.sent step = [(now, server.announcement now)])
      (gateway : (server.step step).gateway = server.gateway)
      (plan : (server.step step).planned? = due.next? now)
  /-- Shutting down drops the plan. -/
  | stopped (ends : step = .call .shutdown) (stays : server.Stays step)
      (silent : server.sent step = [])
      (gateway : (server.step step).gateway = server.gateway)
      (plan : (server.step step).planned? = none)

/-- A check either keeps everything or moves the server to the address it found. -/
theorem progress_of_check {call : Call} {now : Int} (checks : call.ChecksAt now)
    (same : server.respond call = server.respond (.checkInterface now)) :
    Progress server (.call call) := by
  have silent : server.sent (.call call) = [] := sent_of_checksAt checks
  rcases checkInterface_cases server now with
    ⟨outcome, monitor, checked, unchanged⟩ | ⟨current, monitor, found, isNew, checked⟩
  · have answer : server.respond call = ⟨.change outcome, { server with monitor }⟩ := by
      rw [same, respond, checked]
      rfl
    have stays : server.Stays (.call call) := by
      rw [Stays, movesTo?, answer]
      cases outcome with
      | error failure => rfl
      | ok change =>
          cases change with
          | unchanged => rfl
          | changed previous current => exact (unchanged previous current rfl).elim
    refine .kept stays silent ?_ ?_
    · rw [Server.step, answer]
    · rw [Server.step, answer]
      rfl
  · have answer : server.respond call =
        ⟨.change (.ok (.changed server.gateway.externalAddress current)),
          { server with monitor }.moveTo current now⟩ := by
      rw [same, respond, checked]
      rfl
    refine .moved rfl checks found isNew ?_ silent ?_ ?_
    · rw [movesTo?, answer]
    · rw [Server.step, answer]
      rfl
    · rw [Server.step, answer]
      exact planned?_moveTo _ _ _

theorem Consistent.progress_fireTimers (consistent : server.Consistent) (now : Int) :
    Progress server (.call (.fireTimers now)) := by
  have gateway := gateway_fireTimers server now
  by_cases due : ∃ planned, server.planned? = some planned ∧ planned.deadline ≤ now
  · rcases due with ⟨planned, plans, late⟩
    rcases consistent.fireTimers_of_due plans late with ⟨sends, follows⟩
    refine .announced rfl plans late rfl ?_ gateway follows
    rw [sent, sends]
    rfl
  · have early : ∀ planned, server.planned? = some planned → now < planned.deadline := by
      intro planned plans
      exact Int.not_le.mp fun late => due ⟨planned, plans, late⟩
    rcases consistent.fireTimers_before_due early with ⟨silent, kept⟩
    refine .kept rfl ?_ gateway kept
    rw [sent, silent]
    rfl

theorem Consistent.progress (consistent : server.Consistent) (step : Step β σ) :
    Progress server step := by
  cases step with
  | filter change => exact .kept rfl rfl rfl rfl
  | addresses change => exact .kept rfl rfl rfl rfl
  | call call =>
      cases call with
      | start =>
          rcases server_respond_start server with ⟨rules, same⟩
          refine .kept rfl rfl ?_ ?_
          · rw [Server.step, same]
          · rw [Server.step, same]
            rfl
      | datagram datagram peer now =>
          rcases server_handleDatagram server datagram peer now with
            ⟨table, timers, rules, same⟩
          have gateway : (server.handleDatagram datagram peer now).value.server.gateway =
              server.gateway := by
            rw [same]
          exact .kept rfl rfl gateway (consistent.planned?_handleDatagram datagram peer now)
      | interfaceEvent event now =>
          rcases respond_interfaceEvent server event now with same | same
          · refine .kept ?_ rfl ?_ ?_
            · rw [Stays, movesTo?, same]
            · rw [Server.step, same]
            · rw [Server.step, same]
          · exact progress_of_check rfl same
      | checkInterface now => exact progress_of_check rfl rfl
      | fireTimers now => exact consistent.progress_fireTimers now
      | shutdown => exact .stopped rfl rfl rfl rfl (planned?_shutdown server)

/-- The address stays at a step exactly if the gateway is the same after it. -/
theorem Consistent.stays_iff (consistent : server.Consistent) (step : Step β σ) :
    server.Stays step ↔ (server.step step).gateway = server.gateway := by
  cases consistent.progress step with
  | kept stays _ gateway _ => exact ⟨fun _ => gateway, fun _ => stays⟩
  | announced _ _ _ stays _ gateway _ => exact ⟨fun _ => gateway, fun _ => stays⟩
  | stopped _ stays _ gateway _ => exact ⟨fun _ => gateway, fun _ => stays⟩
  | moved _ _ _ isNew moves _ gateway _ =>
      constructor
      · intro stays
        rw [Stays, moves] at stays
        contradiction
      · intro same
        rw [gateway] at same
        exact (isNew (congrArg Gateway.externalAddress same)).elim

theorem Consistent.gateway_run_of_stays (consistent : server.Consistent)
    {steps : List (Step β σ)} (stays : server.Along Stays steps) :
    (server.run steps).gateway = server.gateway := by
  have kept : ∀ (middle : Server β σ) step, middle.Stays step →
      middle.Consistent ∧ middle.gateway = server.gateway →
        (middle.step step).Consistent ∧ (middle.step step).gateway = server.gateway := by
    intro middle step middleStays before
    exact ⟨before.1.step step, ((before.1.stays_iff step).mp middleStays).trans before.2⟩
  exact (stays.invariant kept ⟨consistent, rfl⟩).2

/-! ## Plans that can be carried out -/

/-- Whatever is planned can be announced: an address is known, and the burst is not over. -/
structure Announceable (server : Server β σ) : Prop where
  known : ∀ planned, server.planned? = some planned →
    server.gateway.externalAddress ≠ .unspecified
  unfinished : ∀ planned, server.planned? = some planned →
    planned.position < announceDelays.length

omit [Backend β] [AddressSource σ] in
theorem announceable_of_unplanned (unplanned : server.planned? = none) :
    server.Announceable := by
  constructor
  · intro planned plans
    rw [unplanned] at plans
    contradiction
  · intro planned plans
    rw [unplanned] at plans
    contradiction

theorem Announceable.step (announceable : server.Announceable) {step : Step β σ}
    (progress : Progress server step) : (server.step step).Announceable := by
  cases progress with
  | kept _ _ gateway plan =>
      constructor
      · rw [plan, gateway]
        exact announceable.known
      · rw [plan]
        exact announceable.unfinished
  | @moved _ _ current _ _ _ _ _ _ gateway plan =>
      by_cases lost : current = .unspecified
      · rw [if_pos ((Ipv4.isUnspecified_iff current).mpr lost)] at plan
        exact announceable_of_unplanned plan
      · rw [if_neg fun isLost => lost ((Ipv4.isUnspecified_iff current).mp isLost)] at plan
        constructor
        · intro _ _
          rw [gateway]
          exact lost
        · intro planned plans
          rw [plan] at plans
          cases plans
          exact (by decide : 0 < announceDelays.length)
  | announced _ plans _ _ _ gateway plan =>
      constructor
      · intro _ _
        rw [gateway]
        exact announceable.known _ plans
      · intro planned follows
        rw [plan] at follows
        rcases Option.map_eq_some_iff.mp follows with ⟨delay, found, rfl⟩
        exact (List.getElem?_eq_some_iff.mp found).1
  | stopped _ _ _ _ plan => exact announceable_of_unplanned plan

theorem Reachable.announceable (reachable : server.Reachable) : server.Announceable := by
  rcases reachable with ⟨rules, monitor, startTime, ports, steps, rfl⟩
  have kept : ∀ server : Server β σ, ∀ step ∈ steps,
      server.Consistent ∧ server.Announceable →
        (server.step step).Consistent ∧ (server.step step).Announceable := by
    intro server step _ before
    exact ⟨before.1.step step, before.2.step (before.1.progress step)⟩
  have first := announceable_of_unplanned (planned?_new rules monitor startTime ports)
  exact (run_invariant kept ⟨consistent_new rules monitor startTime ports, first⟩).2

end Server

end PortMapping
