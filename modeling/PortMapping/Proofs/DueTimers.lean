import PortMapping.Proofs.Announcements
import PortMapping.Proofs.Lifetimes
import PortMapping.Proofs.RuleHistory

/-!
# Firing what is due

Firing takes timers off the queue while one is due, and acting on a timer may arm another.  What
is armed is never due at once, so the rounds of firing are known before the first of them: one
for each timer that is due, in schedule order.  `Rounds` lists them.  Each mapping whose deadline
has passed ends in a round of its own, by deadline and then by the order of arming, and the rules
are rebuilt in that round for the mappings that are left.
-/

namespace PortMapping

/-- Planning the next announcement makes no timer due. -/
theorem Announcer.due_onSent (announcer : Announcer) (timers : TimerQueue TimerEvent)
    (now : Int) : (announcer.onSent timers now).timers.due now = timers.due now := by
  rw [onSent]
  split
  · rfl
  next delay found => exact timers.due_arm now .announce (announceDelays_pos found)

/-- A mapping that ends is the only one to go. -/
theorem Table.WellFormed.mappings_expire_of_mem {table : Table} (wf : table.WellFormed)
    {gone : Mapping} (member : gone ∈ table.mappings) :
    (table.expire gone.id).table.mappings = table.mappings.filter (· ≠ gone) := by
  rw [wf.mappings_expire]
  apply List.filter_congr
  intro mapping present
  rw [decide_eq_decide, not_iff_not]
  constructor
  · exact wf.eq_of_id_eq present member
  · intro same
    rw [same]

namespace Server

variable {β σ : Type} {server : Server β σ} {now : Int}

/-! ## Rounds -/

section Rounds

variable [Backend β]

/-- Firing at `now` round by round: each round takes a timer that is due and acts on it, and
after the last none is due. -/
inductive Rounds (now : Int) :
    Server β σ → List (TimerId × TimerEvent) → Handled β σ (List Octets) → Prop where
  | done {server : Server β σ} (idle : server.timers.popDue now = none) :
      Rounds now server [] ⟨[], server⟩
  | next {server : Server β σ} {fired : TimerQueue.Fired TimerEvent}
      {later : List (TimerId × TimerEvent)} {last : Handled β σ (List Octets)}
      (popped : server.timers.popDue now = some fired)
      (rest : Rounds now (server.afterTimer fired now).server later last) :
      Rounds now server ((fired.timer, fired.event) :: later)
        ⟨(server.afterTimer fired now).result ++ last.result, last.server⟩

/-- Acting on a timer leaves those that are due as they are. -/
theorem due_afterTimer (server : Server β σ) (fired : TimerQueue.Fired TimerEvent)
    (now : Int) :
    (server.afterTimer fired now).server.timers.due now = fired.queue.due now := by
  rw [afterTimer]
  cases fired.event with
  | announce => exact Announcer.due_onSent server.announcer fired.queue now
  | expire id =>
      simp only [handleTimer, expireMapping, Logged.value_bind, Logged.value_pure]
      split <;> rfl

/-- Firing has a round for each timer that is due, in schedule order, and no others. -/
theorem Consistent.rounds_fireTimers (consistent : server.Consistent) (now : Int) :
    Rounds now server
      ((server.timers.due now).map fun pending => (pending.timer, pending.event))
      (server.fireTimers now).value := by
  revert consistent
  refine firing_induction now ?done ?next server
  case done =>
    intro server idle consistent
    rw [fireTimers_of_none idle, consistent.timers.wellFormed.due_of_popDue_none idle]
    exact .done idle
  case next =>
    intro server fired popped ih consistent
    rcases consistent.timers.wellFormed.due_of_popDue popped with ⟨deadline, _, isDue⟩
    have rest := ih (consistent.afterTimer popped)
    rw [due_afterTimer] at rest
    rw [fireTimers_of_some popped, isDue]
    exact .next popped rest

/-- Where no timer is due, firing does nothing at all. -/
theorem fireTimers_of_idle (idle : server.timers.popDue now = none) :
    server.fireTimers now = pure ⟨[], server⟩ := by
  rw [fireTimers]
  split
  · rfl
  next popped => rw [idle] at popped; contradiction

end Rounds

/-! ## Mappings that end -/

/-- What is left of a list after each of some elements has gone in turn. -/
def leftAfterEach (mappings : List Mapping) : List Mapping → List (List Mapping)
  | [] => []
  | gone :: later =>
      let left := mappings.filter (· ≠ gone)
      left :: leftAfterEach left later

/-- The mappings that end by an instant, each with its deadline, by deadline and then as
their timers were armed. -/
structure EndsBy (server : Server β σ) (now : Int) (ended : List (Mapping × Int)) : Prop where
  exactly : ∀ mapping deadline,
    (mapping, deadline) ∈ ended ↔ server.Holds mapping deadline ∧ deadline ≤ now
  ordered : ended.Pairwise fun earlier later =>
    earlier.2 < later.2 ∨
      earlier.2 = later.2 ∧ earlier.1.timer.index < later.1.timer.index

/-- The mapping whose timer fires is due, and no other is due before it. -/
theorem Consistent.exists_deadline_of_popDue (consistent : server.Consistent)
    {fired : TimerQueue.Fired TimerEvent} (popped : server.timers.popDue now = some fired)
    {gone : Mapping} (member : gone ∈ server.table.mappings)
    (timer : gone.timer = fired.timer) :
    ∃ deadline ≤ now, server.Holds gone deadline ∧
      ∀ mapping instant, server.Holds mapping instant → mapping ≠ gone →
        deadline < instant ∨
          deadline = instant ∧ gone.timer.index < mapping.timer.index := by
  have wf := consistent.timers.wellFormed
  rcases wf.popDue_eq popped with ⟨deadline, late, scheduled, _⟩
  refine ⟨deadline, late, ⟨member, wf.deadline?_eq_some_iff.mpr ?_⟩, ?_⟩
  · have first : ⟨deadline, fired.timer, fired.event⟩ ∈ server.timers.schedule := by
      rw [scheduled]
      exact List.mem_cons_self
    exact ⟨_, first, timer.symm, rfl⟩
  · intro mapping instant held different
    rcases wf.deadline?_eq_some_iff.mp held.2 with ⟨pending, isPending, timerSame, rfl⟩
    have ordered := wf.ordered
    rw [scheduled] at isPending ordered
    rcases List.mem_cons.mp isPending with rfl | behind
    · have same := Table.eq_of_timer_eq consistent.timers held.1 member
        (timerSame.symm.trans timer.symm)
      exact (different same).elim
    · have before := (List.pairwise_cons.mp ordered).1 pending behind
      rw [PendingTimer.precedes_iff, timerSame, ← timer] at before
      exact before

/-- When a mapping's timer has fired, the other mappings are in force as before. -/
theorem Consistent.holds_afterTimer_expire [Backend β] (consistent : server.Consistent)
    {fired : TimerQueue.Fired TimerEvent} (popped : server.timers.popDue now = some fired)
    {gone : Mapping} (member : gone ∈ server.table.mappings)
    (event : fired.event = .expire gone.id) {mapping : Mapping} {deadline : Int} :
    (server.afterTimer fired now).server.Holds mapping deadline ↔
      server.Holds mapping deadline ∧ mapping ≠ gone := by
  rw [consistent.holds_afterTimer popped, event]
  apply and_congr_right
  intro held
  rw [ne_eq, TimerEvent.expire.injEq, ne_eq, not_iff_not]
  constructor
  · intro same
    exact (consistent.table.eq_of_id_eq member held.1 same).symm
  · intro same
    rw [same]

namespace EndsBy

variable {ended : List (Mapping × Int)}

theorem of_idle (consistent : server.Consistent) (idle : server.timers.popDue now = none) :
    server.EndsBy now [] := by
  refine ⟨?_, .nil⟩
  intro mapping deadline
  constructor
  · exact nofun
  · intro ⟨holds, late⟩
    have early := consistent.timers.wellFormed.lt_deadline_of_popDue_none idle holds.2
    exact (Int.not_lt.mpr late early).elim

variable [Backend β] {fired : TimerQueue.Fired TimerEvent}

/-- An announcement ends no mapping. -/
theorem of_announce (consistent : server.Consistent)
    (popped : server.timers.popDue now = some fired) (event : fired.event = .announce)
    (ends : (server.afterTimer fired now).server.EndsBy now ended) :
    server.EndsBy now ended := by
  refine ⟨?_, ends.ordered⟩
  intro mapping deadline
  rw [ends.exactly, consistent.holds_afterTimer popped, event]
  simp

/-- The mapping whose timer fires ends before all that end later. -/
theorem of_expire (consistent : server.Consistent)
    (popped : server.timers.popDue now = some fired) {gone : Mapping}
    (member : gone ∈ server.table.mappings) (timer : gone.timer = fired.timer)
    (event : fired.event = .expire gone.id)
    (ends : (server.afterTimer fired now).server.EndsBy now ended) :
    ∃ deadline, server.EndsBy now ((gone, deadline) :: ended) := by
  rcases consistent.exists_deadline_of_popDue popped member timer with
    ⟨deadline, late, holds, before⟩
  have left : ∀ mapping instant,
      (mapping, instant) ∈ ended ↔
        (server.Holds mapping instant ∧ mapping ≠ gone) ∧ instant ≤ now := by
    intro mapping instant
    rw [ends.exactly, consistent.holds_afterTimer_expire popped member event]
  refine ⟨deadline, ?_, ?_⟩
  · intro mapping instant
    rw [List.mem_cons, left, Prod.mk.injEq]
    constructor
    · rintro (⟨rfl, rfl⟩ | ⟨⟨held, _⟩, due⟩)
      · exact ⟨holds, late⟩
      · exact ⟨held, due⟩
    · intro ⟨held, due⟩
      by_cases same : mapping = gone
      · subst same
        exact .inl ⟨rfl, (consistent.eq_of_holds held holds rfl).2⟩
      · exact .inr ⟨⟨held, same⟩, due⟩
  · refine .cons ?_ ends.ordered
    intro ⟨mapping, instant⟩ endsLater
    rcases (left mapping instant).mp endsLater with ⟨⟨held, different⟩, _⟩
    exact before mapping instant held different

end EndsBy

section Firing

variable [Backend β]

/-- Firing ends the mappings that are due one after the other, rebuilding the rules after
each. -/
theorem Consistent.exists_endsBy (consistent : server.Consistent) (now : Int) :
    ∃ ended, server.EndsBy now ended ∧
      (server.fireTimers now).value.server.table.mappings =
        server.table.mappings.filter (· ∉ ended.map Prod.fst) ∧
      (server.rebuildsOfFiring now).map Rebuild.mappings =
        leftAfterEach server.table.mappings (ended.map Prod.fst) := by
  revert consistent
  refine firing_induction now ?done ?next server
  case done =>
    intro server idle consistent
    refine ⟨[], .of_idle consistent idle, ?_, ?_⟩
    · simp [fireTimers_of_none idle]
    · rw [rebuildsOfFiring_of_none idle]
      rfl
  case next =>
    intro server fired popped ih consistent
    rcases ih (consistent.afterTimer popped) with ⟨ended, ends, left, rebuilt⟩
    rw [fireTimers_of_some popped, rebuildsOfFiring_of_some popped, List.map_append]
    simp only [left, rebuilt]
    cases event : fired.event with
    | announce =>
        refine ⟨ended, .of_announce consistent popped event ends, ?_, ?_⟩
        · rw [afterTimer_announce server event]
        · rw [afterTimer_announce server event, rebuildsOfTimer, event]
          rfl
    | expire id =>
        rcases consistent.exists_mapping_of_popDue popped event with
          ⟨gone, member, timer, rfl⟩
        rcases EndsBy.of_expire consistent popped member timer event ends with
          ⟨deadline, endsFirst⟩
        have expired := consistent.table.expired_eq member
        have others : (server.afterTimer fired now).server.table.mappings =
            server.table.mappings.filter (· ≠ gone) := by
          rw [afterTimer_expire server event expired]
          exact consistent.table.mappings_expire_of_mem member
        refine ⟨(gone, deadline) :: ended, endsFirst, ?_, ?_⟩
        · rw [others, List.filter_filter]
          apply List.filter_congr
          intro mapping _
          rw [← Bool.decide_and, decide_eq_decide, List.map_cons, List.mem_cons, not_or,
            and_comm]
        · rw [List.map_cons, leftAfterEach, ← others, rebuildsOfTimer, event]
          simp only [expired]
          rw [afterTimer_expire server event expired]
          rfl

/-! ## The announcement that is due -/

omit [Backend β] in
/-- The timers that announce are those of the planned announcement. -/
theorem Consistent.planned?_eq_some_iff (consistent : server.Consistent) {deadline : Int} :
    (∃ planned, server.planned? = some planned ∧ planned.deadline = deadline) ↔
      ∃ pending ∈ server.timers.schedule,
        pending.event = .announce ∧ pending.deadline = deadline := by
  have wf := consistent.timers.wellFormed
  have owned := consistent.timers.owned
  constructor
  · rintro ⟨planned, plans, rfl⟩
    rcases Option.bind_eq_some_iff.mp plans with ⟨timer, active, found⟩
    rcases Option.map_eq_some_iff.mp found with ⟨deadline, due, rfl⟩
    have owner : (timer, TimerEvent.announce) ∈
        server.table.owners ++ server.announcer.owners := by
      simp [Announcer.owners, active]
    rcases List.mem_map.mp (owned.mem_iff.mpr owner) with ⟨pending, scheduled, same⟩
    rcases Prod.mk.inj same with ⟨rfl, announces⟩
    have pendingDue := wf.deadline?_eq_some_iff.mpr ⟨pending, scheduled, rfl, rfl⟩
    rw [due] at pendingDue
    exact ⟨pending, scheduled, announces, (Option.some.inj pendingDue).symm⟩
  · rintro ⟨pending, scheduled, announces, rfl⟩
    have owner := owned.mem_iff.mp (List.mem_map_of_mem scheduled)
    rw [announces] at owner
    rcases List.mem_append.mp owner with ofMapping | ofAnnouncer
    · rcases List.mem_map.mp ofMapping with ⟨mapping, _, same⟩
      have eventSame := (Prod.ext_iff.mp same).2
      contradiction
    · rcases List.mem_map.mp ofAnnouncer with ⟨timer, active, same⟩
      have due := wf.deadline?_eq_some_iff.mpr ⟨pending, scheduled, rfl, rfl⟩
      rw [← (Prod.mk.inj same).1] at due
      exact ⟨_, Announcer.planned?_of_pending (Option.mem_toList.mp active) due, rfl⟩

/-- Firing announces once if an announcement is due, and otherwise not at all. -/
theorem Consistent.result_fireTimers (consistent : server.Consistent) (now : Int) :
    (server.fireTimers now).value.result =
      if (server.timers.due now).any (·.event = .announce) then [server.announcement now]
      else [] := by
  split
  next announces =>
    rcases List.any_eq_true.mp announces with ⟨pending, isDue, event⟩
    rcases TimerQueue.mem_due.mp isDue with ⟨scheduled, late⟩
    rcases consistent.planned?_eq_some_iff.mpr
      ⟨pending, scheduled, of_decide_eq_true event, rfl⟩ with ⟨planned, plans, same⟩
    exact (consistent.fireTimers_of_due plans (same ▸ late)).1
  next silent =>
    apply (consistent.fireTimers_before_due _).1
    intro planned plans
    apply Int.not_le.mp
    intro late
    rcases consistent.planned?_eq_some_iff.mp ⟨planned, plans, rfl⟩ with
      ⟨pending, scheduled, event, same⟩
    apply silent
    exact List.any_eq_true.mpr
      ⟨pending, TimerQueue.mem_due.mpr ⟨scheduled, same ▸ late⟩, decide_eq_true event⟩

/-! ## Draining -/

/-- Firing at `now` drains a server of all that is due. -/
structure DrainsDue (server : Server β σ) (now : Int) : Prop where
  /-- There is a round for each timer that is due, in schedule order, and no other. -/
  rounds : Rounds now server
    ((server.timers.due now).map fun pending => (pending.timer, pending.event))
    (server.fireTimers now).value
  /-- Whatever is pending afterwards is due later. -/
  idle : ∀ pending ∈ (server.fireTimers now).value.server.timers.schedule,
    now < pending.deadline
  /-- The mappings that are due end, in order, and the others stay as they are.  The rules are
  rebuilt once for each that ends. -/
  ends : ∃ ended, server.EndsBy now ended ∧
    (server.fireTimers now).value.server.table.mappings =
      server.table.mappings.filter (· ∉ ended.map Prod.fst) ∧
    (server.rebuildsOfFiring now).map Rebuild.mappings =
      leftAfterEach server.table.mappings (ended.map Prod.fst)
  /-- Nothing else happens to the rules. -/
  rebuilt : Rebuilt server.rules (server.rebuildsOfFiring now)
    (server.fireTimers now).value.server.rules
  /-- One announcement is sent if one is due, and otherwise none. -/
  announced : (server.fireTimers now).value.result =
    if (server.timers.due now).any (·.event = .announce) then [server.announcement now] else []
  /-- Firing again does nothing. -/
  again : (server.fireTimers now).value.server.fireTimers now =
    pure ⟨[], (server.fireTimers now).value.server⟩

/-- In every state of every run, firing drains exactly what is due, whatever the mix of
mappings and announcements and of equal deadlines. -/
theorem drainsDue_of_reachable [AddressSource σ] (reachable : server.Reachable) (now : Int) :
    server.DrainsDue now := by
  have consistent := reachable.consistent
  have fired := (firesTo_fireTimers server now).2
  exact
    { rounds := consistent.rounds_fireTimers now
      idle := (consistent.fireTimers now).timers.wellFormed.popDue_none fired
      ends := consistent.exists_endsBy now
      rebuilt := rebuilt_fireTimers server now
      announced := consistent.result_fireTimers now
      again := fireTimers_of_idle fired }

end Firing

/-- A server that has found its address and granted four mappings, two of them until the
same instant. -/
def withFourMappings : Server MemoryFilter AddressTable :=
  atOneInterface.run
    [.call (.checkInterface 0),
      .call (.ask ⟨10, 0, 0, 5⟩ ⟨.udp, 80, 0, 10⟩ 0),
      .call (.ask ⟨10, 0, 0, 6⟩ ⟨.tcp, 81, 0, 5⟩ 0),
      .call (.ask ⟨10, 0, 0, 7⟩ ⟨.tcp, 82, 0, 60⟩ 0),
      .call (.ask ⟨10, 0, 0, 5⟩ ⟨.tcp, 83, 0, 4⟩ (seconds 1))]

/-- An announcement and three of the mappings are due together. -/
theorem drainsDue_withFourMappings :
    withFourMappings.Reachable ∧
      (withFourMappings.timers.due (seconds 12)).map (·.deadline) =
        [0, seconds 5, seconds 5, seconds 10] ∧
      withFourMappings.DrainsDue (seconds 12) ∧
      (withFourMappings.fireTimers (seconds 12)).value.result =
        [withFourMappings.announcement (seconds 12)] := by
  have reachable : withFourMappings.Reachable := reachable_atOneInterface.run _
  have drains := drainsDue_of_reachable reachable (seconds 12)
  exact ⟨reachable, by decide, drains, drains.announced⟩

end Server

end PortMapping
