import PortMapping.Proofs.TimerQueue

/-!
# Timers as a plain list

The schedule and the deadlines of a queue are there to find a timer quickly; what the
operations mean needs neither.  `PlainTimers` lists the pending timers as they were armed, and
the timer that fires is the one that no other precedes.  A queue that `Represents` such a list
answers every operation as the list does and goes on representing it.  What is pending can also
be read off the answers alone: `Stands` says of a history that a timer was armed and has neither
fired, nor been cancelled or cleared since.
-/

namespace PortMapping

/-! ## Operations and histories -/

/-- An operation on timers. -/
inductive TimerOperation (ε : Type) where
  | arm (now : Int) (delay : Nat) (event : ε)
  | cancel (timer : TimerId)
  | popDue (now : Int)
  | nextDeadline
  | isPending (timer : TimerId)
  | size
  | clear
  deriving DecidableEq, Repr

/-- What an operation returns. -/
inductive TimerAnswer (ε : Type) where
  | armed (timer : TimerId)
  | cancelled (event : Option ε)
  | fired (timer : Option (TimerId × ε))
  | nextDeadline (deadline : Option Int)
  | isPending (pending : Bool)
  | size (count : Nat)
  | cleared
  deriving DecidableEq, Repr

/-- An operation with its answer. -/
structure TimerExchange (ε : Type) where
  operation : TimerOperation ε
  answer : TimerAnswer ε
  deriving DecidableEq, Repr

/-- What an operation returns, with the timers after it. -/
structure TimerResponse (τ ε : Type) where
  answer : TimerAnswer ε
  timers : τ

/-- A sequence of operations with their answers, and the timers after them. -/
structure TimerSession (τ ε : Type) where
  exchanges : List (TimerExchange ε)
  timers : τ

variable {τ ε : Type}

/-- Perform operations in order, on timers that are kept in whatever way. -/
def TimerSession.run (respond : τ → TimerOperation ε → TimerResponse τ ε) (timers : τ) :
    List (TimerOperation ε) → TimerSession τ ε
  | [] => ⟨[], timers⟩
  | operation :: rest =>
      let response := respond timers operation
      let later := run respond response.timers rest
      ⟨⟨operation, response.answer⟩ :: later.exchanges, later.timers⟩

namespace TimerExchange

/-- The timer that was armed. -/
def armed? : TimerExchange ε → Option (PendingTimer ε)
  | ⟨.arm now delay event, .armed timer⟩ => some ⟨now + delay, timer, event⟩
  | _ => none

/-- Whether a timer is no longer pending: it was cancelled, it fired, or all were cleared. -/
def Ends (timer : TimerId) : TimerExchange ε → Prop
  | ⟨.cancel cancelled, _⟩ => cancelled = timer
  | ⟨.popDue _, .fired (some (fired, _))⟩ => fired = timer
  | ⟨.clear, _⟩ => True
  | _ => False

end TimerExchange

/-- By its history a timer is pending: it was armed, and nothing has ended it since. -/
def Stands (history : List (TimerExchange ε)) (pending : PendingTimer ε) : Prop :=
  ∃ earlier arming later, history = earlier ++ arming :: later ∧
    arming.armed? = some pending ∧ ∀ exchange ∈ later, ¬exchange.Ends pending.timer

theorem not_stands_nil (pending : PendingTimer ε) : ¬Stands [] pending := by
  rintro ⟨earlier, arming, later, split, _⟩
  simp at split

/-- The last exchange arms a timer, or leaves one pending. -/
theorem stands_append_singleton {history : List (TimerExchange ε)} {last : TimerExchange ε}
    {pending : PendingTimer ε} :
    Stands (history ++ [last]) pending ↔
      last.armed? = some pending ∨ Stands history pending ∧ ¬last.Ends pending.timer := by
  constructor
  · rintro ⟨earlier, arming, later, split, arms, kept⟩
    rcases List.eq_nil_or_concat' later with rfl | ⟨between, final, rfl⟩
    · rw [(List.append_singleton_inj.mp split).2]
      exact .inl arms
    · rw [← List.cons_append, ← List.append_assoc] at split
      rcases List.append_singleton_inj.mp split with ⟨rfl, rfl⟩
      rcases List.forall_mem_append.mp kept with ⟨keptBetween, keptLast⟩
      exact .inr ⟨⟨earlier, arming, between, rfl, arms, keptBetween⟩,
        keptLast last (List.mem_singleton_self last)⟩
  · rintro (arms | ⟨⟨earlier, arming, later, rfl, arms, kept⟩, stays⟩)
    · exact ⟨history, last, [], rfl, arms, nofun⟩
    · refine ⟨earlier, arming, later ++ [last], List.append_assoc _ _ _, arms, ?_⟩
      intro exchange member
      rcases List.mem_append.mp member with member | member
      · exact kept exchange member
      · rw [List.mem_singleton.mp member]
        exact stays

namespace TimerQueue

variable {queue : TimerQueue ε}

/-- How a queue responds to an operation. -/
def respond (queue : TimerQueue ε) : TimerOperation ε → TimerResponse (TimerQueue ε) ε
  | .arm now delay event =>
      let armed := queue.arm now delay event
      ⟨.armed armed.timer, armed.queue⟩
  | .cancel timer =>
      let cancelled := queue.cancel timer
      ⟨.cancelled cancelled.event, cancelled.queue⟩
  | .popDue now =>
      match queue.popDue now with
      | none => ⟨.fired none, queue⟩
      | some fired => ⟨.fired (some (fired.timer, fired.event)), fired.queue⟩
  | .nextDeadline => ⟨.nextDeadline queue.nextDeadline, queue⟩
  | .isPending timer => ⟨.isPending (queue.isPending timer), queue⟩
  | .size => ⟨.size queue.size, queue⟩
  | .clear => ⟨.cleared, queue.clear⟩

theorem respond_popDue_of_none {now : Int} (idle : queue.popDue now = none) :
    queue.respond (.popDue now) = ⟨.fired none, queue⟩ := by
  simp only [respond, idle]

theorem respond_popDue_of_some {now : Int} {fired : Fired ε}
    (popped : queue.popDue now = some fired) :
    queue.respond (.popDue now) = ⟨.fired (some (fired.timer, fired.event)), fired.queue⟩ := by
  simp only [respond, popped]

/-! ## Identifiers -/

theorem nextId_cancel (queue : TimerQueue ε) (timer : TimerId) :
    (queue.cancel timer).queue.nextId = queue.nextId := by
  rw [cancel]
  split <;> rfl

theorem nextId_popDue {now : Int} {fired : Fired ε} (popped : queue.popDue now = some fired) :
    fired.queue.nextId = queue.nextId := by
  rw [popDue] at popped
  split at popped
  · contradiction
  · split at popped
    · cases popped
      rfl
    · contradiction

/-- Arming hands out the next identifier; no operation takes one back. -/
theorem nextId_respond (queue : TimerQueue ε) (operation : TimerOperation ε) :
    let response := queue.respond operation
    match TimerExchange.armed? ⟨operation, response.answer⟩ with
    | some pending =>
        pending.timer = ⟨queue.nextId⟩ ∧ response.timers.nextId = queue.nextId + 1
    | none => response.timers.nextId = queue.nextId := by
  cases operation with
  | arm now delay event => exact ⟨rfl, rfl⟩
  | cancel timer => exact nextId_cancel queue timer
  | nextDeadline | isPending | size | clear => rfl
  | popDue now =>
      cases popped : queue.popDue now with
      | none =>
          rw [respond_popDue_of_none popped]
          rfl
      | some fired =>
          rw [respond_popDue_of_some popped]
          exact nextId_popDue popped

/-- Whatever a run of operations arms is newer than all that was armed before. -/
theorem armed_run (queue : TimerQueue ε) (operations : List (TimerOperation ε)) :
    let armed := (TimerSession.run respond queue operations).exchanges.filterMap
      TimerExchange.armed?
    (∀ pending ∈ armed, queue.nextId ≤ pending.timer.index) ∧
      armed.Pairwise fun earlier later => earlier.timer.index < later.timer.index := by
  induction operations generalizing queue with
  | nil => exact ⟨nofun, .nil⟩
  | cons operation rest ih =>
      rcases ih (queue.respond operation).timers with ⟨newer, ordered⟩
      have next := nextId_respond queue operation
      simp only [TimerSession.run]
      cases arms : TimerExchange.armed? ⟨operation, (queue.respond operation).answer⟩ with
      | none =>
          simp only [arms] at next
          rw [next] at newer
          rw [List.filterMap_cons_none arms]
          exact ⟨newer, ordered⟩
      | some pending =>
          simp only [arms] at next
          rw [next.2] at newer
          have isNext : pending.timer.index = queue.nextId := congrArg TimerId.index next.1
          rw [List.filterMap_cons_some arms]
          constructor
          · intro other member
            rcases List.mem_cons.mp member with rfl | member
            · exact Nat.le_of_eq isNext.symm
            · exact Nat.le_of_succ_le (newer other member)
          · apply List.Pairwise.cons _ ordered
            intro other member
            rw [isNext]
            exact newer other member

/-! ## What an operation does to the schedule -/

namespace WellFormed

/-- Cancelling returns the event of a pending timer. -/
theorem event_cancel_eq_some_iff (wf : queue.WellFormed) {timer : TimerId} {event : ε} :
    (queue.cancel timer).event = some event ↔
      ∃ deadline, ⟨deadline, timer, event⟩ ∈ queue.schedule := by
  rw [TimerQueue.cancel]
  constructor
  · intro cancelled
    split at cancelled
    · contradiction
    · rcases Option.map_eq_some_iff.mp cancelled with ⟨pending, found, rfl⟩
      have isIt := List.find?_some found
      simp only [Bool.and_eq_true, decide_eq_true_eq] at isIt
      refine ⟨pending.deadline, ?_⟩
      rw [← isIt.2]
      exact List.mem_of_find?_eq_some found
  · rintro ⟨deadline, scheduled⟩
    have known : queue.deadlines.lookup timer = some deadline :=
      wf.deadline?_eq_some_iff.mpr ⟨_, scheduled, rfl, rfl⟩
    simp only [known]
    cases found : queue.schedule.find? fun pending =>
        decide (pending.deadline = deadline) && decide (pending.timer = timer) with
    | none => simpa using List.find?_eq_none.mp found _ scheduled
    | some other =>
        have isIt := List.find?_some found
        simp only [Bool.and_eq_true, decide_eq_true_eq] at isIt
        rw [wf.eq_of_timer_eq (List.mem_of_find?_eq_some found) scheduled isIt.2]
        rfl

theorem respond (wf : queue.WellFormed) (operation : TimerOperation ε) :
    (queue.respond operation).timers.WellFormed := by
  cases operation with
  | arm now delay event => exact wf.arm now delay event
  | cancel timer => exact wf.cancel timer
  | nextDeadline | isPending | size => exact wf
  | clear => exact .clear queue
  | popDue now =>
      cases popped : queue.popDue now with
      | none =>
          rw [respond_popDue_of_none popped]
          exact wf
      | some fired =>
          rw [respond_popDue_of_some popped]
          exact wf.popDue popped

/-- After an operation a timer is pending if it was just armed, or was pending before and has
not been ended. -/
theorem mem_schedule_respond (wf : queue.WellFormed) (operation : TimerOperation ε)
    {pending : PendingTimer ε} :
    let response := queue.respond operation
    let exchange : TimerExchange ε := ⟨operation, response.answer⟩
    pending ∈ response.timers.schedule ↔
      exchange.armed? = some pending ∨
        pending ∈ queue.schedule ∧ ¬exchange.Ends pending.timer := by
  cases operation with
  | arm now delay event =>
      simp [TimerQueue.respond, TimerExchange.armed?, TimerExchange.Ends, TimerQueue.arm, eq_comm]
  | cancel timer =>
      simp [TimerQueue.respond, TimerExchange.armed?, TimerExchange.Ends, wf.cancel_eq, eq_comm]
  | nextDeadline | isPending | size =>
      simp [TimerQueue.respond, TimerExchange.armed?, TimerExchange.Ends]
  | clear =>
      simp [TimerQueue.respond, TimerExchange.armed?, TimerExchange.Ends, TimerQueue.clear]
  | popDue now =>
      cases popped : queue.popDue now with
      | none => simp [respond_popDue_of_none popped, TimerExchange.armed?, TimerExchange.Ends]
      | some fired =>
          rcases wf.popDue_eq popped with ⟨_, _, _, same⟩
          simp [respond_popDue_of_some popped, TimerExchange.armed?, TimerExchange.Ends, same,
            eq_comm]

/-- Where a history tells what is pending, it goes on telling it. -/
theorem mem_schedule_run {queue : TimerQueue ε} (wf : queue.WellFormed)
    {history : List (TimerExchange ε)}
    (told : ∀ pending, pending ∈ queue.schedule ↔ Stands history pending)
    (operations : List (TimerOperation ε)) (pending : PendingTimer ε) :
    let session := TimerSession.run TimerQueue.respond queue operations
    pending ∈ session.timers.schedule ↔ Stands (history ++ session.exchanges) pending := by
  induction operations generalizing queue history with
  | nil =>
      simp only [TimerSession.run, List.append_nil]
      exact told pending
  | cons operation rest ih =>
      simp only [TimerSession.run]
      rw [List.append_cons]
      apply ih (wf.respond operation)
      intro pending
      rw [stands_append_singleton, ← told]
      exact wf.mem_schedule_respond operation

end WellFormed

end TimerQueue

/-! ## The list -/

/-- The pending timers in the order they were armed in, and how many were armed so far. -/
structure PlainTimers (ε : Type) where
  entries : List (PendingTimer ε) := []
  armed : Nat := 0

namespace PlainTimers

/-- No timer, and none armed so far. -/
def empty : PlainTimers ε := {}

/-- The timer that no other precedes. -/
def first? (timers : PlainTimers ε) : Option (PendingTimer ε) :=
  timers.entries.find? fun pending => timers.entries.all fun other => !other.precedes pending

/-- The timers without one of them. -/
def without (timers : PlainTimers ε) (timer : TimerId) : PlainTimers ε :=
  { timers with entries := timers.entries.filter fun pending => pending.timer ≠ timer }

/-- What an operation means. -/
def respond (timers : PlainTimers ε) : TimerOperation ε → TimerResponse (PlainTimers ε) ε
  | .arm now delay event =>
      ⟨.armed ⟨timers.armed⟩,
        ⟨timers.entries ++ [⟨now + delay, ⟨timers.armed⟩, event⟩], timers.armed + 1⟩⟩
  | .cancel timer =>
      ⟨.cancelled ((timers.entries.find? fun pending => pending.timer = timer).map (·.event)),
        timers.without timer⟩
  | .popDue now =>
      match timers.first?.filter (·.isDue now) with
      | none => ⟨.fired none, timers⟩
      | some pending =>
          ⟨.fired (some (pending.timer, pending.event)), timers.without pending.timer⟩
  | .nextDeadline => ⟨.nextDeadline (timers.entries.map (·.deadline)).min?, timers⟩
  | .isPending timer =>
      ⟨.isPending (timers.entries.any fun pending => pending.timer = timer), timers⟩
  | .size => ⟨.size timers.entries.length, timers⟩
  | .clear => ⟨.cleared, { timers with entries := [] }⟩

end PlainTimers

/-- A queue keeps the timers of a list, and hands out the same identifiers. -/
structure TimerQueue.Represents (queue : TimerQueue ε) (plain : PlainTimers ε) : Prop where
  wellFormed : queue.WellFormed
  entries : queue.schedule.Perm plain.entries
  armed : queue.nextId = plain.armed

namespace TimerQueue.Represents

variable {queue : TimerQueue ε} {plain : PlainTimers ε}

theorem empty : (TimerQueue.empty : TimerQueue ε).Represents .empty :=
  ⟨.empty, .nil, rfl⟩

/-- A timer is found by its identifier, in whatever order the timers are listed. -/
theorem event_cancel (represents : queue.Represents plain) (timer : TimerId) :
    (queue.cancel timer).event =
      (plain.entries.find? fun pending => pending.timer = timer).map (·.event) := by
  apply Option.ext
  intro event
  rw [represents.wellFormed.event_cancel_eq_some_iff]
  constructor
  · rintro ⟨deadline, scheduled⟩
    have listed := represents.entries.mem_iff.mp scheduled
    cases found : plain.entries.find? fun pending => pending.timer = timer with
    | none => simpa using List.find?_eq_none.mp found _ listed
    | some other =>
        have isIt : other.timer = timer := of_decide_eq_true (List.find?_some found :)
        have otherScheduled := represents.entries.mem_iff.mpr (List.mem_of_find?_eq_some found)
        rw [represents.wellFormed.eq_of_timer_eq otherScheduled scheduled isIt]
        rfl
  · intro found
    rcases Option.map_eq_some_iff.mp found with ⟨pending, isFound, rfl⟩
    have isIt : pending.timer = timer := of_decide_eq_true (List.find?_some isFound :)
    refine ⟨pending.deadline, ?_⟩
    rw [← isIt]
    exact represents.entries.mem_iff.mpr (List.mem_of_find?_eq_some isFound)

/-- The head of the schedule is the timer that no other precedes. -/
theorem first?_eq (represents : queue.Represents plain) :
    plain.first? = queue.schedule.head? := by
  have ordered := represents.wellFormed.ordered
  have entries := represents.entries
  cases scheduled : queue.schedule with
  | nil =>
      rw [scheduled] at entries
      rw [PlainTimers.first?, entries.nil_eq.symm]
      rfl
  | cons head rest =>
      rw [scheduled] at ordered entries
      have headBefore := (List.pairwise_cons.mp ordered).1
      have headFirst : ∀ other ∈ plain.entries, other.precedes head = false := by
        intro other listed
        rcases List.mem_cons.mp (entries.mem_iff.mpr listed) with rfl | member
        · exact PendingTimer.precedes_irrefl _
        · exact PendingTimer.precedes_asymm (headBefore other member)
      cases found : plain.first? with
      | none =>
          have passedOver := List.find?_eq_none.mp found head
            (entries.mem_iff.mp List.mem_cons_self)
          exact (passedOver (List.all_eq_true.mpr fun other listed => by
            rw [headFirst other listed, Bool.not_false])).elim
      | some pending =>
          have isFirst := List.all_eq_true.mp (List.find?_some found :)
          have listed := List.mem_of_find?_eq_some found
          rcases List.mem_cons.mp (entries.mem_iff.mpr listed) with rfl | member
          · rfl
          · have headPrecedes := isFirst head (entries.mem_iff.mp List.mem_cons_self)
            rw [headBefore pending member] at headPrecedes
            contradiction

theorem nextDeadline_eq (represents : queue.Represents plain) :
    queue.nextDeadline = (plain.entries.map (·.deadline)).min? := by
  have ordered := represents.wellFormed.ordered
  have entries := represents.entries
  rw [nextDeadline]
  cases scheduled : queue.schedule with
  | nil =>
      rw [scheduled] at entries
      rw [entries.nil_eq.symm]
      rfl
  | cons head rest =>
      rw [scheduled] at ordered entries
      apply Eq.symm
      apply List.min?_eq_some_iff.mpr
      constructor
      · exact List.mem_map_of_mem (entries.mem_iff.mp List.mem_cons_self)
      · intro deadline listed
        rcases List.mem_map.mp listed with ⟨pending, member, rfl⟩
        rcases List.mem_cons.mp (entries.mem_iff.mpr member) with rfl | later
        · exact Int.le_refl _
        · exact PendingTimer.deadline_le_of_precedes
            ((List.pairwise_cons.mp ordered).1 pending later)

theorem isPending_eq (represents : queue.Represents plain) (timer : TimerId) :
    queue.isPending timer = plain.entries.any fun pending => pending.timer = timer := by
  rw [← represents.entries.any_eq, Bool.eq_iff_iff, isPending, Option.isSome_iff_exists,
    List.any_eq_true]
  constructor
  · rintro ⟨deadline, found⟩
    rcases represents.wellFormed.deadline?_eq_some_iff.mp found with ⟨pending, member, same, _⟩
    exact ⟨pending, member, decide_eq_true same⟩
  · rintro ⟨pending, member, same⟩
    exact ⟨pending.deadline, represents.wellFormed.deadline?_eq_some_iff.mpr
      ⟨pending, member, of_decide_eq_true same, rfl⟩⟩

theorem without (represents : queue.Represents plain) (timer : TimerId) :
    (queue.without timer).Represents (plain.without timer) where
  wellFormed := represents.wellFormed.without timer
  entries := represents.entries.filter _
  armed := represents.armed

theorem arm (represents : queue.Represents plain) (now : Int) (delay : Nat) (event : ε) :
    (queue.respond (.arm now delay event)).answer =
        (plain.respond (.arm now delay event)).answer ∧
      (queue.respond (.arm now delay event)).timers.Represents
        (plain.respond (.arm now delay event)).timers := by
  have same : (⟨queue.nextId⟩ : TimerId) = ⟨plain.armed⟩ := congrArg _ represents.armed
  refine ⟨congrArg _ same, represents.wellFormed.arm now delay event, ?_,
    congrArg (· + 1) represents.armed⟩
  have placed := schedule_arm_perm queue now delay event
  rw [same] at placed
  exact placed.trans ((represents.entries.cons _).trans (List.perm_append_singleton _ _).symm)

theorem popDue (represents : queue.Represents plain) (now : Int) :
    (queue.respond (.popDue now)).answer = (plain.respond (.popDue now)).answer ∧
      (queue.respond (.popDue now)).timers.Represents
        (plain.respond (.popDue now)).timers := by
  have first := represents.first?_eq
  cases popped : queue.popDue now with
  | none =>
      have noneDue : plain.first?.filter (·.isDue now) = none := by
        apply Option.filter_eq_none_iff.mpr
        intro pending isFirst isDue
        rw [first] at isFirst
        have early := represents.wellFormed.popDue_none popped pending
          (List.mem_of_mem_head? isFirst)
        exact Int.not_lt.mpr (of_decide_eq_true isDue) early
      simp only [respond_popDue_of_none popped, PlainTimers.respond, noneDue]
      exact ⟨trivial, represents⟩
  | some fired =>
      rcases represents.wellFormed.popDue_eq popped with ⟨deadline, late, scheduled, same⟩
      have isDue : plain.first?.filter (·.isDue now) =
          some ⟨deadline, fired.timer, fired.event⟩ := by
        rw [first, scheduled, List.head?_cons]
        exact Option.filter_some_pos (decide_eq_true late)
      simp only [respond_popDue_of_some popped, PlainTimers.respond, isDue, same]
      exact ⟨trivial, represents.without fired.timer⟩

/-- A queue answers an operation as the list does, and goes on representing it. -/
theorem respond (represents : queue.Represents plain) (operation : TimerOperation ε) :
    (queue.respond operation).answer = (plain.respond operation).answer ∧
      (queue.respond operation).timers.Represents (plain.respond operation).timers := by
  cases operation with
  | arm now delay event => exact represents.arm now delay event
  | popDue now => exact represents.popDue now
  | nextDeadline => exact ⟨congrArg _ represents.nextDeadline_eq, represents⟩
  | isPending timer => exact ⟨congrArg _ (represents.isPending_eq timer), represents⟩
  | size => exact ⟨congrArg _ represents.entries.length_eq, represents⟩
  | clear => exact ⟨rfl, .clear queue, .nil, represents.armed⟩
  | cancel timer =>
      refine ⟨congrArg _ (represents.event_cancel timer), ?_⟩
      change (queue.cancel timer).queue.Represents _
      rw [represents.wellFormed.cancel_eq]
      exact represents.without timer

/-- No sequence of operations tells a queue from the list that it represents. -/
theorem run (represents : queue.Represents plain) (operations : List (TimerOperation ε)) :
    let session := TimerSession.run TimerQueue.respond queue operations
    let reference := TimerSession.run PlainTimers.respond plain operations
    session.exchanges = reference.exchanges ∧ session.timers.Represents reference.timers := by
  induction operations generalizing queue plain with
  | nil => exact ⟨rfl, represents⟩
  | cons operation rest ih =>
      have first := represents.respond operation
      have later := ih first.2
      simp only [TimerSession.run]
      rw [first.1, later.1]
      exact ⟨rfl, later.2⟩

end TimerQueue.Represents

/-- Whatever is asked of a queue, it answers as the plain list does: identifiers are handed out
once, cancelling returns the event of a timer that stands and of no other, the least timer
fires if it is due, and the other answers are read off the list.  What is listed is what
stands by the history.  The schedule and the deadlines describe the same timers, and firing
for as long as a timer is due takes just those that are, by deadline and then as armed. -/
theorem operations_answered_by_list (operations : List (TimerOperation ε)) :
    let session := TimerSession.run TimerQueue.respond TimerQueue.empty operations
    let reference := TimerSession.run PlainTimers.respond PlainTimers.empty operations
    session.exchanges = reference.exchanges ∧
      session.timers.schedule.Perm reference.timers.entries ∧
      (∀ pending, pending ∈ reference.timers.entries ↔ Stands session.exchanges pending) ∧
      ((session.exchanges.filterMap TimerExchange.armed?).map (·.timer)).Nodup ∧
      (∀ timer event, (session.timers.cancel timer).event = some event ↔
        ∃ deadline, Stands session.exchanges ⟨deadline, timer, event⟩) ∧
      session.timers.WellFormed ∧
      ∀ now, ∃ due : List (PendingTimer ε),
        due.Perm (reference.timers.entries.filter (·.isDue now)) ∧
          (due.Pairwise fun earlier later => earlier.precedes later = true) ∧
          (session.timers.popAllDue now).fired =
            due.map fun pending => (pending.timer, pending.event) := by
  intro session reference
  rcases TimerQueue.Represents.empty.run operations with ⟨answers, represents⟩
  have wellFormed : session.timers.WellFormed := represents.wellFormed
  have stands : ∀ pending, pending ∈ session.timers.schedule ↔
      Stands session.exchanges pending := by
    have told : ∀ pending, pending ∈ (TimerQueue.empty : TimerQueue ε).schedule ↔
        Stands [] pending := fun pending =>
      iff_of_false List.not_mem_nil (not_stands_nil pending)
    exact TimerQueue.WellFormed.empty.mem_schedule_run told operations
  refine ⟨answers, represents.entries, ?_, ?_, ?_, wellFormed, ?_⟩
  · intro pending
    exact represents.entries.mem_iff.symm.trans (stands pending)
  · have newer := (TimerQueue.armed_run TimerQueue.empty operations).2
    apply List.Pairwise.map _ _ newer
    intro earlier later older same
    exact Nat.ne_of_lt older (congrArg TimerId.index same)
  · intro timer event
    rw [wellFormed.event_cancel_eq_some_iff]
    exact exists_congr fun deadline => stands ⟨deadline, timer, event⟩
  · intro now
    exact ⟨session.timers.due now, represents.entries.filter _, wellFormed.ordered.filter _,
      wellFormed.fired_popAllDue now⟩

end PortMapping
