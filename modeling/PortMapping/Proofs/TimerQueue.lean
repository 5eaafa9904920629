import PortMapping.Timer.Queue
import Mathlib.Data.List.Nodup

/-!
# Well-formed timer queues

A queue keeps every pending timer twice: in the schedule, by deadline and arming
order, and among the deadlines, by identifier.  In a well-formed queue the two
indices describe the same timers, the schedule is in order, and every identifier
was handed out by the queue, once.  All operations keep this, so each of them can
be described by what it does to the schedule alone.
-/

namespace PortMapping

namespace PendingTimer

variable {ε : Type}

theorem precedes_iff {earlier later : PendingTimer ε} :
    earlier.precedes later = true ↔
      earlier.deadline < later.deadline ∨
        (earlier.deadline = later.deadline ∧ earlier.timer.index < later.timer.index) := by
  simp [precedes]

theorem precedes_trans {first second third : PendingTimer ε}
    (left : first.precedes second = true) (right : second.precedes third = true) :
    first.precedes third = true := by
  rw [precedes_iff] at *
  omega

theorem precedes_irrefl (pending : PendingTimer ε) : pending.precedes pending = false := by
  rw [Bool.eq_false_iff, ne_eq, precedes_iff]
  omega

theorem precedes_asymm {earlier later : PendingTimer ε}
    (before : earlier.precedes later = true) : later.precedes earlier = false := by
  rw [precedes_iff] at before
  rw [Bool.eq_false_iff, ne_eq, precedes_iff]
  omega

theorem deadline_le_of_precedes {earlier later : PendingTimer ε}
    (before : earlier.precedes later = true) : earlier.deadline ≤ later.deadline := by
  rw [precedes_iff] at before
  omega

/-- Placing a timer adds it to the schedule and keeps all others. -/
theorem place_perm (entry : PendingTimer ε) (schedule : List (PendingTimer ε)) :
    (place entry schedule).Perm (entry :: schedule) := by
  induction schedule with
  | nil => exact .refl _
  | cons head rest ih =>
      rw [place]
      split
      · exact (ih.cons head).trans (.swap entry head rest)
      · exact .refl _

@[simp] theorem mem_place {entry pending : PendingTimer ε}
    {schedule : List (PendingTimer ε)} :
    pending ∈ place entry schedule ↔ pending = entry ∨ pending ∈ schedule := by
  rw [(place_perm entry schedule).mem_iff, List.mem_cons]

/-- A schedule in order stays in order when a timer newer than all others is placed
in it. -/
theorem place_ordered {entry : PendingTimer ε} {schedule : List (PendingTimer ε)}
    (ordered : schedule.Pairwise fun earlier later => earlier.precedes later = true)
    (newest : ∀ pending ∈ schedule, pending.timer.index < entry.timer.index) :
    (place entry schedule).Pairwise fun earlier later => earlier.precedes later = true := by
  induction schedule with
  | nil => exact List.pairwise_singleton _ _
  | cons head rest ih =>
      have headBefore := (List.pairwise_cons.mp ordered).1
      have restOrdered := (List.pairwise_cons.mp ordered).2
      rw [place]
      split
      next before =>
        apply List.Pairwise.cons
        · intro pending member
          rcases mem_place.mp member with rfl | member
          · exact before
          · exact headBefore pending member
        · exact ih restOrdered fun pending member =>
            newest pending (List.mem_cons_of_mem head member)
      next notBefore =>
        -- The new timer loses every tie, so it stands before `head` by deadline alone.
        have entryBefore : entry.precedes head = true := by
          have older := newest head List.mem_cons_self
          rw [precedes_iff] at *
          omega
        apply List.Pairwise.cons
        · intro pending member
          rcases List.mem_cons.mp member with rfl | member
          · exact entryBefore
          · exact precedes_trans entryBefore (headBefore pending member)
        · exact ordered

/-- Placing a timer that is not selected changes no selection. -/
theorem filter_place_of_neg {selects : PendingTimer ε → Bool} {entry : PendingTimer ε}
    (unselected : ¬selects entry = true) (schedule : List (PendingTimer ε)) :
    (place entry schedule).filter selects = schedule.filter selects := by
  induction schedule with
  | nil => exact List.filter_cons_of_neg unselected
  | cons head rest ih =>
      rw [place]
      split
      · rw [List.filter_cons, List.filter_cons, ih]
      · exact List.filter_cons_of_neg unselected

end PendingTimer

/-- In a list of entries with distinct keys, looking a key up finds its entry. -/
theorem lookup_eq_some_iff_mem {κ α : Type} [BEq κ] [LawfulBEq κ]
    {entries : List (κ × α)} (distinct : (entries.map Prod.fst).Nodup)
    {key : κ} {value : α} :
    entries.lookup key = some value ↔ (key, value) ∈ entries := by
  induction entries with
  | nil => simp
  | cons entry rest ih =>
      rcases entry with ⟨otherKey, otherValue⟩
      have headFresh := (List.nodup_cons.mp distinct).1
      have restDistinct := (List.nodup_cons.mp distinct).2
      by_cases same : key = otherKey
      · subst otherKey
        have absent : (key, value) ∉ rest := fun member =>
          headFresh (List.mem_map.mpr ⟨(key, value), member, rfl⟩)
        simp [absent, eq_comm]
      · have unequal : (key == otherKey) = false := beq_eq_false_iff_ne.mpr same
        rw [List.lookup_cons, unequal, ih restDistinct]
        simp [same]

namespace TimerQueue

variable {ε : Type} {queue : TimerQueue ε} {timer : TimerId}

/-- The deadline of a timer, if it is pending. -/
def deadline? (queue : TimerQueue ε) (timer : TimerId) : Option Int :=
  queue.deadlines.lookup timer

/-- What the two indices of a queue owe each other. -/
structure WellFormed (queue : TimerQueue ε) : Prop where
  /-- The schedule is ordered by deadline, and by arming order among equal ones. -/
  ordered : queue.schedule.Pairwise fun earlier later => earlier.precedes later = true
  /-- The deadlines are those of the timers in the schedule. -/
  indexed : queue.deadlines.Perm
    (queue.schedule.map fun pending => (pending.timer, pending.deadline))
  /-- No identifier stands for two timers. -/
  distinct : (queue.schedule.map (·.timer)).Nodup
  /-- Every identifier was handed out before. -/
  issued : ∀ pending ∈ queue.schedule, pending.timer.index < queue.nextId

/-- The queue without one of its timers. -/
def without (queue : TimerQueue ε) (timer : TimerId) : TimerQueue ε :=
  { queue with
    schedule := queue.schedule.filter fun pending => pending.timer ≠ timer
    deadlines := forget timer queue.deadlines }

@[simp] theorem mem_schedule_without {pending : PendingTimer ε} :
    pending ∈ (queue.without timer).schedule ↔
      pending ∈ queue.schedule ∧ pending.timer ≠ timer := by
  simp [without]

@[simp] theorem mem_schedule_arm {now : Int} {delay : Nat} {event : ε}
    {pending : PendingTimer ε} :
    pending ∈ (queue.arm now delay event).queue.schedule ↔
      pending = ⟨now + delay, ⟨queue.nextId⟩, event⟩ ∨ pending ∈ queue.schedule :=
  PendingTimer.mem_place

theorem schedule_arm_perm (queue : TimerQueue ε) (now : Int) (delay : Nat) (event : ε) :
    (queue.arm now delay event).queue.schedule.Perm
      (⟨now + delay, ⟨queue.nextId⟩, event⟩ :: queue.schedule) :=
  PendingTimer.place_perm _ _

@[simp] theorem deadline?_arm (queue : TimerQueue ε) (now : Int) (delay : Nat) (event : ε) :
    (queue.arm now delay event).queue.deadline? timer =
      if timer = ⟨queue.nextId⟩ then some (now + delay) else queue.deadline? timer := by
  by_cases new : timer = ⟨queue.nextId⟩
  · simp [deadline?, arm, new]
  · have unequal : (timer == ⟨queue.nextId⟩) = false := beq_eq_false_iff_ne.mpr new
    simp [deadline?, arm, new, List.lookup_cons, unequal]

@[simp] theorem deadline?_without (queue : TimerQueue ε) (gone : TimerId) :
    (queue.without gone).deadline? timer =
      if timer = gone then none else queue.deadline? timer := by
  simp only [deadline?, without, forget]
  induction queue.deadlines with
  | nil => simp
  | cons known rest ih =>
      rcases known with ⟨other, deadline⟩
      by_cases forgotten : other = gone
      · subst other
        rw [List.filter_cons_of_neg (by simp), ih, List.lookup_cons]
        by_cases same : timer = gone
        · simp [same]
        · simp [same, beq_eq_false_iff_ne.mpr same]
      · rw [List.filter_cons_of_pos (by simpa using forgotten), List.lookup_cons, ih,
          List.lookup_cons]
        by_cases same : timer = other
        · simp [same, forgotten]
        · simp [beq_eq_false_iff_ne.mpr same]

@[simp] theorem size_arm (queue : TimerQueue ε) (now : Int) (delay : Nat) (event : ε) :
    (queue.arm now delay event).queue.size = queue.size + 1 :=
  (schedule_arm_perm queue now delay event).length_eq

/-- At the next deadline a timer fires. -/
theorem exists_popDue {now : Int} (next : queue.nextDeadline = some now) :
    ∃ fired, queue.popDue now = some fired := by
  rw [nextDeadline] at next
  rw [popDue]
  cases scheduled : queue.schedule with
  | nil => simp [scheduled] at next
  | cons head rest =>
      have due : head.deadline = now := by simpa [scheduled] using next
      simp [PendingTimer.isDue, due]

namespace WellFormed

theorem empty : (empty : TimerQueue ε).WellFormed :=
  ⟨.nil, .nil, .nil, nofun⟩

theorem clear (queue : TimerQueue ε) : queue.clear.WellFormed :=
  ⟨.nil, .nil, .nil, nofun⟩

/-- Two entries of a schedule with one identifier are one entry. -/
theorem eq_of_timer_eq (wf : queue.WellFormed) {left right : PendingTimer ε}
    (leftMember : left ∈ queue.schedule) (rightMember : right ∈ queue.schedule)
    (same : left.timer = right.timer) : left = right :=
  List.inj_on_of_nodup_map wf.distinct leftMember rightMember same

/-- A timer's deadline is the one it has in the schedule. -/
theorem deadline?_eq_some_iff (wf : queue.WellFormed) {deadline : Int} :
    queue.deadline? timer = some deadline ↔
      ∃ pending ∈ queue.schedule, pending.timer = timer ∧ pending.deadline = deadline := by
  have distinct : (queue.deadlines.map Prod.fst).Nodup := by
    apply (wf.indexed.map Prod.fst).symm.nodup
    rw [List.map_map]
    exact wf.distinct
  rw [deadline?, lookup_eq_some_iff_mem distinct, wf.indexed.mem_iff]
  simp

theorem arm (wf : queue.WellFormed) (now : Int) (delay : Nat) (event : ε) :
    (queue.arm now delay event).queue.WellFormed where
  ordered := PendingTimer.place_ordered wf.ordered wf.issued
  indexed := by
    have placed := schedule_arm_perm queue now delay event
    exact (wf.indexed.cons _).trans
      (placed.map fun pending : PendingTimer ε => (pending.timer, pending.deadline)).symm
  distinct := by
    have placed := schedule_arm_perm queue now delay event
    apply (placed.map (·.timer)).symm.nodup
    apply List.Pairwise.cons
    · intro other member same
      rcases List.mem_map.mp member with ⟨pending, pendingMember, rfl⟩
      have older := wf.issued pending pendingMember
      simp [← same] at older
    · exact wf.distinct
  issued := by
    intro pending member
    rcases mem_schedule_arm.mp member with rfl | member
    · exact Nat.lt_succ_self queue.nextId
    · exact Nat.lt_succ_of_lt (wf.issued pending member)

theorem without (wf : queue.WellFormed) (timer : TimerId) :
    (queue.without timer).WellFormed where
  ordered := wf.ordered.filter _
  indexed := by
    have kept := wf.indexed.filter fun known => known.1 ≠ timer
    rw [List.filter_map] at kept
    exact kept
  distinct := (List.filter_sublist.map _).nodup wf.distinct
  issued := fun pending member => wf.issued pending (mem_schedule_without.mp member).1

/-- Cancelling removes the timer's entry from both indices and does nothing else. -/
theorem cancel_eq (wf : queue.WellFormed) (timer : TimerId) :
    (queue.cancel timer).queue = queue.without timer := by
  rw [TimerQueue.cancel]
  cases found : queue.deadlines.lookup timer with
  | none =>
      have absent : ∀ pending ∈ queue.schedule, pending.timer ≠ timer := by
        intro pending member same
        have known := wf.deadline?_eq_some_iff.mpr ⟨pending, member, same, rfl⟩
        rw [deadline?, found] at known
        contradiction
      have unknown : ∀ known ∈ queue.deadlines, known.1 ≠ timer := by
        intro known member
        rcases List.mem_map.mp (wf.indexed.mem_iff.mp member) with ⟨pending, scheduled, rfl⟩
        exact absent pending scheduled
      have scheduleSame : queue.schedule.filter (fun pending => pending.timer ≠ timer) =
          queue.schedule := List.filter_eq_self.mpr (by simpa using absent)
      have deadlinesSame : forget timer queue.deadlines = queue.deadlines :=
        List.filter_eq_self.mpr (by simpa using unknown)
      simp only [TimerQueue.without, scheduleSame, deadlinesSame]
  | some deadline =>
      rcases wf.deadline?_eq_some_iff.mp found with ⟨entry, entryMember, entryTimer, rfl⟩
      simp only [TimerQueue.without, TimerQueue.mk.injEq, and_true]
      apply List.filter_congr
      intro pending member
      by_cases same : pending.timer = timer
      · have equal := wf.eq_of_timer_eq member entryMember (same.trans entryTimer.symm)
        simp [equal, entryTimer]
      · simp [same]

theorem cancel (wf : queue.WellFormed) (timer : TimerId) :
    (queue.cancel timer).queue.WellFormed := by
  rw [wf.cancel_eq]
  exact wf.without timer

/-- Whatever fires was first in the schedule and due; the other timers remain. -/
theorem popDue_eq (wf : queue.WellFormed) {now : Int} {fired : Fired ε}
    (popped : queue.popDue now = some fired) :
    ∃ deadline ≤ now,
      queue.schedule = ⟨deadline, fired.timer, fired.event⟩ :: fired.queue.schedule ∧
        fired.queue = queue.without fired.timer := by
  rw [popDue] at popped
  split at popped
  · contradiction
  next head rest scheduled =>
    split at popped
    next due =>
      cases popped
      have others : ∀ pending ∈ rest, pending.timer ≠ head.timer := by
        have distinct := wf.distinct
        rw [scheduled] at distinct
        intro pending member same
        exact (List.nodup_cons.mp distinct).1 (List.mem_map.mpr ⟨pending, member, same⟩)
      refine ⟨head.deadline, by simpa [PendingTimer.isDue] using due, scheduled, ?_⟩
      have restSame : rest.filter (fun pending => pending.timer ≠ head.timer) = rest :=
        List.filter_eq_self.mpr (by simpa using others)
      rw [TimerQueue.without, scheduled, List.filter_cons_of_neg (by simp), restSame]
    · contradiction

theorem popDue (wf : queue.WellFormed) {now : Int} {fired : Fired ε}
    (popped : queue.popDue now = some fired) : fired.queue.WellFormed := by
  rcases wf.popDue_eq popped with ⟨_, _, _, same⟩
  rw [same]
  exact wf.without fired.timer

theorem deadline?_popDue (wf : queue.WellFormed) {now : Int} {fired : Fired ε}
    (popped : queue.popDue now = some fired) :
    fired.queue.deadline? timer =
      if timer = fired.timer then none else queue.deadline? timer := by
  rcases wf.popDue_eq popped with ⟨_, _, _, same⟩
  rw [same, deadline?_without]

/-- Whatever fires is due. -/
theorem deadline_le_of_popDue (wf : queue.WellFormed) {now deadline : Int} {fired : Fired ε}
    (popped : queue.popDue now = some fired)
    (pending : queue.deadline? fired.timer = some deadline) : deadline ≤ now := by
  rcases wf.popDue_eq popped with ⟨firedDeadline, due, scheduled, _⟩
  have head : ⟨firedDeadline, fired.timer, fired.event⟩ ∈ queue.schedule := by
    rw [scheduled]
    exact List.mem_cons_self
  have firedPending := wf.deadline?_eq_some_iff.mpr ⟨_, head, rfl, rfl⟩
  rw [pending] at firedPending
  rwa [Option.some.inj firedPending]

/-- When nothing fires, every deadline lies ahead. -/
theorem popDue_none (wf : queue.WellFormed) {now : Int} (idle : queue.popDue now = none) :
    ∀ pending ∈ queue.schedule, now < pending.deadline := by
  intro pending member
  have ordered := wf.ordered
  rw [TimerQueue.popDue] at idle
  split at idle
  next scheduled => simp [scheduled] at member
  next head rest scheduled =>
    split at idle
    · contradiction
    next notDue =>
      have headLater : now < head.deadline := by simpa [PendingTimer.isDue] using notDue
      rw [scheduled] at member ordered
      rcases List.mem_cons.mp member with rfl | member
      · exact headLater
      · have before := (List.pairwise_cons.mp ordered).1 pending member
        exact Int.lt_of_lt_of_le headLater (PendingTimer.deadline_le_of_precedes before)

theorem lt_deadline_of_popDue_none (wf : queue.WellFormed) {now deadline : Int}
    (idle : queue.popDue now = none) (pending : queue.deadline? timer = some deadline) :
    now < deadline := by
  rcases wf.deadline?_eq_some_iff.mp pending with ⟨entry, member, _, rfl⟩
  exact wf.popDue_none idle entry member

/-- The next deadline is no later than that of any pending timer. -/
theorem exists_nextDeadline (wf : queue.WellFormed) {deadline : Int}
    (pending : queue.deadline? timer = some deadline) :
    ∃ earliest ≤ deadline, queue.nextDeadline = some earliest := by
  rcases wf.deadline?_eq_some_iff.mp pending with ⟨entry, member, _, rfl⟩
  have ordered := wf.ordered
  rw [nextDeadline]
  cases scheduled : queue.schedule with
  | nil => simp [scheduled] at member
  | cons head rest =>
      rw [scheduled] at member ordered
      refine ⟨head.deadline, ?_, rfl⟩
      rcases List.mem_cons.mp member with rfl | member
      · exact Int.le_refl _
      · exact PendingTimer.deadline_le_of_precedes
          ((List.pairwise_cons.mp ordered).1 entry member)

/-- One timer less is pending after one has fired. -/
theorem size_popDue (wf : queue.WellFormed) {now : Int} {fired : Fired ε}
    (popped : queue.popDue now = some fired) : queue.size = fired.queue.size + 1 := by
  rcases wf.popDue_eq popped with ⟨_, _, scheduled, _⟩
  rw [size, scheduled, List.length_cons, size]

end WellFormed

/-! ## Timers that are due -/

/-- The timers due at an instant, in schedule order. -/
def due (queue : TimerQueue ε) (now : Int) : List (PendingTimer ε) :=
  queue.schedule.filter (PendingTimer.isDue now)

theorem mem_due {now : Int} {pending : PendingTimer ε} :
    pending ∈ queue.due now ↔ pending ∈ queue.schedule ∧ pending.deadline ≤ now := by
  simp [due, PendingTimer.isDue]

/-- Arming a timer for a later instant makes none due. -/
theorem due_arm (queue : TimerQueue ε) (now : Int) {delay : Nat} (event : ε)
    (later : 0 < delay) : (queue.arm now delay event).queue.due now = queue.due now := by
  apply PendingTimer.filter_place_of_neg
  rw [PendingTimer.isDue, decide_eq_true_iff]
  change ¬now + (delay : Int) ≤ now
  omega

namespace WellFormed

theorem due_of_popDue_none (wf : queue.WellFormed) {now : Int}
    (idle : queue.popDue now = none) : queue.due now = [] := by
  apply List.eq_nil_iff_forall_not_mem.mpr
  intro pending member
  have late := mem_due.mp member
  exact Int.not_lt.mpr late.2 (wf.popDue_none idle pending late.1)

/-- The timer that fires is the first of those due, and leaves the others. -/
theorem due_of_popDue (wf : queue.WellFormed) {now : Int} {fired : Fired ε}
    (popped : queue.popDue now = some fired) :
    ∃ deadline ≤ now,
      queue.due now = ⟨deadline, fired.timer, fired.event⟩ :: fired.queue.due now := by
  rcases wf.popDue_eq popped with ⟨deadline, late, scheduled, _⟩
  refine ⟨deadline, late, ?_⟩
  rw [due, scheduled]
  exact List.filter_cons_of_pos (decide_eq_true late)

/-- Taking timers off a queue for as long as one is due takes those that are due, in
schedule order. -/
theorem fired_popAllDue (wf : queue.WellFormed) (now : Int) :
    (queue.popAllDue now).fired =
      (queue.due now).map fun pending => (pending.timer, pending.event) := by
  fun_induction queue.popAllDue now with
  | case1 queue idle => rw [wf.due_of_popDue_none idle, List.map_nil]
  | case2 queue fired popped later ih =>
      rcases wf.due_of_popDue popped with ⟨_, _, isDue⟩
      rw [isDue, List.map_cons, ← ih (wf.popDue popped)]

end WellFormed

/-- A well-formed queue whose pending timers are exactly those that `owners` lists,
each with the event its owner expects. -/
structure Serves (queue : TimerQueue ε) (owners : List (TimerId × ε)) : Prop where
  wellFormed : queue.WellFormed
  owned : (queue.schedule.map fun pending => (pending.timer, pending.event)).Perm owners

namespace Serves

variable {owners others : List (TimerId × ε)}

theorem perm (serves : queue.Serves owners) (same : owners.Perm others) :
    queue.Serves others :=
  ⟨serves.wellFormed, serves.owned.trans same⟩

/-- No timer has two owners. -/
theorem distinct (serves : queue.Serves owners) : (owners.map Prod.fst).Nodup := by
  apply (serves.owned.map Prod.fst).nodup
  rw [List.map_map]
  exact serves.wellFormed.distinct

/-- Owned timers were handed out before. -/
theorem issued (serves : queue.Serves owners) {owner : TimerId × ε}
    (member : owner ∈ owners) : owner.1.index < queue.nextId := by
  rcases List.mem_map.mp (serves.owned.mem_iff.mpr member) with ⟨pending, scheduled, rfl⟩
  exact serves.wellFormed.issued pending scheduled

/-- The timer armed next is not an owned one. -/
theorem ne_next (serves : queue.Serves owners) {owner : TimerId × ε}
    (member : owner ∈ owners) : owner.1 ≠ ⟨queue.nextId⟩ := by
  intro same
  have older := serves.issued member
  rw [same] at older
  exact Nat.lt_irrefl _ older

/-- Every owned timer is pending. -/
theorem exists_deadline (serves : queue.Serves owners) {owner : TimerId × ε}
    (member : owner ∈ owners) : ∃ deadline, queue.deadline? owner.1 = some deadline := by
  rcases List.mem_map.mp (serves.owned.mem_iff.mpr member) with ⟨pending, scheduled, rfl⟩
  exact ⟨pending.deadline,
    serves.wellFormed.deadline?_eq_some_iff.mpr ⟨pending, scheduled, rfl, rfl⟩⟩

theorem length_eq (serves : queue.Serves owners) : queue.size = owners.length := by
  rw [← serves.owned.length_eq, List.length_map]
  rfl

theorem empty : (empty : TimerQueue ε).Serves [] :=
  ⟨.empty, .nil⟩

theorem clear (queue : TimerQueue ε) : queue.clear.Serves [] :=
  ⟨.clear queue, .nil⟩

theorem arm (serves : queue.Serves owners) (now : Int) (delay : Nat) (event : ε) :
    (queue.arm now delay event).queue.Serves ((⟨queue.nextId⟩, event) :: owners) where
  wellFormed := serves.wellFormed.arm now delay event
  owned := by
    have placed := schedule_arm_perm queue now delay event
    exact (placed.map fun pending : PendingTimer ε => (pending.timer, pending.event)).trans
      (serves.owned.cons _)

/-- Arming a timer leaves the deadlines of the owned ones alone. -/
theorem deadline?_arm_of_mem (serves : queue.Serves owners) {owner : TimerId × ε}
    (member : owner ∈ owners) (now : Int) (delay : Nat) (event : ε) :
    (queue.arm now delay event).queue.deadline? owner.1 = queue.deadline? owner.1 := by
  rw [deadline?_arm, if_neg (serves.ne_next member)]

theorem cancel (serves : queue.Serves owners) (timer : TimerId) :
    (queue.cancel timer).queue.Serves (owners.filter fun owner => owner.1 ≠ timer) where
  wellFormed := serves.wellFormed.cancel timer
  owned := by
    rw [serves.wellFormed.cancel_eq]
    have kept := serves.owned.filter fun owner => owner.1 ≠ timer
    rw [List.filter_map] at kept
    exact kept

/-- The timer that fires has an owner, and the queue goes on serving the others. -/
theorem popDue (serves : queue.Serves owners) {now : Int} {fired : Fired ε}
    (popped : queue.popDue now = some fired) :
    (fired.timer, fired.event) ∈ owners ∧
      ∀ others, owners.Perm ((fired.timer, fired.event) :: others) →
        fired.queue.Serves others := by
  rcases serves.wellFormed.popDue_eq popped with ⟨deadline, _, scheduled, _⟩
  have owned := serves.owned
  rw [scheduled, List.map_cons] at owned
  constructor
  · exact owned.mem_iff.mp List.mem_cons_self
  · intro others split
    exact ⟨serves.wellFormed.popDue popped, (owned.trans split).cons_inv⟩

end Serves

end TimerQueue

end PortMapping
