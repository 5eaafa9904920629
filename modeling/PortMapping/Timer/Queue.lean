/-!
# One-shot timers

Nothing here sleeps.  A deadline is armed on a queue, and the identifier handed
out cancels it.  The queue keeps two indices: the schedule, ordered by deadline
and by arming order among equal deadlines, and the deadline of every pending
timer, by which a timer is found in the schedule.  Identifiers count up and are
never handed out twice.  Instants are integers, in nanoseconds from a fixed
origin.
-/

namespace PortMapping

/-- So many milliseconds, in nanoseconds. -/
def milliseconds (count : Nat) : Nat := count * 1000000

/-- So many seconds, in nanoseconds. -/
def seconds (count : Nat) : Nat := count * 1000000000

/-- The handle of an armed timer. -/
structure TimerId where
  index : Nat
  deriving DecidableEq, Repr

/-- A timer that has neither fired nor been cancelled. -/
structure PendingTimer (ε : Type) where
  deadline : Int
  timer : TimerId
  event : ε
  deriving DecidableEq, Repr

namespace PendingTimer

variable {ε : Type}

/-- Whether a timer stands before another in the schedule. -/
def precedes (earlier later : PendingTimer ε) : Bool :=
  earlier.deadline < later.deadline ||
    (earlier.deadline = later.deadline && earlier.timer.index < later.timer.index)

/-- Whether a timer is due at an instant. -/
def isDue (now : Int) (pending : PendingTimer ε) : Bool := pending.deadline ≤ now

/-- Insert a timer into a schedule, behind every timer that precedes it. -/
def place (entry : PendingTimer ε) : List (PendingTimer ε) → List (PendingTimer ε)
  | [] => [entry]
  | head :: rest =>
      if head.precedes entry then head :: place entry rest else entry :: head :: rest

theorem countP_place (entry : PendingTimer ε) (schedule : List (PendingTimer ε))
    (property : PendingTimer ε → Bool) :
    (place entry schedule).countP property = (entry :: schedule).countP property := by
  induction schedule with
  | nil => rfl
  | cons head rest ih =>
      simp only [place]
      split
      · rw [List.countP_cons, ih]
        simp only [List.countP_cons]
        omega
      · rfl

end PendingTimer

/-- A queue of pending timers carrying events. -/
structure TimerQueue (ε : Type) where
  schedule : List (PendingTimer ε) := []
  deadlines : List (TimerId × Int) := []
  nextId : Nat := 0
  deriving DecidableEq, Repr

namespace TimerQueue

variable {ε : Type}

/-- The queue without timers that has handed out no identifier. -/
def empty : TimerQueue ε := {}

instance : Inhabited (TimerQueue ε) := ⟨empty⟩

/-- A queue with the timer just armed on it. -/
structure Armed (ε : Type) where
  timer : TimerId
  queue : TimerQueue ε

/-- Arm a timer that is due `delay` nanoseconds after `now`. -/
def arm (queue : TimerQueue ε) (now : Int) (delay : Nat) (event : ε) : Armed ε :=
  let timer : TimerId := ⟨queue.nextId⟩
  let deadline := now + delay
  { timer
    queue :=
      { schedule := PendingTimer.place ⟨deadline, timer, event⟩ queue.schedule
        deadlines := (timer, deadline) :: queue.deadlines
        nextId := queue.nextId + 1 } }

/-- A queue after a cancellation, with the event of the timer if it was pending. -/
structure Cancelled (ε : Type) where
  event : Option ε
  queue : TimerQueue ε

/-- Forget the deadline of a timer. -/
def forget (timer : TimerId) (deadlines : List (TimerId × Int)) :
    List (TimerId × Int) :=
  deadlines.filter fun known => known.1 ≠ timer

/-- Cancel a timer.  Nothing changes unless it is pending. -/
def cancel (queue : TimerQueue ε) (timer : TimerId) : Cancelled ε :=
  match queue.deadlines.lookup timer with
  | none => ⟨none, queue⟩
  | some deadline =>
      let isIt (pending : PendingTimer ε) : Bool :=
        pending.deadline = deadline && pending.timer = timer
      { event := (queue.schedule.find? isIt).map (·.event)
        queue :=
          { queue with
            schedule := queue.schedule.filter fun pending => !isIt pending
            deadlines := forget timer queue.deadlines } }

/-- Whether a timer is pending. -/
def isPending (queue : TimerQueue ε) (timer : TimerId) : Bool :=
  (queue.deadlines.lookup timer).isSome

/-- The earliest pending deadline. -/
def nextDeadline (queue : TimerQueue ε) : Option Int :=
  queue.schedule.head?.map (·.deadline)

/-- A timer taken off a queue because it was due. -/
structure Fired (ε : Type) where
  timer : TimerId
  event : ε
  queue : TimerQueue ε

/-- Take the earliest timer off the queue if it is due at `now`. -/
def popDue (queue : TimerQueue ε) (now : Int) : Option (Fired ε) :=
  match queue.schedule with
  | [] => none
  | head :: rest =>
      if head.isDue now then
        some
          { timer := head.timer
            event := head.event
            queue :=
              { queue with
                schedule := rest
                deadlines := forget head.timer queue.deadlines } }
      else none

/-- Cancel every timer.  Identifiers go on counting. -/
def clear (queue : TimerQueue ε) : TimerQueue ε := { nextId := queue.nextId }

/-- The number of pending timers. -/
def size (queue : TimerQueue ε) : Nat := queue.schedule.length

/-- Whether no timer is pending. -/
def isEmpty (queue : TimerQueue ε) : Bool := queue.schedule.isEmpty

/-- The number of timers due at an instant. -/
def dueCount (queue : TimerQueue ε) (now : Int) : Nat :=
  queue.schedule.countP (PendingTimer.isDue now)

/-- Taking a due timer off the queue leaves one due timer less. -/
theorem dueCount_popDue {queue : TimerQueue ε} {now : Int} {fired : Fired ε}
    (popped : queue.popDue now = some fired) :
    queue.dueCount now = fired.queue.dueCount now + 1 := by
  unfold popDue at popped
  split at popped
  · cases popped
  · rename_i head rest scheduled
    split at popped
    · rename_i due
      cases popped
      simp [dueCount, scheduled, due]
    · cases popped

/-- A timer armed for a later instant is not due. -/
theorem dueCount_arm (queue : TimerQueue ε) (now : Int) {delay : Nat} (event : ε)
    (later : 0 < delay) : (queue.arm now delay event).queue.dueCount now = queue.dueCount now := by
  have notDue : ¬ (now + (delay : Int) ≤ now) := by omega
  simp only [dueCount, arm, PendingTimer.countP_place, List.countP_cons, PendingTimer.isDue]
  simp [notDue]

/-- The timers that fired together, with the queue they left. -/
structure Drained (ε : Type) where
  fired : List (TimerId × ε)
  queue : TimerQueue ε

/-- Take every timer due at `now` off the queue, in schedule order. -/
def popAllDue (queue : TimerQueue ε) (now : Int) : Drained ε :=
  match _popped : queue.popDue now with
  | none => ⟨[], queue⟩
  | some fired =>
      let later := popAllDue fired.queue now
      ⟨(fired.timer, fired.event) :: later.fired, later.queue⟩
termination_by queue.dueCount now
decreasing_by
  rw [dueCount_popDue _popped]
  omega

end TimerQueue

end PortMapping
