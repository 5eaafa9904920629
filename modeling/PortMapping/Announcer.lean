import PortMapping.Timer.Event

/-!
# Address announcements

When the external address changes it is announced ten times, the first time at
once and then with gaps doubling from a quarter of a second to 64 seconds.  A
new change cancels whatever announcement was pending and starts from the
beginning.
-/

namespace PortMapping

/-- How long before each announcement of a burst. -/
def announceDelays : List Nat :=
  [0, milliseconds 250, milliseconds 500, seconds 1, seconds 2, seconds 4, seconds 8, seconds 16,
    seconds 32, seconds 64]

/-- Every gap within a burst is positive. -/
theorem announceDelays_pos {position delay : Nat}
    (found : announceDelays[position + 1]? = some delay) : 0 < delay := by
  have member : delay ∈ announceDelays.tail := by
    have : announceDelays.tail[position]? = some delay := by
      simpa [announceDelays] using found
    exact List.mem_of_getElem? this
  revert member
  simp only [announceDelays, milliseconds, seconds, List.tail_cons, List.mem_cons,
    List.not_mem_nil, or_false]
  omega

/-- Where a burst of announcements stands. -/
structure Announcer where
  /-- The position in `announceDelays` of the next announcement. -/
  index : Nat := 0
  /-- The timer of the next announcement, none while idle. -/
  pending : Option TimerId := none
  deriving DecidableEq, Repr

namespace Announcer

/-- An announcer that has sent nothing and plans nothing. -/
def idle : Announcer := {}

/-- An announcer with the queue its timer is armed on. -/
structure Scheduled where
  announcer : Announcer
  timers : TimerQueue TimerEvent

/-- Whether an announcement is planned. -/
def isActive (announcer : Announcer) : Bool := announcer.pending.isSome

/-- Stop announcing.  The position in the burst is kept. -/
def cancel (announcer : Announcer) (timers : TimerQueue TimerEvent) : Scheduled :=
  match announcer.pending with
  | none => ⟨announcer, timers⟩
  | some timer => ⟨{ announcer with pending := none }, (timers.cancel timer).queue⟩

/-- Start a new burst at `now`, dropping any announcement still pending. -/
def restart (announcer : Announcer) (timers : TimerQueue TimerEvent) (now : Int) :
    Scheduled :=
  let stopped := announcer.cancel timers
  let armed := stopped.timers.arm now (announceDelays.headD 0) .announce
  ⟨{ index := 0, pending := some armed.timer }, armed.queue⟩

/-- Note that the pending announcement was sent at `now` and plan the next one,
unless the burst is complete. -/
def onSent (announcer : Announcer) (timers : TimerQueue TimerEvent) (now : Int) :
    Scheduled :=
  match announceDelays[announcer.index + 1]? with
  | none => ⟨{ index := announcer.index + 1, pending := none }, timers⟩
  | some delay =>
      let armed := timers.arm now delay .announce
      ⟨{ index := announcer.index + 1, pending := some armed.timer }, armed.queue⟩

/-- Planning the next announcement makes no timer due. -/
theorem dueCount_onSent (announcer : Announcer) (timers : TimerQueue TimerEvent)
    (now : Int) : (announcer.onSent timers now).timers.dueCount now = timers.dueCount now := by
  unfold onSent
  split
  · rfl
  · rename_i delay found
    exact TimerQueue.dueCount_arm timers now .announce (announceDelays_pos found)

end Announcer

end PortMapping
