import PortMapping.Proofs.MappingTable
import PortMapping.Proofs.Run

/-!
# Who owns the pending timers

The mapping table, the timer queue and the announcer are stored apart.  In every
state that a run reaches they agree: each mapping owns one pending timer that
expires it, an active announcer owns one that announces, and nothing else is
pending.  So a timer never fires for a mapping that is gone.
-/

namespace PortMapping

namespace Announcer

variable {timers : TimerQueue TimerEvent} {announcer : Announcer}
variable {others : List (TimerId × TimerEvent)}

/-- The timer of the next announcement, if one is planned. -/
def owners (announcer : Announcer) : List (TimerId × TimerEvent) :=
  announcer.pending.toList.map fun timer => (timer, .announce)

theorem mem_owners {owner : TimerId × TimerEvent} (member : owner ∈ announcer.owners) :
    owner.2 = .announce := by
  rcases List.mem_map.mp member with ⟨timer, _, rfl⟩
  rfl

@[simp] theorem owners_cancel (announcer : Announcer) (timers : TimerQueue TimerEvent) :
    (announcer.cancel timers).announcer.owners = [] := by
  rw [cancel]
  split
  next inactive => rw [owners, inactive]; rfl
  · rfl

/-- The pending announcement shares its timer with nothing else. -/
theorem timer_ne_pending (serves : timers.Serves (others ++ announcer.owners))
    {timer : TimerId} (pending : announcer.pending = some timer)
    {other : TimerId × TimerEvent} (member : other ∈ others) : other.1 ≠ timer := by
  intro same
  have distinct := serves.distinct
  rw [owners, pending, List.map_append] at distinct
  exact (List.nodup_append.mp distinct).2.2 other.1 (List.mem_map_of_mem member) timer
    (by simp) same

theorem serves_cancel (serves : timers.Serves (others ++ announcer.owners)) :
    (announcer.cancel timers).timers.Serves others := by
  rw [cancel]
  cases pending : announcer.pending with
  | none =>
      simpa [owners, pending] using serves
  | some timer =>
      have othersKept : ∀ other ∈ others, other.1 ≠ timer := fun _ member =>
        timer_ne_pending serves pending member
      have cancelled := serves.cancel timer
      rw [owners, pending] at cancelled
      have same : (others ++ [(timer, TimerEvent.announce)]).filter
          (fun owner => owner.1 ≠ timer) = others := by
        rw [List.filter_append, List.filter_eq_self.mpr (by simpa using othersKept)]
        simp
      rw [← same]
      exact cancelled

theorem serves_restart (serves : timers.Serves (others ++ announcer.owners)) (now : Int) :
    (announcer.restart timers now).timers.Serves
      (others ++ (announcer.restart timers now).announcer.owners) := by
  have armed := (serves_cancel serves).arm now (announceDelays.headD 0) .announce
  exact armed.perm (List.perm_append_singleton _ others).symm

/-- Once the announcement was sent, the next one is planned or the burst is over. -/
theorem serves_onSent (serves : timers.Serves others) (now : Int) :
    (announcer.onSent timers now).timers.Serves
      (others ++ (announcer.onSent timers now).announcer.owners) := by
  rw [onSent]
  split
  · simpa [owners] using serves
  next delay found =>
    exact (serves.arm now delay .announce).perm (List.perm_append_singleton _ others).symm

end Announcer

namespace Server

variable {β σ : Type} {server : Server β σ}

/-- The invariant: the table is well-formed, and the queue serves its mappings and the
announcer. -/
structure Consistent (server : Server β σ) : Prop where
  table : server.table.WellFormed
  timers : server.timers.Serves (server.table.owners ++ server.announcer.owners)

theorem consistent_new (rules : Synchronizer β) (monitor : Monitor σ) (startTime : Int)
    (ports : PortSource) : (new rules monitor startTime ports).Consistent :=
  ⟨.empty ports, .empty⟩

namespace Consistent

/-- Consistency is about the table, the timers and the announcer alone. -/
theorem congr {other : Server β σ} (consistent : server.Consistent)
    (table : other.table = server.table) (timers : other.timers = server.timers)
    (announcer : other.announcer = server.announcer) : other.Consistent := by
  constructor
  · rw [table]
    exact consistent.table
  · rw [timers, table, announcer]
    exact consistent.timers

theorem moveTo (consistent : server.Consistent) (current : Ipv4) (now : Int) :
    (server.moveTo current now).Consistent := by
  have stopped := Announcer.serves_cancel consistent.timers
  refine ⟨consistent.table, ?_⟩
  simp only [Server.moveTo]
  split
  · rw [Announcer.owners_cancel, List.append_nil]
    exact stopped
  · apply Announcer.serves_restart
    rw [Announcer.owners_cancel, List.append_nil]
    exact stopped

/-- The announcement that fires is the planned one. -/
theorem pending_of_announce (consistent : server.Consistent) {now : Int}
    {fired : TimerQueue.Fired TimerEvent} (popped : server.timers.popDue now = some fired)
    (event : fired.event = .announce) : server.announcer.pending = some fired.timer := by
  have owned := (consistent.timers.popDue popped).1
  rw [event] at owned
  rcases List.mem_append.mp owned with among | among
  · exact (Table.ne_announce_of_mem_owners among rfl).elim
  · rcases List.mem_map.mp among with ⟨timer, planned, same⟩
    rw [← (Prod.mk.inj same).1]
    exact Option.mem_toList.mp planned

/-- When an announcement fires, the queue goes on serving the mappings. -/
theorem serves_of_announce (consistent : server.Consistent) {now : Int}
    {fired : TimerQueue.Fired TimerEvent} (popped : server.timers.popDue now = some fired)
    (event : fired.event = .announce) : fired.queue.Serves server.table.owners := by
  apply (consistent.timers.popDue popped).2
  rw [Announcer.owners, consistent.pending_of_announce popped event, event]
  exact List.perm_append_singleton _ _

/-- When an expiry timer fires, its mapping is in the table. -/
theorem exists_mapping_of_popDue (consistent : server.Consistent) {now : Int}
    {fired : TimerQueue.Fired TimerEvent} {id : MappingId}
    (popped : server.timers.popDue now = some fired) (event : fired.event = .expire id) :
    ∃ mapping ∈ server.table.mappings, mapping.timer = fired.timer ∧ mapping.id = id :=
  Table.exists_mapping_of_popDue consistent.timers (fun _ => Announcer.mem_owners) popped event

theorem checkInterface [AddressSource σ] (consistent : server.Consistent) (now : Int) :
    (server.checkInterface now).value.server.Consistent := by
  rcases server_checkInterface server now with ⟨monitor, same | ⟨current, same⟩⟩
  · rw [same]
    exact consistent.congr rfl rfl rfl
  · rw [same]
    have asked : ({ server with monitor } : Server β σ).Consistent :=
      consistent.congr rfl rfl rfl
    exact asked.moveTo current now

theorem decideMapping (consistent : server.Consistent) (request : MappingRequest)
    (client : Ipv4) (now : Int) :
    (server.decideMapping request client now).value.server.Consistent := by
  cases deletes : request.deletes with
  | true =>
      rw [decideMapping_of_deletes server client now deletes]
      exact ⟨consistent.table.remove server.timers _ _ _, Table.serves_remove consistent.timers⟩
  | false =>
      cases known : server.gateway.hasExternalAddress with
      | true =>
          rw [decideMapping_of_grants server client now deletes known]
          exact ⟨consistent.table.grant consistent.timers.wellFormed,
            Table.serves_grant consistent.table consistent.timers⟩
      | false =>
          rw [decideMapping_of_refuses server client now deletes known]
          exact consistent

section Handlers

variable [Backend β]

theorem handleDatagram (consistent : server.Consistent) (datagram : Octets) (peer : Endpoint)
    (now : Int) : (server.handleDatagram datagram peer now).value.server.Consistent := by
  cases served : mappingRequest? datagram peer with
  | none =>
      rw [server_handleDatagram_of_none server now served]
      exact consistent
  | some asked =>
      rcases asked with ⟨request, client⟩
      rcases exists_rules_handleMapping server request client now with ⟨rules, handled⟩
      rw [handleDatagram_of_some server now served]
      simp only [handled]
      exact (consistent.decideMapping request client now).congr rfl rfl rfl

theorem afterTimer (consistent : server.Consistent) {now : Int}
    {fired : TimerQueue.Fired TimerEvent} (popped : server.timers.popDue now = some fired) :
    (server.afterTimer fired now).server.Consistent := by
  cases event : fired.event with
  | expire id =>
      rcases consistent.exists_mapping_of_popDue popped event with ⟨mapping, member, _, rfl⟩
      rw [afterTimer_expire server event (consistent.table.expired_eq member)]
      exact ⟨consistent.table.expire mapping.id, Table.serves_expire consistent.table
        consistent.timers (fun _ => Announcer.mem_owners) popped event⟩
  | announce =>
      rw [afterTimer_announce server event]
      exact ⟨consistent.table,
        Announcer.serves_onSent (serves_of_announce consistent popped event) now⟩

theorem fireTimers (consistent : server.Consistent) (now : Int) :
    (server.fireTimers now).value.server.Consistent :=
  fireTimers_invariant (fun _ _ kept popped => kept.afterTimer popped) consistent

theorem shutdown (consistent : server.Consistent) :
    server.shutdown.value.server.Consistent := by
  refine ⟨consistent.table.clear server.timers, ?_⟩
  change (TimerQueue.clear _).Serves ([] ++ (server.announcer.cancel _).announcer.owners)
  rw [Announcer.owners_cancel]
  exact .clear _

theorem respond [AddressSource σ] (consistent : server.Consistent) (call : Call) :
    (server.respond call).server.Consistent := by
  cases call with
  | start =>
      rcases server_respond_start server with ⟨rules, same⟩
      rw [same]
      exact consistent.congr rfl rfl rfl
  | datagram datagram peer now => exact consistent.handleDatagram datagram peer now
  | interfaceEvent event now =>
      rcases server_respond_interfaceEvent server event now with same | same
      · rw [same]
        exact consistent
      · rw [same]
        exact consistent.checkInterface now
  | checkInterface now => exact consistent.checkInterface now
  | fireTimers now => exact consistent.fireTimers now
  | shutdown => exact consistent.shutdown

theorem step [AddressSource σ] (consistent : server.Consistent) (step : Step β σ) :
    (server.step step).Consistent := by
  cases step with
  | call call => exact consistent.respond call
  | filter change => exact consistent.congr rfl rfl rfl
  | addresses change => exact consistent.congr rfl rfl rfl

end Handlers

end Consistent

/-- How the table, the timer queue and the announcer agree. -/
structure TimersOwned (server : Server β σ) : Prop where
  keys : (server.table.mappings.map fun mapping => (mapping.transport, mapping.internal)).Nodup
  ids : (server.table.mappings.map (·.id)).Nodup
  timers : (server.table.mappings.map (·.timer)).Nodup
  /-- The schedule and the deadlines of the queue describe the same timers. -/
  indexed : server.timers.WellFormed
  /-- Each mapping owns one pending timer and an active announcer owns one; there are no
  others. -/
  pending : (server.timers.schedule.map fun pending => (pending.timer, pending.event)).Perm
    ((server.table.mappings.map fun mapping => (mapping.timer, .expire mapping.id)) ++
      server.announcer.pending.toList.map fun timer => (timer, .announce))
  size : server.timers.size = server.table.size + if server.announcer.isActive then 1 else 0

theorem Consistent.timersOwned (consistent : server.Consistent) : server.TimersOwned where
  keys := consistent.table.keys
  ids := consistent.table.ids
  timers := Table.timers_nodup consistent.timers
  indexed := consistent.timers.wellFormed
  pending := consistent.timers.owned
  size := by
    rw [consistent.timers.length_eq, List.length_append, Table.owners, Announcer.owners,
      List.length_map, List.length_map, Table.size, Announcer.isActive]
    cases server.announcer.pending <;> rfl

variable [Backend β] [AddressSource σ]

theorem Reachable.consistent (reachable : server.Reachable) : server.Consistent := by
  rcases reachable with ⟨rules, monitor, startTime, ports, steps, rfl⟩
  exact run_invariant (fun _ step _ kept => kept.step step)
    (consistent_new rules monitor startTime ports)

/-- In every state of every run, each mapping owns one pending timer, an active announcer
owns one, and nothing else is pending.  Whenever an expiry timer fires, at whatever point of
firing several, its mapping is still in the table. -/
theorem timers_owned_of_run (rules : Synchronizer β) (monitor : Monitor σ) (startTime : Int)
    (ports : PortSource) (steps : List (Step β σ)) :
    let server := (new rules monitor startTime ports).run steps
    server.TimersOwned ∧
      ∀ now middle fired id, FiresTo now server middle →
        middle.timers.popDue now = some fired → fired.event = .expire id →
          ∃ mapping ∈ middle.table.mappings,
            mapping.id = id ∧ mapping.timer = fired.timer ∧
              (middle.table.expire id).expired = some mapping := by
  intro server
  have consistent : server.Consistent :=
    Reachable.consistent ⟨rules, monitor, startTime, ports, steps, rfl⟩
  refine ⟨consistent.timersOwned, ?_⟩
  intro now middle fired id fires popped event
  have middleConsistent : middle.Consistent :=
    fires.invariant (fun _ _ kept popped => kept.afterTimer popped) consistent
  rcases middleConsistent.exists_mapping_of_popDue popped event with
    ⟨mapping, member, timerSame, rfl⟩
  exact ⟨mapping, member, rfl, timerSame, middleConsistent.table.expired_eq member⟩

end Server

end PortMapping
