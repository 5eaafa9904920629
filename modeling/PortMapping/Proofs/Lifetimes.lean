import PortMapping.Proofs.Packets
import PortMapping.Proofs.TimerOwnership

/-!
# Granted lifetimes

A mapping stays in force until the deadline of its grant and no longer.  `Holds`
says which mappings a server has in force and until when, and each handler is
described by what it does to that relation.  Firing ends just the mappings whose
deadlines have passed, whatever else fires with them; nothing but firing, shutting
down and the client's own requests ends a mapping at all.
-/

namespace PortMapping

namespace Announcer

variable {timers : TimerQueue TimerEvent} {announcer : Announcer}
variable {others : List (TimerId × TimerEvent)} {other : TimerId × TimerEvent}

/-- Announcing takes timers of its own only. -/
theorem deadline?_cancel (serves : timers.Serves (others ++ announcer.owners))
    (member : other ∈ others) :
    (announcer.cancel timers).timers.deadline? other.1 = timers.deadline? other.1 := by
  rw [cancel]
  cases pending : announcer.pending with
  | none => rfl
  | some timer =>
      simp only [serves.wellFormed.cancel_eq, TimerQueue.deadline?_without]
      exact if_neg (timer_ne_pending serves pending member)

theorem deadline?_restart (serves : timers.Serves (others ++ announcer.owners))
    (member : other ∈ others) (now : Int) :
    (announcer.restart timers now).timers.deadline? other.1 = timers.deadline? other.1 :=
  ((serves_cancel serves).deadline?_arm_of_mem member now _ _).trans
    (deadline?_cancel serves member)

theorem deadline?_onSent (serves : timers.Serves others) (member : other ∈ others)
    (now : Int) :
    (announcer.onSent timers now).timers.deadline? other.1 = timers.deadline? other.1 := by
  rw [onSent]
  split
  · rfl
  · exact serves.deadline?_arm_of_mem member now _ _

end Announcer

namespace Server

variable {β σ : Type} {server : Server β σ} {mapping : Mapping} {deadline : Int}

/-- A server has a mapping in force until a deadline. -/
def Holds (server : Server β σ) (mapping : Mapping) (deadline : Int) : Prop :=
  server.table.Holds server.timers mapping deadline

/-- Only one mapping serves an endpoint, and only until one deadline. -/
theorem Consistent.eq_of_holds (consistent : server.Consistent) {other : Mapping}
    {otherDeadline : Int} (holds : server.Holds mapping deadline)
    (otherHolds : server.Holds other otherDeadline) (same : mapping.key = other.key) :
    mapping = other ∧ deadline = otherDeadline := by
  have equal := consistent.table.eq_of_key_eq holds.1 otherHolds.1 same
  refine ⟨equal, ?_⟩
  have pending := holds.2
  rw [equal, otherHolds.2] at pending
  exact (Option.some.inj pending).symm

theorem Consistent.holds_moveTo (consistent : server.Consistent) (current : Ipv4)
    (now : Int) :
    (server.moveTo current now).Holds mapping deadline ↔ server.Holds mapping deadline := by
  apply Table.holds_congr
  intro mapping member
  have owned : mapping.owner ∈ server.table.owners := List.mem_map_of_mem member
  have stopped := Announcer.deadline?_cancel consistent.timers owned
  simp only [Server.moveTo]
  split
  · exact stopped
  · refine (Announcer.deadline?_restart ?_ owned now).trans stopped
    rw [Announcer.owners_cancel, List.append_nil]
    exact Announcer.serves_cancel consistent.timers

theorem Consistent.holds_checkInterface [AddressSource σ] (consistent : server.Consistent)
    (now : Int) :
    (server.checkInterface now).value.server.Holds mapping deadline ↔
      server.Holds mapping deadline := by
  rcases server_checkInterface server now with ⟨monitor, same | ⟨current, same⟩⟩
  · rw [same]
    rfl
  · rw [same]
    have asked : ({ server with monitor } : Server β σ).Consistent :=
      consistent.congr rfl rfl rfl
    exact asked.holds_moveTo current now

/-- A mapping request touches the mappings it names and no others. -/
theorem Consistent.holds_decideMapping (consistent : server.Consistent)
    {request : MappingRequest} {client : Ipv4}
    (unnamed : mapping.leadsTo request.transport client request.internalPort = false)
    (now : Int) :
    (server.decideMapping request client now).value.server.Holds mapping deadline ↔
      server.Holds mapping deadline := by
  cases deletes : request.deletes with
  | true =>
      rw [decideMapping_of_deletes server client now deletes]
      exact (Table.holds_remove consistent.timers).trans (and_iff_left unnamed)
  | false =>
      cases known : server.gateway.hasExternalAddress with
      | true =>
          rw [decideMapping_of_grants server client now deletes known]
          apply Table.holds_grant_of_key_ne consistent.table consistent.timers
          intro same
          have named : mapping.leadsTo request.transport client request.internalPort = true :=
            (Mapping.leadsTo_iff_of_key_eq same).mpr ⟨rfl, rfl, .inr rfl⟩
          rw [unnamed] at named
          contradiction
      | false => rw [decideMapping_of_refuses server client now deletes known]

/-- A granted mapping is in force, at the port that the client is told, until its lifetime
has passed. -/
theorem Consistent.exists_holds_decideMapping (consistent : server.Consistent)
    {request : MappingRequest} {client : Ipv4} {now : Int} (asks : request.deletes = false)
    (known : server.gateway.hasExternalAddress = true) :
    ∃ mapping,
      (server.decideMapping request client now).value.server.Holds mapping
          (now + request.duration) ∧
        mapping.key = (request.transport, request.internal client) ∧
        mapping.external.port = (server.decideMapping request client now).value.externalPort := by
  rw [decideMapping_of_grants server client now asks known]
  exact Table.exists_holds_grant consistent.table consistent.timers

section Handlers

variable [Backend β] {now : Int}

/-- Rebuilding the rules after a request ends no mapping. -/
theorem holds_handleMapping (server : Server β σ) (request : MappingRequest) (client : Ipv4)
    (now : Int) :
    (server.handleMapping request client now).value.server.Holds mapping deadline ↔
      (server.decideMapping request client now).value.server.Holds mapping deadline := by
  rcases exists_rules_handleMapping server request client now with ⟨rules, handled⟩
  rw [handled]
  rfl

theorem Consistent.holds_handleDatagram (consistent : server.Consistent)
    {datagram : Octets} {peer : Endpoint}
    (unnamed : ∀ request client, mappingRequest? datagram peer = some (request, client) →
      mapping.leadsTo request.transport client request.internalPort = false) (now : Int) :
    (server.handleDatagram datagram peer now).value.server.Holds mapping deadline ↔
      server.Holds mapping deadline := by
  cases served : mappingRequest? datagram peer with
  | none => rw [server_handleDatagram_of_none server now served]
  | some asked =>
      rcases asked with ⟨request, client⟩
      rw [handleDatagram_of_some server now served]
      exact (holds_handleMapping server request client now).trans
        (consistent.holds_decideMapping (unnamed request client served) now)

/-- A timer that fires ends the mapping it belongs to and no other. -/
theorem Consistent.holds_afterTimer (consistent : server.Consistent)
    {fired : TimerQueue.Fired TimerEvent} (popped : server.timers.popDue now = some fired) :
    (server.afterTimer fired now).server.Holds mapping deadline ↔
      server.Holds mapping deadline ∧ fired.event ≠ .expire mapping.id := by
  cases event : fired.event with
  | expire id =>
      rcases consistent.exists_mapping_of_popDue popped event with ⟨gone, goneMember, _, rfl⟩
      rw [afterTimer_expire server event (consistent.table.expired_eq goneMember)]
      refine (Table.holds_expire consistent.table consistent.timers
        (fun _ => Announcer.mem_owners) popped event).trans ?_
      simp [Holds, eq_comm]
  | announce =>
      have serves := serves_of_announce consistent popped event
      rw [afterTimer_announce server event]
      refine Iff.trans ?_ (and_iff_left nofun).symm
      apply Table.holds_congr
      intro mapping member
      have owned : mapping.owner ∈ server.table.owners := List.mem_map_of_mem member
      -- The queue still serves the mapping, so its timer is not the one that fired.
      rcases serves.exists_deadline owned with ⟨pending, stillPending⟩
      rw [consistent.timers.wellFormed.deadline?_popDue popped] at stillPending
      have apart : mapping.owner.1 ≠ fired.timer := by
        intro same
        rw [if_pos same] at stillPending
        contradiction
      refine (Announcer.deadline?_onSent serves owned now).trans ?_
      rw [consistent.timers.wellFormed.deadline?_popDue popped]
      exact if_neg apart

/-- Firing ends just the mappings whose deadlines have passed. -/
theorem Consistent.holds_fireTimers (consistent : server.Consistent) (now : Int) :
    (server.fireTimers now).value.server.Holds mapping deadline ↔
      server.Holds mapping deadline ∧ now < deadline := by
  revert consistent
  refine firing_induction now ?done ?next server
  case done =>
    intro server idle consistent
    rw [fireTimers_of_none idle]
    apply (and_iff_left_of_imp _).symm
    intro holds
    exact consistent.timers.wellFormed.lt_deadline_of_popDue_none idle holds.2
  case next =>
    intro server fired popped ih consistent
    rw [fireTimers_of_some popped]
    refine (ih (consistent.afterTimer popped)).trans ?_
    rw [consistent.holds_afterTimer popped, and_assoc]
    apply and_congr_right
    intro holds
    apply and_iff_right_of_imp
    -- A mapping that is not yet due does not own the timer that fires.
    intro early event
    rcases consistent.exists_mapping_of_popDue popped event with
      ⟨due, dueMember, timerSame, idSame⟩
    rw [consistent.table.eq_of_id_eq dueMember holds.1 idSame] at timerSame
    have pending := holds.2
    rw [timerSame] at pending
    have late := consistent.timers.wellFormed.deadline_le_of_popDue popped pending
    exact Int.not_lt.mpr late early

end Handlers

end Server

/-! ## From a grant to its deadline -/

section Runs

variable {β σ : Type} {transport : Transport} {client : Ipv4} {port : UInt16}
variable {mapping : Mapping} {deadline : Int}

/-- A step that leaves a port of a client alone until a deadline: no request of the client
names the port or all of them, no timers are fired at the deadline or later, and the server
is not shut down. -/
def Step.Spares (transport : Transport) (client : Ipv4) (port : UInt16) (deadline : Int) :
    Step β σ → Prop
  | .call (.datagram datagram peer _) =>
      ∀ request, mappingRequest? datagram peer = some (request, client) →
        request.transport = transport →
          request.internalPort ≠ port ∧ request.internalPort ≠ 0
  | .call (.fireTimers now) => now < deadline
  | .call .shutdown => False
  | _ => True

theorem Step.Spares.leadsTo_eq_false {datagram : Octets} {peer : Endpoint} {now : Int}
    (spares : Spares transport client port deadline
      (.call (.datagram datagram peer now) : Step β σ))
    (key : mapping.key = (transport, ⟨client, port⟩)) (request : MappingRequest)
    (asking : Ipv4) (served : mappingRequest? datagram peer = some (request, asking)) :
    mapping.leadsTo request.transport asking request.internalPort = false := by
  rw [Bool.eq_false_iff]
  intro named
  rcases (Mapping.leadsTo_iff_of_key_eq key).mp named with ⟨rfl, rfl, portSame⟩
  have unnamed := spares request served rfl
  rcases portSame with wildcard | same
  · exact unnamed.2 wildcard
  · exact unnamed.1 same.symm

namespace Server

variable [Backend β] {server : Server β σ}

/-- Only while an external address is known is a request answered with success. -/
theorem hasExternalAddress_of_success (server : Server β σ) {request : MappingRequest}
    {now : Int}
    (success : (server.handleMapping request client now).value.result.result = .success) :
    server.gateway.hasExternalAddress = true := by
  rw [result_handleMapping] at success
  cases known : server.gateway.hasExternalAddress with
  | true => rfl
  | false => simp [availability, known] at success

/-- A request that is answered with success has its mapping in force, at the port that the
answer names, until its lifetime has passed. -/
theorem Consistent.exists_holds_of_success (consistent : server.Consistent)
    {datagram : Octets} {peer : Endpoint} {request : MappingRequest}
    (served : mappingRequest? datagram peer = some (request, client))
    (asks : request.deletes = false) {now : Int} {reply : Octets} {response : MappingResponse}
    (answered : (server.handleDatagram datagram peer now).value.result = some reply)
    (read : MappingResponse.parse reply = .ok response) (success : response.result = .success) :
    ∃ mapping,
      (server.handleDatagram datagram peer now).value.server.Holds mapping
          (now + request.duration) ∧
        mapping.key = (request.transport, request.internal client) ∧
        mapping.external.port = response.externalPort := by
  rw [handleDatagram_of_some server now served] at answered ⊢
  rw [← Option.some.inj answered, MappingResponse.parse_encode] at read
  rw [← Except.ok.inj read] at success ⊢
  have known := hasExternalAddress_of_success server success
  rcases consistent.exists_holds_decideMapping asks known with ⟨mapping, holds, key, port⟩
  rw [result_handleMapping]
  exact ⟨mapping, (holds_handleMapping server request client now).mpr holds, key, port⟩

/-- Firing at the deadline or later leaves no mapping for the endpoint. -/
theorem Consistent.get?_fireTimers_eq_none (consistent : server.Consistent)
    {internal : Endpoint4} (holds : server.Holds mapping deadline)
    (key : mapping.key = (transport, internal)) {now : Int} (late : deadline ≤ now) :
    (server.fireTimers now).value.server.table.get? transport internal = none := by
  cases found : (server.fireTimers now).value.server.table.get? transport internal with
  | none => rfl
  | some other =>
      rcases Table.mem_of_get?_eq_some found with ⟨member, otherKey⟩
      rcases Table.exists_holds (consistent.fireTimers now).timers member with
        ⟨otherDeadline, stillHolds⟩
      rcases (consistent.holds_fireTimers now).mp stillHolds with ⟨otherHolds, early⟩
      have same := consistent.eq_of_holds holds otherHolds (key.trans otherKey.symm)
      exact (Int.not_lt.mpr late (same.2 ▸ early)).elim

variable [AddressSource σ]

/-- A step that spares a mapping keeps it in force. -/
theorem Consistent.holds_step (consistent : server.Consistent)
    (key : mapping.key = (transport, ⟨client, port⟩)) {step : Step β σ}
    (spares : step.Spares transport client port deadline)
    (holds : server.Holds mapping deadline) : (server.step step).Holds mapping deadline := by
  cases step with
  | filter change => exact holds
  | addresses change => exact holds
  | call call =>
      cases call with
      | start =>
          rcases server_respond_start server with ⟨rules, same⟩
          rw [Server.step, same]
          exact holds
      | datagram datagram peer now =>
          exact (consistent.holds_handleDatagram (spares.leadsTo_eq_false key) now).mpr holds
      | interfaceEvent event now =>
          rcases server_respond_interfaceEvent server event now with same | same
          · rw [Server.step, same]
            exact holds
          · rw [Server.step, same]
            exact (consistent.holds_checkInterface now).mpr holds
      | checkInterface now => exact (consistent.holds_checkInterface now).mpr holds
      | fireTimers now => exact (consistent.holds_fireTimers now).mpr ⟨holds, spares⟩
      | shutdown => exact spares.elim

theorem Consistent.holds_run (consistent : server.Consistent)
    (key : mapping.key = (transport, ⟨client, port⟩)) {steps : List (Step β σ)}
    (spares : ∀ step ∈ steps, step.Spares transport client port deadline)
    (holds : server.Holds mapping deadline) :
    (server.run steps).Consistent ∧ (server.run steps).Holds mapping deadline := by
  have kept : ∀ server : Server β σ, ∀ step ∈ steps,
      server.Consistent ∧ server.Holds mapping deadline →
        (server.step step).Consistent ∧ (server.step step).Holds mapping deadline := by
    intro server step member before
    exact ⟨before.1.step step, before.1.holds_step key (spares step member) before.2⟩
  exact run_invariant kept ⟨consistent, holds⟩

/-- A request answered with success is honoured exactly.  However the run goes on, as long
as it spares the client's port, the mapping that was granted stays, at the port that the
answer names, and firing timers at its deadline or later removes it. -/
theorem mapping_lasts_until_deadline (reachable : server.Reachable) {datagram : Octets}
    {peer : Endpoint} {request : MappingRequest}
    (served : mappingRequest? datagram peer = some (request, client))
    (port : request.internalPort ≠ 0) (lifetime : request.lifetime ≠ 0) {now : Int}
    {reply : Octets} {response : MappingResponse}
    (answered : (server.handleDatagram datagram peer now).value.result = some reply)
    (read : MappingResponse.parse reply = .ok response) (success : response.result = .success)
    {steps : List (Step β σ)}
    (spares : ∀ step ∈ steps, step.Spares request.transport client request.internalPort
      (now + request.duration)) :
    let granted := (server.handleDatagram datagram peer now).value.server
    let later := granted.run steps
    ∃ mapping,
      mapping.external.port = response.externalPort ∧
        granted.table.get? request.transport (request.internal client) = some mapping ∧
        later.table.get? request.transport (request.internal client) = some mapping ∧
        ∀ instant, now + request.duration ≤ instant →
          (later.fireTimers instant).value.server.table.get? request.transport
            (request.internal client) = none := by
  intro granted later
  have asks : request.deletes = false := by
    simp [MappingRequest.deletes, port, lifetime]
  rcases reachable.consistent.exists_holds_of_success served asks answered read success with
    ⟨mapping, holds, key, external⟩
  have consistent := reachable.consistent.handleDatagram datagram peer now
  rcases consistent.holds_run key spares holds with ⟨laterConsistent, laterHolds⟩
  refine ⟨mapping, external, ?_, ?_, ?_⟩
  · exact consistent.table.get?_eq_some_iff.mpr ⟨holds.1, key⟩
  · exact laterConsistent.table.get?_eq_some_iff.mpr ⟨laterHolds.1, key⟩
  · intro instant late
    exact laterConsistent.get?_fireTimers_eq_none laterHolds key late

/-- A server that has granted a client a port for ten seconds. -/
def grantedBriefly : Server MemoryFilter AddressTable :=
  atOneInterface.run
    [.call (.checkInterface 0), .call (.ask ⟨10, 0, 0, 5⟩ ⟨.tcp, 80, 0, 10⟩ 0)]

/-- Timers are fired, another client deletes its mappings, and the server is restarted. -/
def nextMinute : List (Step MemoryFilter AddressTable) :=
  [.call (.fireTimers (seconds 20)),
    .call (.ask ⟨10, 0, 0, 6⟩ ⟨.tcp, 0, 0, 0⟩ (milliseconds 500)), .call .start,
    .call (.fireTimers (seconds 61 - 1))]

/-- Renewed for a minute, the mapping outlives the ten seconds it was granted before. -/
theorem mapping_lasts_nextMinute :
    let client : Endpoint4 := ⟨⟨10, 0, 0, 5⟩, clientPort⟩
    let asked := MappingRequest.encode ⟨.tcp, 80, 0, 60⟩
    let renewed := (grantedBriefly.handleDatagram asked (.v4 client) (seconds 1)).value
    let later := renewed.server.run nextMinute
    grantedBriefly.Reachable ∧
      mappingRequest? asked (.v4 client) = some (⟨.tcp, 80, 0, 60⟩, client.address) ∧
      (∀ step ∈ nextMinute, step.Spares .tcp client.address 80 (seconds 61)) ∧
      ∃ reply response mapping,
        renewed.result = some reply ∧ MappingResponse.parse reply = .ok response ∧
          response.result = .success ∧ response.externalPort = 50000 ∧
          mapping.external.port = 50000 ∧
          later.table.get? .tcp ⟨client.address, 80⟩ = some mapping ∧
          (later.fireTimers (seconds 61)).value.server.table.get? .tcp ⟨client.address, 80⟩ =
            none := by
  have reachable : grantedBriefly.Reachable := reachable_atOneInterface.run _
  have served := mappingRequest?_encode ⟨.tcp, 80, 0, 60⟩ ⟨⟨10, 0, 0, 5⟩, clientPort⟩
  have answered :=
    congrArg Handled.result (handleDatagram_of_some grantedBriefly (seconds 1) served)
  have read := MappingResponse.parse_encode
    (grantedBriefly.handleMapping ⟨.tcp, 80, 0, 60⟩ ⟨10, 0, 0, 5⟩ (seconds 1)).value.result
  have spares : ∀ step ∈ nextMinute, step.Spares .tcp ⟨10, 0, 0, 5⟩ 80 (seconds 61) := by
    simp only [nextMinute, List.forall_mem_cons]
    refine ⟨?_, ?_, trivial, ?_, nofun⟩
    · exact (by decide : (seconds 20 : Int) < seconds 61)
    · intro request fromClient
      have other := mappingRequest?_encode ⟨.tcp, 0, 0, 0⟩ ⟨⟨10, 0, 0, 6⟩, clientPort⟩
      have sameClient := (Prod.mk.inj (Option.some.inj (other.symm.trans fromClient))).2
      exact absurd sameClient (by decide)
    · exact (by decide : (seconds 61 - 1 : Int) < seconds 61)
  rcases mapping_lasts_until_deadline reachable served (by decide) (by decide) answered read rfl
    spares with ⟨mapping, port, _, found, removed⟩
  exact ⟨reachable, served, spares, _, _, mapping, answered, read, rfl, rfl, port, found,
    removed (seconds 61) (by decide)⟩

end Server

end Runs

end PortMapping
