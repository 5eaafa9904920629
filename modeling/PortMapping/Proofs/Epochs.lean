import PortMapping.Proofs.Announcements
import PortMapping.Proofs.RequestGrammar

/-!
# The epoch that clients are told

Clients take an epoch that goes back for a restart that lost their mappings.  Replies and
announcements come in three formats, and each but the echo of an unknown request tells the
seconds since the start in the four octets from position four on.  The start is never changed,
so what is told depends on the instant alone, and over a clock that does not go back neither
does the epoch.
-/

namespace PortMapping

/-- A packet tells the whole seconds between the start and an instant, none before the start
and no more than fit. -/
structure Octets.TellsUptime (packet : Octets) (startTime now : Int) : Prop where
  headed : 8 ≤ packet.length
  epoch : ((packet.at32 4).toNat : Int) = min (max (now - startTime) 0 / 1000000000) 4294967295

/-- What is told later is no less. -/
theorem Octets.TellsUptime.le {earlier later : Octets} {startTime before after : Int}
    (tellsFirst : earlier.TellsUptime startTime before)
    (tellsSecond : later.TellsUptime startTime after) (forward : before ≤ after) :
    earlier.at32 4 ≤ later.at32 4 := by
  have first := tellsFirst.epoch
  have second := tellsSecond.epoch
  have seconds : max (before - startTime) 0 / 1000000000 ≤
      max (after - startTime) 0 / 1000000000 :=
    Int.ediv_le_ediv (by decide) (by omega)
  rw [UInt32.le_iff_toNat_le]
  omega

theorem Gateway.toNat_epoch (gateway : Gateway) (now : Int) :
    ((gateway.epoch now).toNat : Int) =
      min (max (now - gateway.startTime) 0 / 1000000000) 4294967295 := by
  rw [epoch, UInt32.toNat_ofNat', lastEpoch]
  omega

/-! ## The formats -/

section Formats

variable {gateway : Gateway} {now : Int}

/-- A packet with the epoch in its place tells the uptime. -/
theorem Octets.tellsUptime_of_epoch {packet : Octets} (headed : 8 ≤ packet.length)
    (placed : packet.at32 4 = gateway.epoch now) :
    packet.TellsUptime gateway.startTime now :=
  ⟨headed, by rw [placed, gateway.toNat_epoch]⟩

theorem AddressResponse.tellsUptime_encode {response : AddressResponse}
    (current : response.epoch = gateway.epoch now) :
    response.encode.TellsUptime gateway.startTime now := by
  refine Octets.tellsUptime_of_epoch (Nat.le_add_left 8 4) ?_
  rw [← current]
  exact Octets.join32_split response.epoch

theorem MappingResponse.tellsUptime_encode {response : MappingResponse}
    (current : response.epoch = gateway.epoch now) :
    response.encode.TellsUptime gateway.startTime now := by
  refine Octets.tellsUptime_of_epoch (by simp [encode]) ?_
  rw [← current]
  exact Octets.join32_split response.epoch

theorem tellsUptime_versionRefusal :
    (versionRefusal (gateway.epoch now)).TellsUptime gateway.startTime now :=
  Octets.tellsUptime_of_epoch (by simp [versionRefusal]) (Octets.join32_split _)

end Formats

/-! ## The packets of a call -/

/-- The packets in an answer. -/
def Answer.packets : Answer → List Octets
  | .reply octets => octets.toList
  | .announcements sent => sent
  | .outcome _ | .change _ => []

namespace Call

/-- The instant of a call, where it has one. -/
def instant? : Call → Option Int
  | .datagram _ _ now | .interfaceEvent _ now | .checkInterface now | .fireTimers now => some now
  | .start | .shutdown => none

/-- Whether a call hands in a request of an unknown operation, which is echoed. -/
def isEchoed : Call → Bool
  | .datagram asked _ _ => asked.at8 0 = mappingVersion && 3 ≤ asked.at8 1
  | _ => false

end Call

/-- The instant of a step, where it has one. -/
def Step.instant? {β σ : Type} : Step β σ → Option Int
  | .call made => made.instant?
  | .filter _ | .addresses _ => none

namespace Server

variable {β σ : Type} [Backend β] {server : Server β σ} {now : Int}

/-- Each reply but an echo tells the uptime. -/
theorem Handling.tellsUptime {datagram : Octets} {peer : Endpoint}
    {handled : Handled β σ (Option Octets)}
    (handling : Handling server datagram now peer handled)
    (known : (Call.datagram datagram peer now).isEchoed = false) {reply : Octets}
    (replied : handled.result = some reply) :
    reply.TellsUptime server.gateway.startTime now := by
  cases handling with
  | unreadable => cases replied
  | passedOver => cases replied
  | refused =>
      cases replied
      exact tellsUptime_versionRefusal
  | address =>
      cases replied
      exact AddressResponse.tellsUptime_encode rfl
  | mapping _ _ _ _ _ served =>
      cases replied
      apply MappingResponse.tellsUptime_encode
      rw [served, result_handleMapping]
  | unknown readable version opcode =>
      have echoed := Operation.three_le_of_unknown opcode
      simp [Call.isEchoed, version, mappingVersion, echoed] at known

variable [AddressSource σ]

/-- The packets that a step sends, each with the instant of the call, but for the echoes of
unknown requests. -/
def emitted (server : Server β σ) : Step β σ → List (Int × Octets)
  | .call call =>
      if call.isEchoed then []
      else call.instant?.toList.flatMap fun now =>
        (server.respond call).result.packets.map fun packet => (now, packet)
  | .filter _ | .addresses _ => []

/-- The packets that a run sends, in order. -/
def emissions (server : Server β σ) : List (Step β σ) → List (Int × Octets)
  | [] => []
  | first :: rest => server.emitted first ++ (server.step first).emissions rest

theorem emissions_append (server : Server β σ) (first second : List (Step β σ)) :
    server.emissions (first ++ second) =
      server.emissions first ++ (server.run first).emissions second := by
  induction first generalizing server with
  | nil => rfl
  | cons step rest ih =>
      rw [List.cons_append, emissions, ih, emissions, run_cons, List.append_assoc]

/-- Firing timers sends what it announces. -/
theorem emitted_fireTimers (server : Server β σ) (now : Int) :
    server.emitted (.call (.fireTimers now)) =
      (server.fireTimers now).value.result.map fun packet => (now, packet) := by
  simp [emitted, Call.isEchoed, Call.instant?, respond, Handled.answer, Answer.packets]

/-- Whatever a step sends tells the uptime at the instant of the call. -/
theorem tellsUptime_of_mem_emitted {step : Step β σ} {instant : Int} {packet : Octets}
    (member : (instant, packet) ∈ server.emitted step) :
    step.instant? = some instant ∧
      packet.TellsUptime server.gateway.startTime instant := by
  cases step with
  | filter | addresses => cases member
  | call call =>
      rw [emitted] at member
      split at member
      · cases member
      next known =>
        rcases List.mem_flatMap.mp member with ⟨now, called, sent⟩
        rcases List.mem_map.mp sent with ⟨octets, among, same⟩
        cases same
        refine ⟨Option.mem_toList.mp called, ?_⟩
        cases call with
        | start | shutdown => cases called
        | interfaceEvent | checkInterface => cases among
        | datagram datagram peer now =>
            cases Option.mem_toList.mp called
            have replied := Option.mem_toList.mp among
            have handling := handling_handleDatagram server datagram peer instant
            exact handling.tellsUptime (Bool.eq_false_iff.mpr known) replied
        | fireTimers now =>
            cases Option.mem_toList.mp called
            rw [eq_announcement_of_mem_fireTimers among]
            exact AddressResponse.tellsUptime_encode rfl

/-- No step changes when the gateway was started. -/
theorem startTime_step (server : Server β σ) (step : Step β σ) :
    (server.step step).gateway.startTime = server.gateway.startTime := by
  have checked : ∀ now, (server.checkInterface now).value.server.gateway.startTime =
      server.gateway.startTime := by
    intro now
    rcases server_checkInterface server now with ⟨monitor, same | ⟨current, same⟩⟩
    · rw [same]
    · rw [same]
      rfl
  cases step with
  | filter change => rfl
  | addresses change => rfl
  | call call =>
      cases call with
      | start =>
          rcases server_respond_start server with ⟨rules, same⟩
          rw [step, same]
      | datagram datagram peer now =>
          rcases server_handleDatagram server datagram peer now with
            ⟨table, timers, rules, same⟩
          rw [step, respond, Handled.answer, same]
      | interfaceEvent event now =>
          rcases server_respond_interfaceEvent server event now with same | same
          · rw [step, same]
          · rw [step, same]
            exact checked now
      | checkInterface now => exact checked now
      | fireTimers now => exact congrArg Gateway.startTime (gateway_fireTimers server now)
      | shutdown => rfl

/-- Whatever a run sends tells the uptime, at an instant of one of its calls. -/
theorem tellsUptime_of_mem_emissions {steps : List (Step β σ)} {instant : Int}
    {packet : Octets} (member : (instant, packet) ∈ server.emissions steps) :
    instant ∈ steps.filterMap Step.instant? ∧
      packet.TellsUptime server.gateway.startTime instant := by
  induction steps generalizing server with
  | nil => cases member
  | cons first rest ih =>
      rcases List.mem_append.mp member with now | later
      · rcases tellsUptime_of_mem_emitted now with ⟨called, tells⟩
        rw [List.filterMap_cons, called]
        exact ⟨List.mem_cons_self, tells⟩
      · rcases ih later with ⟨called, tells⟩
        rw [startTime_step] at tells
        refine ⟨?_, tells⟩
        rw [List.filterMap_cons]
        split
        · exact called
        · exact List.mem_cons_of_mem _ called

/-- Where the clock does not go back, packets are sent in the order of their instants. -/
theorem emissions_ordered {steps : List (Step β σ)}
    (forward : (steps.filterMap Step.instant?).Pairwise (· ≤ ·)) :
    (server.emissions steps).Pairwise fun earlier later => earlier.1 ≤ later.1 := by
  induction steps generalizing server with
  | nil => exact .nil
  | cons first rest ih =>
      rw [List.filterMap_cons] at forward
      cases called : first.instant? with
      | none =>
          rw [called] at forward
          have silent : server.emitted first = [] := by
            apply List.eq_nil_iff_forall_not_mem.mpr
            intro ⟨instant, packet⟩ member
            have sent := (tellsUptime_of_mem_emitted member).1
            rw [called] at sent
            contradiction
          rw [emissions, silent, List.nil_append]
          exact ih forward
      | some now =>
          rw [called] at forward
          rcases List.pairwise_cons.mp forward with ⟨beforeRest, restForward⟩
          have atOnce : ∀ emission ∈ server.emitted first, emission.1 = now := by
            intro ⟨instant, packet⟩ member
            have sent := (tellsUptime_of_mem_emitted member).1
            rw [called] at sent
            exact (Option.some.inj sent).symm
          rw [emissions, List.pairwise_append]
          refine ⟨?_, ih restForward, ?_⟩
          · apply List.pairwise_of_forall_mem_list
            intro earlier earlierMember later laterMember
            exact Int.le_of_eq
              ((atOnce earlier earlierMember).trans (atOnce later laterMember).symm)
          · intro earlier earlierMember later laterMember
            rw [atOnce earlier earlierMember]
            exact beforeRest _ (tellsUptime_of_mem_emissions laterMember).1

/-- Whatever the server and its start, and however its handlers are called as long as the
clock does not go back: every packet sent, but for the echoes of unknown requests, tells the
whole seconds between the start and its call, and none tells less than one before. -/
theorem epochs_of_run (server : Server β σ) {steps : List (Step β σ)}
    (forward : (steps.filterMap Step.instant?).Pairwise (· ≤ ·)) :
    (∀ emission ∈ server.emissions steps,
      emission.2.TellsUptime server.gateway.startTime emission.1) ∧
      ((server.emissions steps).map fun emission => emission.2.at32 4).Pairwise (· ≤ ·) := by
  have tells : ∀ emission ∈ server.emissions steps,
      emission.2.TellsUptime server.gateway.startTime emission.1 := fun _ member =>
    (tellsUptime_of_mem_emissions member).2
  refine ⟨tells, List.pairwise_map.mpr ?_⟩
  apply (emissions_ordered forward).imp_of_mem
  intro earlier later earlierMember laterMember inOrder
  exact (tells earlier earlierMember).le (tells later laterMember) inOrder

/-- A request before the start, one in its second second, and one of an unknown operation,
with an address found in between. -/
def earlyRequests : List (Step MemoryFilter AddressTable) :=
  [.call (.datagram [2, 0] (.v4 ⟨⟨10, 0, 0, 5⟩, clientPort⟩) (-seconds 1)),
    .call (.checkInterface (seconds 1)),
    .call (.datagram [0, 0] (.v4 ⟨⟨10, 0, 0, 5⟩, clientPort⟩) (seconds 2 - 1)),
    .call (.datagram [0, 9] (.v4 ⟨⟨10, 0, 0, 5⟩, clientPort⟩) (seconds 2 - 1)),
    .call (.ask ⟨10, 0, 0, 5⟩ ⟨.tcp, 80, 0, 10⟩ (seconds 2))]

/-- The epoch is nothing before the start and stops where it no longer fits, when the address
is announced very late. -/
theorem epochs_of_earlyRequests :
    let steps := earlyRequests ++ [.call (.fireTimers (seconds 5000000000)), .call .shutdown]
    let epochs := (atOneInterface.emissions steps).map fun emission => emission.2.at32 4
    (steps.filterMap Step.instant?).Pairwise (· ≤ ·) ∧
      epochs = [0, 1, 2, 4294967295] ∧ epochs.Pairwise (· ≤ ·) := by
  intro steps epochs
  have forward : (steps.filterMap Step.instant?).Pairwise (· ≤ ·) := by decide
  refine ⟨forward, ?_, (epochs_of_run atOneInterface forward).2⟩
  have reachable : (atOneInterface.run earlyRequests).Reachable := reachable_atOneInterface.run _
  have planned : (atOneInterface.run earlyRequests).planned? = some (.first (seconds 1)) := rfl
  have announced := (reachable.consistent.fireTimers_of_due planned
    (by decide : (seconds 1 : Int) ≤ seconds 5000000000)).1
  have sent : (atOneInterface.run earlyRequests).emissions
      [.call (.fireTimers (seconds 5000000000)), .call .shutdown] =
        [((seconds 5000000000 : Int),
          (atOneInterface.run earlyRequests).announcement (seconds 5000000000))] := by
    rw [emissions, emitted_fireTimers, announced]
    rfl
  change (atOneInterface.emissions _).map _ = _
  rw [emissions_append, sent]
  rfl

end Server

end PortMapping
