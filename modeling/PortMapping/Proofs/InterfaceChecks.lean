import PortMapping.Proofs.AddressInquiries
import PortMapping.Proofs.FilterIndependence

/-!
# Checks of the followed interface

A check of the interface either moves the server to the address it found or leaves all of it
as it was.  A move drops what was still to be announced, begins a new burst if there is an
address to announce, and touches no timer that ends a mapping.  Since the feed reports more
events than there are changes, runs are compared with and without the events that tell nothing
new: neither what the server answers nor where it ends up depends on them.
-/

namespace PortMapping

/-- What happens in a run that calls were inserted into: a step of the run itself, or an
inserted call. -/
inductive Occurrence (β σ : Type) where
  | own (step : Step β σ)
  | inserted (call : Call)

namespace Occurrence

variable {β σ : Type}

/-- What happens, as a step. -/
def step : Occurrence β σ → Step β σ
  | .own step => step
  | .inserted call => .call call

/-- The step of the run itself, if it is one. -/
def own? : Occurrence β σ → Option (Step β σ)
  | .own step => some step
  | .inserted _ => none

end Occurrence

/-- A source that is left as it is by a question it answers. -/
def AddressSource.Steady (σ : Type) [AddressSource σ] : Prop :=
  ∀ (source : σ) interface addresses, (query source interface).outcome = .ok addresses →
    (query source interface).source = source

theorem AddressTable.steady : AddressSource.Steady AddressTable := by
  intro table interface addresses answered
  simp only [AddressSource.query] at answered ⊢
  split at answered
  · contradiction
  · rfl

/-! ## Timers that end mappings, and timers that announce -/

namespace TimerQueue

variable {timers : TimerQueue TimerEvent} {owners : List (TimerId × TimerEvent)}

/-- The pending timers that end mappings, in schedule order. -/
def expiring (timers : TimerQueue TimerEvent) : List (PendingTimer TimerEvent) :=
  timers.schedule.filter fun pending => pending.event ≠ .announce

/-- The pending timers that announce, in schedule order. -/
def announcing (timers : TimerQueue TimerEvent) : List (PendingTimer TimerEvent) :=
  timers.schedule.filter fun pending => pending.event = .announce

theorem announcing_eq_nil (serves : timers.Serves owners)
    (expiries : ∀ owner ∈ owners, owner.2 ≠ .announce) : timers.announcing = [] := by
  rw [announcing, List.filter_eq_nil_iff]
  intro pending scheduled announces
  have owned := serves.owned.mem_iff.mp (List.mem_map_of_mem scheduled)
  exact expiries _ owned (of_decide_eq_true announces)

theorem expiring_arm (timers : TimerQueue TimerEvent) (now : Int) (delay : Nat) :
    (timers.arm now delay .announce).queue.expiring = timers.expiring :=
  PendingTimer.filter_place_of_neg (by simp) _

theorem announcing_arm (silent : timers.announcing = []) (now : Int) (delay : Nat) :
    (timers.arm now delay .announce).queue.announcing =
      [⟨now + delay, (timers.arm now delay .announce).timer, .announce⟩] := by
  have placed := (schedule_arm_perm timers now delay .announce).filter
    fun pending => decide (pending.event = .announce)
  rw [List.filter_cons_of_pos (by simp)] at placed
  change (timers.arm now delay .announce).queue.announcing.Perm (_ :: timers.announcing) at placed
  rw [silent] at placed
  exact List.perm_singleton.mp placed

end TimerQueue

namespace Announcer

variable {timers : TimerQueue TimerEvent} {announcer : Announcer}
variable {others : List (TimerId × TimerEvent)}

/-- Cancelling takes away the announcer's own timer, which ends no mapping. -/
theorem expiring_cancel (serves : timers.Serves (others ++ announcer.owners)) :
    (announcer.cancel timers).timers.expiring = timers.expiring := by
  rw [cancel]
  cases pending : announcer.pending with
  | none => rfl
  | some timer =>
      have owned : (timer, TimerEvent.announce) ∈ others ++ announcer.owners := by
        simp [owners, pending]
      rcases List.mem_map.mp (serves.owned.mem_iff.mpr owned) with ⟨own, scheduled, same⟩
      rcases Prod.mk.inj same with ⟨rfl, announces⟩
      simp only [serves.wellFormed.cancel_eq, TimerQueue.expiring, TimerQueue.without,
        List.filter_filter]
      apply List.filter_congr
      intro other otherScheduled
      by_cases isOwn : other.timer = own.timer
      · have equal := serves.wellFormed.eq_of_timer_eq otherScheduled scheduled isOwn
        simp [equal, announces]
      · simp [isOwn]

/-- Nothing is left to cancel once the announcer was cancelled. -/
theorem cancel_cancel (announcer : Announcer) (timers : TimerQueue TimerEvent) :
    (announcer.cancel timers).announcer.cancel (announcer.cancel timers).timers =
      announcer.cancel timers := by
  cases pending : announcer.pending with
  | none => simp only [cancel, pending]
  | some timer => simp only [cancel, pending]

end Announcer

namespace Server

variable {β σ : Type} {server : Server β σ}

/-! ## Moving to another address -/

theorem moveTo_unspecified (server : Server β σ) (now : Int) :
    server.moveTo .unspecified now =
      let stopped := server.announcer.cancel server.timers
      { server with
        gateway := { server.gateway with externalAddress := .unspecified }
        announcer := stopped.announcer
        timers := stopped.timers } := rfl

theorem moveTo_of_known (server : Server β σ) {current : Ipv4} (known : current ≠ .unspecified)
    (now : Int) :
    server.moveTo current now =
      let restarted := server.announcer.restart server.timers now
      { server with
        gateway := { server.gateway with externalAddress := current }
        announcer := restarted.announcer
        timers := restarted.timers } := by
  have notLost : ¬current.isUnspecified = true := fun lost =>
    known ((Ipv4.isUnspecified_iff current).mp lost)
  simp only [moveTo, if_neg notLost, Announcer.restart, Announcer.cancel_cancel]

/-- What moving to an address at `now` does to a server, and all it does: the address is
replaced, no timer but the announcer's is touched, and an announcement is pending exactly if
there is an address to announce, the first of its burst and due at once. -/
structure MovedTo (before after : Server β σ) (current : Ipv4) (now : Int) : Prop where
  gateway : after.gateway = { before.gateway with externalAddress := current }
  table : after.table = before.table
  rules : after.rules = before.rules
  monitor : after.monitor = before.monitor
  expiring : after.timers.expiring = before.timers.expiring
  silent : current = .unspecified →
    after.announcer.pending = none ∧ after.timers.announcing = []
  announces : current ≠ .unspecified →
    ∃ timer, after.announcer = { index := 0, pending := some timer } ∧
      after.timers.announcing = [⟨now, timer, .announce⟩]

theorem Consistent.movedTo (consistent : server.Consistent) (current : Ipv4) (now : Int) :
    server.MovedTo (server.moveTo current now) current now := by
  have expiring := Announcer.expiring_cancel consistent.timers
  have silent := TimerQueue.announcing_eq_nil (Announcer.serves_cancel consistent.timers)
    fun _ => Table.ne_announce_of_mem_owners
  by_cases lost : current = .unspecified
  · subst lost
    rw [moveTo_unspecified]
    refine ⟨rfl, rfl, rfl, rfl, expiring, fun _ => ⟨?_, silent⟩, fun known => (known rfl).elim⟩
    have unowned := Announcer.owners_cancel server.announcer server.timers
    simpa [Announcer.owners] using unowned
  · rw [moveTo_of_known server lost]
    have armed := TimerQueue.announcing_arm silent now (announceDelays.headD 0)
    refine ⟨rfl, rfl, rfl, rfl, (TimerQueue.expiring_arm _ _ _).trans expiring,
      fun isLost => (lost isLost).elim, fun _ => ⟨_, rfl, ?_⟩⟩
    simpa [Announcer.restart, announceDelays] using armed

/-! ## One check -/

section Checks

variable [AddressSource σ]

/-- What a check of the interface at `now` can come to, and what it does in each case. -/
structure ChecksAtomically (server : Server β σ) (now : Int) : Prop where
  /-- A check fails only with the question for the addresses. -/
  error_iff : ∀ error, (server.checkInterface now).value.result = .error error ↔
    ∃ failure, server.inquiry.outcome = .error failure ∧
      error = .interface server.monitor.interface failure
  /-- A change is reported exactly if the first IPv4 address found is not the known one. -/
  changed_iff : ∀ previous current,
    (server.checkInterface now).value.result = .ok (.changed previous current) ↔
      ∃ addresses, server.inquiry.outcome = .ok addresses ∧ firstIpv4 addresses = current ∧
        previous = server.gateway.externalAddress ∧ current ≠ previous
  /-- Otherwise the server has asked, and is the same in all but its source. -/
  kept : (∀ previous current,
      (server.checkInterface now).value.result ≠ .ok (.changed previous current)) →
    (server.checkInterface now).value.server = server.asked
  moved : ∀ previous current,
    (server.checkInterface now).value.result = .ok (.changed previous current) →
      server.asked.MovedTo (server.checkInterface now).value.server current now

theorem Consistent.checksAtomically (consistent : server.Consistent) (now : Int) :
    server.ChecksAtomically now := by
  cases answered : server.inquiry.outcome with
  | error failure =>
      constructor <;> rw [checkInterface_of_error answered]
      · intro error
        simp [answered, eq_comm]
      · intro previous current
        simp [answered]
      · exact fun _ => rfl
      · exact nofun
  | ok addresses =>
      have checked := checkInterface_of_ok answered now
      by_cases known : firstIpv4 addresses = server.gateway.externalAddress
      · rw [if_pos known] at checked
        constructor <;> rw [checked]
        · intro error
          simp [answered]
        · intro previous current
          refine ⟨nofun, ?_⟩
          rintro ⟨_, found, rfl, rfl, differs⟩
          cases answered.symm.trans found
          exact (differs known).elim
        · exact fun _ => rfl
        · exact nofun
      · rw [if_neg known] at checked
        constructor <;> rw [checked]
        · intro error
          simp [answered]
        · intro previous current
          constructor
          · rintro ⟨⟩
            exact ⟨addresses, answered, rfl, rfl, known⟩
          · rintro ⟨_, found, rfl, rfl, _⟩
            cases answered.symm.trans found
            rfl
        · exact fun unchanged => (unchanged _ _ rfl).elim
        · rintro previous current ⟨⟩
          have asked : server.asked.Consistent := consistent.congr rfl rfl rfl
          exact asked.movedTo _ now

theorem exists_addresses_of_known
    (known : server.monitor.currentAddress.outcome = .ok server.gateway.externalAddress) :
    ∃ addresses, server.inquiry.outcome = .ok addresses ∧
      firstIpv4 addresses = server.gateway.externalAddress := by
  have mapped : server.inquiry.outcome.map firstIpv4 = .ok server.gateway.externalAddress := known
  cases answered : server.inquiry.outcome with
  | error failure =>
      rw [answered] at mapped
      contradiction
  | ok addresses =>
      rw [answered] at mapped
      exact ⟨addresses, rfl, Except.ok.inj mapped⟩

end Checks

/-! ## Events that tell nothing new -/

section Spurious

variable [Backend β] [AddressSource σ]

/-- A call that is about another interface, or finds the address that is known. -/
def Spurious (server : Server β σ) : Call → Prop
  | .interfaceEvent event _ =>
      event.interface ≠ server.monitor.interface ∨
        server.monitor.currentAddress.outcome = .ok server.gateway.externalAddress
  | .checkInterface _ =>
      server.monitor.currentAddress.outcome = .ok server.gateway.externalAddress
  | _ => False

instance Spurious.decidable (server : Server β σ) :
    (call : Call) → Decidable (server.Spurious call)
  | .interfaceEvent _ _ => inferInstanceAs (Decidable (_ ∨ _))
  | .checkInterface _ => inferInstanceAs (Decidable (_ = _))
  | .start | .datagram .. | .fireTimers _ | .shutdown => inferInstanceAs (Decidable False)

/-- A spurious call leaves the server as it is, or lets it ask and be answered. -/
theorem server_respond_of_spurious {call : Call} (spurious : server.Spurious call) :
    (server.respond call).server = server ∨
      (server.respond call).server = server.asked ∧
        ∃ addresses, server.inquiry.outcome = .ok addresses := by
  have checked : ∀ now,
      server.monitor.currentAddress.outcome = .ok server.gateway.externalAddress →
        (server.checkInterface now).value.server = server.asked ∧
          ∃ addresses, server.inquiry.outcome = .ok addresses := by
    intro now known
    rcases exists_addresses_of_known known with ⟨addresses, answered, same⟩
    rw [checkInterface_of_ok answered, if_pos same]
    exact ⟨rfl, addresses, answered⟩
  cases call with
  | interfaceEvent event now =>
      by_cases followed : event.interface = server.monitor.interface
      · have known := spurious.resolve_left (not_not.mpr followed)
        rw [respond, handleInterfaceEvent_of_followed followed]
        exact .inr (checked now known)
      · rw [respond, handleInterfaceEvent_of_foreign followed]
        exact .inl rfl
  | checkInterface now => exact .inr (checked now spurious)
  | start | datagram | fireTimers | shutdown => exact spurious.elim

theorem server_respond_of_steady (steady : AddressSource.Steady σ) {call : Call}
    (spurious : server.Spurious call) : (server.respond call).server = server := by
  rcases server_respond_of_spurious spurious with same | ⟨same, addresses, answered⟩
  · exact same
  · rw [same, asked, steady _ _ addresses answered]
    rfl

end Spurious

/-! ## Runs with spurious calls inserted -/

section Runs

variable [Backend β] [AddressSource σ]

/-- Every inserted call is spurious to the server that takes it. -/
def InsertsSpurious (server : Server β σ) : List (Occurrence β σ) → Prop
  | [] => True
  | .own step :: rest => (server.step step).InsertsSpurious rest
  | .inserted call :: rest =>
      server.Spurious call ∧ (server.step (.call call)).InsertsSpurious rest

instance InsertsSpurious.decidable (server : Server β σ) :
    (occurrences : List (Occurrence β σ)) → Decidable (server.InsertsSpurious occurrences)
  | [] => inferInstanceAs (Decidable True)
  | .own step :: rest => InsertsSpurious.decidable (server.step step) rest
  | .inserted call :: rest =>
      have := InsertsSpurious.decidable (server.step (.call call)) rest
      inferInstanceAs (Decidable (_ ∧ _))

/-- What the calls of the run itself show, one after the other. -/
def shownByOwn {α : Type} (view : Server β σ → Call → List α) (server : Server β σ) :
    List (Occurrence β σ) → List α
  | [] => []
  | .own (.call call) :: rest =>
      view server call ++ (server.step (.call call)).shownByOwn view rest
  | occurrence :: rest => (server.step occurrence.step).shownByOwn view rest

/-- A call's answer, and all of the server after it but its source. -/
def noticed (server : Server β σ) (call : Call) : List (Handled β Unit Answer) :=
  [(server.respond call).withSource ()]

/-- Servers that only their sources tell apart make as many inquiries. -/
theorem length_inquiries_eq {left right : Server β σ} (same : left.sourceless = right.sourceless)
    (call : Call) : (left.inquiries call).length = (right.inquiries call).length := by
  have follows : left.monitor.interface = right.monitor.interface :=
    congrArg (·.monitor.interface) same
  rw [inquiries_eq, inquiries_eq, follows]
  split <;> rfl

/-- Answered alike, servers that only their sources tell apart handle a call alike. -/
theorem alike_of_inquiries_eq {left right : Server β σ}
    (same : left.sourceless = right.sourceless) {call : Call}
    (answered : left.inquiries call = right.inquiries call) :
    (left.respond call).withSource () = (right.respond call).withSource () := by
  have isLeft := eq_withSource_of_sourceless_eq same
  by_cases asks : call.Asks left.monitor.interface
  · have alsoAsks : call.Asks right.monitor.interface := isLeft ▸ asks
    rw [inquiries_eq, inquiries_eq, if_pos asks, if_pos alsoAsks] at answered
    rcases exists_check_of_asks (β := β) asks with ⟨now, check⟩
    rw [check left rfl, check right (congrArg (·.monitor.interface) same.symm)]
    rw [isLeft] at answered ⊢
    have checked := checkInterface_withSource (List.singleton_inj.mp answered).symm now
    exact (congrArg (Handled.answer · .change) checked).symm
  · rw [isLeft, respond_withSource _ asks]
    rfl

/-- A run with spurious calls inserted, beside the run without them over a source that answers
alike: the run's own calls come to the same, and so does the run. -/
theorem alike_run {left right : Server β σ} (same : left.sourceless = right.sourceless)
    {occurrences : List (Occurrence β σ)} (spurious : left.InsertsSpurious occurrences)
    (answered : left.shownByOwn inquiries occurrences =
      right.shown inquiries (occurrences.filterMap Occurrence.own?)) :
    left.shownByOwn noticed occurrences =
        right.shown noticed (occurrences.filterMap Occurrence.own?) ∧
      (left.run (occurrences.map Occurrence.step)).sourceless =
        (right.run (occurrences.filterMap Occurrence.own?)).sourceless := by
  induction occurrences generalizing left right with
  | nil => exact ⟨rfl, same⟩
  | cons first rest ih =>
      cases first with
      | inserted call =>
          have unmoved : (left.respond call).server.sourceless = right.sourceless := by
            rcases server_respond_of_spurious spurious.1 with kept | ⟨asked, _⟩
            · rw [kept, same]
            · rw [asked, ← same]
              rfl
          exact ih unmoved spurious.2 answered
      | own step =>
          cases step with
          | filter change => exact ih (congrArg (·.changeFilter change) same) spurious answered
          | addresses change => exact ih same spurious answered
          | call call =>
              have parts := List.append_inj answered (length_inquiries_eq same call)
              have alike := alike_of_inquiries_eq same parts.1
              have later := ih (congrArg Handled.server alike) spurious parts.2
              exact ⟨congr (congrArg (· :: ·) alike) later.1, later.2⟩

/-- Over a source that is left as it is by what it answers, spurious calls leave no trace. -/
theorem run_eq_of_steady (steady : AddressSource.Steady σ) {server : Server β σ}
    {occurrences : List (Occurrence β σ)} (spurious : server.InsertsSpurious occurrences) :
    server.run (occurrences.map Occurrence.step) =
        server.run (occurrences.filterMap Occurrence.own?) ∧
      ∀ {α : Type} (view : Server β σ → Call → List α),
        server.shownByOwn view occurrences =
          server.shown view (occurrences.filterMap Occurrence.own?) := by
  induction occurrences generalizing server with
  | nil => exact ⟨rfl, fun _ => rfl⟩
  | cons first rest ih =>
      cases first with
      | inserted call =>
          have kept : server.step (.call call) = server :=
            server_respond_of_steady steady spurious.1
          rw [InsertsSpurious, kept] at spurious
          simp only [List.map_cons, Occurrence.step, run_cons, shownByOwn, kept,
            List.filterMap_cons, Occurrence.own?]
          exact ih spurious.2
      | own step =>
          have restSpurious : (server.step step).InsertsSpurious rest := spurious
          have later := ih restSpurious
          refine ⟨later.1, ?_⟩
          intro α view
          cases step with
          | filter change => exact later.2 view
          | addresses change => exact later.2 view
          | call call => exact congrArg (view server call ++ ·) (later.2 view)

/-- An event that names another interface is passed over without a question, any other is a
check.  A check fails only with its question, moves the server exactly if the first IPv4
address found is not the known one, and otherwise leaves all but the source as it was.  So
calls that are about other interfaces or find the known address can be inserted into a run: if
its own questions are answered as before, its own calls are answered as before and leave the
same server but for the source; and over a source that is left as it is by what it answers, no
view of the run's own calls, nor the server in the end, tells that anything was inserted. -/
theorem checks_atomic_and_insensitive (reachable : server.Reachable) :
    (∀ event now,
      (event.interface ≠ server.monitor.interface →
        (server.handleInterfaceEvent event now).value = ⟨.ok .unchanged, server⟩ ∧
          server.inquiries (.interfaceEvent event now) = []) ∧
      (event.interface = server.monitor.interface →
        (server.handleInterfaceEvent event now).value = (server.checkInterface now).value)) ∧
    (∀ now, server.ChecksAtomically now) ∧
    (∀ occurrences, server.InsertsSpurious occurrences →
      let own := occurrences.filterMap Occurrence.own?
      server.shownByOwn inquiries occurrences = server.shown inquiries own →
        server.shownByOwn noticed occurrences = server.shown noticed own ∧
          (server.run (occurrences.map Occurrence.step)).sourceless =
            (server.run own).sourceless) ∧
    (AddressSource.Steady σ → ∀ occurrences, server.InsertsSpurious occurrences →
      let own := occurrences.filterMap Occurrence.own?
      server.run (occurrences.map Occurrence.step) = server.run own ∧
        ∀ {α : Type} (view : Server β σ → Call → List α),
          server.shownByOwn view occurrences = server.shown view own) := by
  refine ⟨?events, reachable.consistent.checksAtomically, ?alike, ?same⟩
  case events =>
    intro event now
    constructor
    · intro foreign
      have silent : server.inquiries (.interfaceEvent event now) = [] := by
        rw [inquiries_eq]
        exact if_neg foreign
      exact ⟨handleInterfaceEvent_of_foreign foreign now, silent⟩
    · intro followed
      exact handleInterfaceEvent_of_followed followed now
  case alike =>
    intro occurrences spurious own answered
    exact alike_run rfl spurious answered
  case same =>
    intro steady occurrences spurious
    exact run_eq_of_steady steady spurious

end Runs

/-- One interface is followed, a client has a mapping, and a burst has begun. -/
def withBurst : Server MemoryFilter AddressTable :=
  atOneInterface.run
    [.call (.checkInterface 0), .call (.ask ⟨10, 0, 0, 5⟩ ⟨.udp, 80, 0, 3600⟩ 0),
      .call (.fireTimers 0)]

/-- The burst goes on, then the interface loses its address.  Meanwhile events come that are
about another interface or tell nothing new. -/
def losingTheAddress : List (Occurrence MemoryFilter AddressTable) :=
  [.inserted (.interfaceEvent ⟨.addressAdded, "em1"⟩ (milliseconds 100)),
    .own (.call (.fireTimers (milliseconds 250))),
    .inserted (.interfaceEvent ⟨.addressAdded, "em0"⟩ (milliseconds 300)),
    .inserted (.checkInterface (milliseconds 400)),
    .own (.addresses (·.set "em0" [])), .own (.call (.checkInterface (milliseconds 500))),
    .inserted (.interfaceEvent ⟨.departed, "em0"⟩ (milliseconds 600)),
    .own (.call (.fireTimers (seconds 1)))]

/-- In the middle of a burst the inserted calls leave no trace, and when the address is lost
nothing goes on announcing it. -/
theorem checks_insensitive_to_lost_address :
    withBurst.Reachable ∧ withBurst.InsertsSpurious losingTheAddress ∧
      withBurst.run (losingTheAddress.map Occurrence.step) =
        withBurst.run (losingTheAddress.filterMap Occurrence.own?) ∧
      let lost := withBurst.changeAddresses (·.set "em0" [])
      (lost.checkInterface (milliseconds 500)).value.result =
          .ok (.changed ⟨198, 51, 100, 1⟩ .unspecified) ∧
        lost.asked.MovedTo (lost.checkInterface (milliseconds 500)).value.server .unspecified
          (milliseconds 500) := by
  have reachable : withBurst.Reachable := reachable_atOneInterface.run _
  have spurious : withBurst.InsertsSpurious losingTheAddress := by decide +kernel
  have lostReachable : (withBurst.changeAddresses (·.set "em0" [])).Reachable :=
    reachable.run [.addresses (·.set "em0" [])]
  have changed : ((withBurst.changeAddresses (·.set "em0" [])).checkInterface
      (milliseconds 500)).value.result = .ok (.changed ⟨198, 51, 100, 1⟩ .unspecified) := by
    decide +kernel
  rcases checks_atomic_and_insensitive reachable with ⟨_, _, _, insensitive⟩
  rcases checks_atomic_and_insensitive lostReachable with ⟨_, atomic, _, _⟩
  exact ⟨reachable, spurious, (insensitive AddressTable.steady _ spurious).1, changed,
    (atomic (milliseconds 500)).moved _ _ changed⟩

end Server

end PortMapping
