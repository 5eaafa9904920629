import PortMapping.Proofs.Packets
import PortMapping.Server.Datagram
import PortMapping.Server.Interface
import PortMapping.Server.Timers

/-!
# What the handlers do

One lemma for each outcome of a handler, so that properties of the server follow
from them without opening the handlers again.  Only a served mapping request, a
timer that fires and shutting down touch the mappings; the packet filter never
decides what happens to anything else.
-/

namespace PortMapping

/-! ## Mapping requests -/

/-- The mapping request in a datagram with the client it serves, if there is one: the
datagram is a well-formed request of the mapping protocol and comes over IPv4. -/
def mappingRequest? (datagram : Octets) (peer : Endpoint) : Option (MappingRequest × Ipv4) :=
  match Header.parse datagram with
  | .error _ => none
  | .ok header =>
      if header.version = mappingVersion then
        match peer with
        | .v6 _ => none
        | .v4 client =>
            match Request.decode datagram with
            | .ok (.mapping request) => some (request, client.address)
            | _ => none
      else none

/-- A mapping request of the mapping protocol's version is served over IPv4. -/
theorem mappingRequest?_of_decode {datagram : Octets} {request : MappingRequest}
    (version : datagram.at8 0 = mappingVersion)
    (decoded : Request.decode datagram = .ok (.mapping request)) (peer : Endpoint4) :
    mappingRequest? datagram (.v4 peer) = some (request, peer.address) := by
  simp only [mappingRequest?, header_of_decode decoded, version, decoded, if_true]

theorem mappingRequest?_encode (request : MappingRequest) (peer : Endpoint4) :
    mappingRequest? request.encode (.v4 peer) = some (request, peer.address) :=
  mappingRequest?_of_decode rfl (MappingRequest.decode_encode request) peer

namespace MappingRequest

/-- Whether a request asks for mappings to be deleted. -/
def deletes (request : MappingRequest) : Bool :=
  request.internalPort = 0 || request.lifetime = 0

/-- The internal endpoint a request is about. -/
def internal (request : MappingRequest) (client : Ipv4) : Endpoint4 :=
  ⟨client, request.internalPort⟩

/-- How long a granted mapping lasts. -/
def duration (request : MappingRequest) : Nat := seconds request.lifetime.toNat

end MappingRequest

namespace Server

variable {β σ : Type}

section Rules

variable [Backend β]

/-- Synchronizing replaces nothing but the rules. -/
theorem server_synchronize (server : Server β σ) :
    server.synchronize.value.server =
      { server with rules := (server.rules.rebuild server.table.mappings).value.synchronizer } :=
  rfl

/-- Starting replaces nothing but the rules. -/
theorem server_start (server : Server β σ) :
    ∃ rules, server.start.value.server = { server with rules } := by
  simp only [start, Logged.value_bind]
  split
  · exact ⟨_, rfl⟩
  · exact ⟨_, server_synchronize _⟩

end Rules

/-! ## Deciding a mapping request -/

section Requests

/-- A deletion goes by the internal port alone: port zero deletes every mapping of the
client under the transport. -/
theorem decideMapping_of_deletes (server : Server β σ) {request : MappingRequest}
    (client : Ipv4) (now : Int) (deletes : request.deletes = true) :
    (server.decideMapping request client now).value =
      server.afterRemoval
        (server.table.remove server.timers request.transport client request.internalPort) := by
  rw [decideMapping]
  by_cases wildcard : request.internalPort = 0
  · rw [if_pos wildcard, wildcard]
    rfl
  · have noLifetime : request.lifetime = 0 := by
      simpa [MappingRequest.deletes, wildcard] using deletes
    rw [if_neg wildcard, if_pos noLifetime]
    rfl

/-- A request for a mapping is granted while an external address is known. -/
theorem decideMapping_of_grants (server : Server β σ) {request : MappingRequest}
    (client : Ipv4) (now : Int) (asks : request.deletes = false)
    (known : server.gateway.hasExternalAddress = true) :
    (server.decideMapping request client now).value =
      let grant := server.table.grant server.timers now request.transport
        (request.internal client) ⟨server.gateway.externalAddress, request.externalPort⟩
        request.duration
      { externalPort := grant.externalPort
        lifetime := request.lifetime
        changed := grant.created
        server := { server with table := grant.table, timers := grant.timers } } := by
  have ports : ¬request.internalPort = 0 ∧ ¬request.lifetime = 0 := by
    simpa [MappingRequest.deletes] using asks
  rw [decideMapping, if_neg ports.1, if_neg ports.2, if_pos known]
  rfl

/-- Without an external address a request for a mapping changes nothing. -/
theorem decideMapping_of_refuses (server : Server β σ) {request : MappingRequest}
    (client : Ipv4) (now : Int) (asks : request.deletes = false)
    (unknown : server.gateway.hasExternalAddress = false) :
    (server.decideMapping request client now).value =
      { externalPort := 0, lifetime := 0, changed := false, server } := by
  have ports : ¬request.internalPort = 0 ∧ ¬request.lifetime = 0 := by
    simpa [MappingRequest.deletes] using asks
  rw [decideMapping, if_neg ports.1, if_neg ports.2, if_neg (by simp [unknown])]
  rfl

/-- Deciding replaces nothing but the table and the timers. -/
theorem server_decideMapping (server : Server β σ) (request : MappingRequest) (client : Ipv4)
    (now : Int) :
    ∃ table timers,
      (server.decideMapping request client now).value.server = { server with table, timers } := by
  cases deletes : request.deletes with
  | true =>
      rw [decideMapping_of_deletes server client now deletes]
      exact ⟨_, _, rfl⟩
  | false =>
      cases known : server.gateway.hasExternalAddress with
      | true =>
          rw [decideMapping_of_grants server client now deletes known]
          exact ⟨_, _, rfl⟩
      | false =>
          rw [decideMapping_of_refuses server client now deletes known]
          exact ⟨_, _, rfl⟩

/-- The same mappings, timers, announcer and address, with other rules and another monitor. -/
def refitted {γ τ : Type} (server : Server β σ) (rules : Synchronizer γ) (monitor : Monitor τ) :
    Server γ τ where
  table := server.table
  gateway := server.gateway
  timers := server.timers
  announcer := server.announcer
  rules := rules
  monitor := monitor

/-- Deciding a mapping request involves neither the rules nor the monitor. -/
theorem decideMapping_refitted {γ τ : Type} (server : Server β σ) (rules : Synchronizer γ)
    (monitor : Monitor τ) (request : MappingRequest) (client : Ipv4) (now : Int) :
    let verdict := (server.decideMapping request client now).value
    ((server.refitted rules monitor).decideMapping request client now).value =
      { externalPort := verdict.externalPort
        lifetime := verdict.lifetime
        changed := verdict.changed
        server := verdict.server.refitted rules monitor } := by
  cases deletes : request.deletes with
  | true =>
      rw [decideMapping_of_deletes server client now deletes,
        decideMapping_of_deletes (server.refitted rules monitor) client now deletes]
      rfl
  | false =>
      cases known : server.gateway.hasExternalAddress with
      | true =>
          rw [decideMapping_of_grants server client now deletes known,
            decideMapping_of_grants (server.refitted rules monitor) client now deletes known]
          rfl
      | false =>
          rw [decideMapping_of_refuses server client now deletes known,
            decideMapping_of_refuses (server.refitted rules monitor) client now deletes known]

/-- Only rebuilding touches the rules. -/
theorem rules_decideMapping (server : Server β σ) (request : MappingRequest) (client : Ipv4)
    (now : Int) :
    (server.decideMapping request client now).value.server.rules = server.rules := by
  rcases server_decideMapping server request client now with ⟨table, timers, same⟩
  rw [same]

variable [Backend β]

/-- Serving a mapping request leaves the server that was decided on, its rules rebuilt
if they changed. -/
theorem server_handleMapping (server : Server β σ) (request : MappingRequest) (client : Ipv4)
    (now : Int) :
    (server.handleMapping request client now).value.server =
      let verdict := (server.decideMapping request client now).value
      if verdict.changed then verdict.server.rebuildRules.value else verdict.server := by
  simp only [handleMapping, Logged.value_bind]
  split <;> rfl

/-- Serving a mapping request replaces nothing but the rules of the server decided on. -/
theorem exists_rules_handleMapping (server : Server β σ) (request : MappingRequest)
    (client : Ipv4) (now : Int) :
    ∃ rules, (server.handleMapping request client now).value.server =
      { (server.decideMapping request client now).value.server with rules } := by
  rw [server_handleMapping]
  simp only
  split <;> exact ⟨_, rfl⟩

/-- The answer to a mapping request repeats what was decided. -/
theorem result_handleMapping (server : Server β σ) (request : MappingRequest) (client : Ipv4)
    (now : Int) :
    (server.handleMapping request client now).value.result =
      let verdict := (server.decideMapping request client now).value
      { transport := request.transport
        result := server.availability
        epoch := server.gateway.epoch now
        internalPort := request.internalPort
        externalPort := verdict.externalPort
        lifetime := verdict.lifetime } := by
  simp only [handleMapping, Logged.value_bind]
  split <;> rfl

/-- A datagram that is no served mapping request changes nothing. -/
theorem server_handleDatagram_of_none (server : Server β σ) {datagram : Octets}
    {peer : Endpoint} (now : Int) (unserved : mappingRequest? datagram peer = none) :
    (server.handleDatagram datagram peer now).value.server = server := by
  simp only [mappingRequest?] at unserved
  rw [handleDatagram]
  cases parsed : Header.parse datagram with
  | error error => rfl
  | ok header =>
      simp only [parsed] at unserved
      simp only
      split
      next version =>
        rw [if_pos version] at unserved
        cases peer with
        | v6 peer => rfl
        | v4 peer =>
            simp only [handleMappingProtocol]
            cases decoded : Request.decode datagram with
            | error error => rfl
            | ok request =>
                cases request with
                | externalAddress => rfl
                | unsupported opcode datagram => rfl
                | mapping request => simp [decoded] at unserved
      · split <;> rfl

/-- The reply to a datagram that is no served mapping request depends on the address and the
start of the gateway alone. -/
theorem result_handleDatagram_of_none {γ τ : Type} [Backend γ] {left : Server β σ}
    {right : Server γ τ} (gateway : left.gateway = right.gateway) {datagram : Octets}
    {peer : Endpoint} (now : Int) (unserved : mappingRequest? datagram peer = none) :
    (left.handleDatagram datagram peer now).value.result =
      (right.handleDatagram datagram peer now).value.result := by
  have refused : left.refuseVersion now = ⟨(right.refuseVersion now).result, left⟩ := by
    rw [refuseVersion, gateway]
    rfl
  have address : left.addressResponse now = right.addressResponse now := by
    rw [addressResponse, availability, gateway]
    rfl
  simp only [mappingRequest?] at unserved
  rw [handleDatagram, handleDatagram]
  cases parsed : Header.parse datagram with
  | error error => rfl
  | ok header =>
      simp only [parsed] at unserved
      simp only
      split
      next version =>
        rw [if_pos version] at unserved
        cases peer with
        | v6 peer => rfl
        | v4 peer =>
            simp only [handleMappingProtocol]
            cases decoded : Request.decode datagram with
            | error error => rfl
            | ok request =>
                cases request with
                | externalAddress => simp only [address, Logged.value_pure]
                | unsupported opcode datagram => rfl
                | mapping request => simp [decoded] at unserved
      · split <;> simp only [refused, Logged.value_bind, Logged.value_pure]

/-- A served mapping request is answered, and handled for the client it comes from. -/
theorem handleDatagram_of_some (server : Server β σ) {datagram : Octets} {peer : Endpoint}
    (now : Int) {request : MappingRequest} {client : Ipv4}
    (served : mappingRequest? datagram peer = some (request, client)) :
    (server.handleDatagram datagram peer now).value =
      let handled := (server.handleMapping request client now).value
      ⟨some handled.result.encode, handled.server⟩ := by
  simp only [mappingRequest?] at served
  rw [handleDatagram]
  cases parsed : Header.parse datagram with
  | error error => simp [parsed] at served
  | ok header =>
      simp only [parsed] at served
      split at served
      next version =>
        cases peer with
        | v6 peer => contradiction
        | v4 peer =>
            simp only at served
            split at served
            next decoded =>
              cases served
              simp only [version, if_true, handleMappingProtocol, decoded]
              rfl
            · contradiction
      · contradiction

/-- A datagram touches nothing but the table, the timers and the rules. -/
theorem server_handleDatagram (server : Server β σ) (datagram : Octets) (peer : Endpoint)
    (now : Int) :
    ∃ table timers rules, (server.handleDatagram datagram peer now).value.server =
      { server with table, timers, rules } := by
  cases served : mappingRequest? datagram peer with
  | none => exact ⟨_, _, _, server_handleDatagram_of_none server now served⟩
  | some asked =>
      rcases asked with ⟨request, client⟩
      rcases server_decideMapping server request client now with ⟨table, timers, decided⟩
      rcases exists_rules_handleMapping server request client now with ⟨rules, handled⟩
      rw [handleDatagram_of_some server now served]
      simp only [handled, decided]
      exact ⟨_, _, _, rfl⟩

end Requests

/-! ## Following the interface -/

section Interface

variable [AddressSource σ]

/-- Asking for the address replaces the monitor.  Where another address than the known one
is found, the server moves there and says so; otherwise nothing else happens. -/
theorem checkInterface_cases (server : Server β σ) (now : Int) :
    (∃ outcome monitor,
        (server.checkInterface now).value = ⟨outcome, { server with monitor }⟩ ∧
          ∀ previous current, outcome ≠ .ok (.changed previous current)) ∨
      ∃ current monitor,
        server.monitor.currentAddress.outcome = .ok current ∧
          current ≠ server.gateway.externalAddress ∧
          (server.checkInterface now).value =
            ⟨.ok (.changed server.gateway.externalAddress current),
              { server with monitor }.moveTo current now⟩ := by
  rw [checkInterface]
  cases found : server.monitor.currentAddress.outcome with
  | error failure => exact .inl ⟨_, _, rfl, nofun⟩
  | ok current =>
      by_cases known : current = server.gateway.externalAddress
      · simp only [if_pos known]
        exact .inl ⟨_, _, rfl, nofun⟩
      · simp only [if_neg known]
        exact .inr ⟨current, _, rfl, known, rfl⟩

theorem server_checkInterface (server : Server β σ) (now : Int) :
    ∃ monitor,
      (server.checkInterface now).value.server = { server with monitor } ∨
        ∃ current, (server.checkInterface now).value.server =
          { server with monitor }.moveTo current now := by
  rcases checkInterface_cases server now with
    ⟨outcome, monitor, same, _⟩ | ⟨current, monitor, _, _, same⟩
  · exact ⟨monitor, .inl (by rw [same])⟩
  · exact ⟨monitor, .inr ⟨current, by rw [same]⟩⟩

theorem rules_checkInterface (server : Server β σ) (now : Int) :
    (server.checkInterface now).value.server.rules = server.rules := by
  rcases server_checkInterface server now with ⟨monitor, same | ⟨current, same⟩⟩
  · rw [same]
  · rw [same]
    rfl

theorem table_checkInterface (server : Server β σ) (now : Int) :
    (server.checkInterface now).value.server.table = server.table := by
  rcases server_checkInterface server now with ⟨monitor, same | ⟨current, same⟩⟩
  · rw [same]
  · rw [same]
    rfl

/-- An event about another interface is passed over. -/
theorem handleInterfaceEvent_of_foreign {server : Server β σ} {event : InterfaceEvent}
    (foreign : event.interface ≠ server.monitor.interface) (now : Int) :
    (server.handleInterfaceEvent event now).value = ⟨.ok .unchanged, server⟩ := by
  have unconcerned : ¬server.monitor.concerns event = true := by
    simpa [Monitor.concerns] using foreign
  rw [handleInterfaceEvent, if_neg unconcerned, Logged.value_pure]

/-- An event about the followed interface makes the server ask. -/
theorem handleInterfaceEvent_of_followed {server : Server β σ} {event : InterfaceEvent}
    (followed : event.interface = server.monitor.interface) (now : Int) :
    (server.handleInterfaceEvent event now).value = (server.checkInterface now).value := by
  have concerned : server.monitor.concerns event = true := decide_eq_true followed
  rw [handleInterfaceEvent, if_pos concerned, Logged.value_bind]

end Interface

/-! ## Firing timers -/

section Firing

variable [Backend β] {now : Int}

/-- Act on a timer that was taken off the queue. -/
def afterTimer (server : Server β σ) (fired : TimerQueue.Fired TimerEvent) (now : Int) :
    Handled β σ (List Octets) :=
  (handleTimer { server with timers := fired.queue } fired.event now).value

theorem dueCount_afterTimer {server : Server β σ} {fired : TimerQueue.Fired TimerEvent}
    (popped : server.timers.popDue now = some fired) :
    (server.afterTimer fired now).server.timers.dueCount now <
      server.timers.dueCount now := by
  rw [afterTimer, dueCount_handleTimer, TimerQueue.dueCount_popDue popped]
  exact Nat.lt_succ_self _

/-- The gateway's address and start are none of a timer's business. -/
theorem gateway_afterTimer (server : Server β σ) (fired : TimerQueue.Fired TimerEvent)
    (now : Int) : (server.afterTimer fired now).server.gateway = server.gateway := by
  rw [afterTimer]
  cases fired.event with
  | announce => rfl
  | expire id =>
      simp only [handleTimer, expireMapping, Logged.value_bind, Logged.value_pure]
      split <;> rfl

/-- Induction along the timers that fire at `now`. -/
@[elab_as_elim]
theorem firing_induction (now : Int) {motive : Server β σ → Prop}
    (done : ∀ server, server.timers.popDue now = none → motive server)
    (next : ∀ server fired, server.timers.popDue now = some fired →
      motive (server.afterTimer fired now).server → motive server)
    (server : Server β σ) : motive server := by
  cases popped : server.timers.popDue now with
  | none => exact done server popped
  | some fired => exact next server fired popped (firing_induction now done next _)
termination_by server.timers.dueCount now
decreasing_by exact dueCount_afterTimer popped

/-- The states that firing at `now` passes through, from a first state on. -/
inductive FiresTo (now : Int) : Server β σ → Server β σ → Prop where
  | here (server : Server β σ) : FiresTo now server server
  | later {server last : Server β σ} {fired : TimerQueue.Fired TimerEvent}
      (popped : server.timers.popDue now = some fired)
      (rest : FiresTo now (server.afterTimer fired now).server last) :
      FiresTo now server last

/-- What acting on one timer preserves holds of every state that firing passes through. -/
theorem FiresTo.invariant {property : Server β σ → Prop}
    (kept : ∀ server fired, property server → server.timers.popDue now = some fired →
      property (server.afterTimer fired now).server)
    {first last : Server β σ} (fires : FiresTo now first last) (holds : property first) :
    property last := by
  induction fires with
  | here => exact holds
  | later popped _ ih => exact ih (kept _ _ holds popped)

theorem fireTimers_of_none {server : Server β σ} (idle : server.timers.popDue now = none) :
    (server.fireTimers now).value = ⟨[], server⟩ := by
  rw [fireTimers]
  split
  · rfl
  next popped => rw [idle] at popped; contradiction

theorem fireTimers_of_some {server : Server β σ} {fired : TimerQueue.Fired TimerEvent}
    (popped : server.timers.popDue now = some fired) :
    (server.fireTimers now).value =
      let handled := server.afterTimer fired now
      let later := (handled.server.fireTimers now).value
      ⟨handled.result ++ later.result, later.server⟩ := by
  rw [fireTimers]
  split
  next idle => rw [idle] at popped; contradiction
  next other alsoPopped =>
    rw [popped] at alsoPopped
    cases alsoPopped
    rfl

/-- Firing passes through the states listed by `FiresTo` and ends when no timer is due. -/
theorem firesTo_fireTimers (server : Server β σ) (now : Int) :
    FiresTo now server (server.fireTimers now).value.server ∧
      (server.fireTimers now).value.server.timers.popDue now = none := by
  refine firing_induction now ?done ?next server
  case done =>
    intro server idle
    rw [fireTimers_of_none idle]
    exact ⟨.here server, idle⟩
  case next =>
    intro server fired popped ih
    rw [fireTimers_of_some popped]
    exact ⟨.later popped ih.1, ih.2⟩

/-- What acting on one timer preserves, firing preserves. -/
theorem fireTimers_invariant {property : Server β σ → Prop}
    (kept : ∀ server fired, property server → server.timers.popDue now = some fired →
      property (server.afterTimer fired now).server)
    {server : Server β σ} (holds : property server) :
    property (server.fireTimers now).value.server :=
  (firesTo_fireTimers server now).1.invariant kept holds

theorem gateway_fireTimers (server : Server β σ) (now : Int) :
    (server.fireTimers now).value.server.gateway = server.gateway := by
  have kept : ∀ (middle : Server β σ) fired, middle.gateway = server.gateway →
      middle.timers.popDue now = some fired →
        (middle.afterTimer fired now).server.gateway = server.gateway := by
    intro middle fired same _
    rw [gateway_afterTimer, same]
  exact fireTimers_invariant kept rfl

/-- A timer that ends a mapping: the mapping is dropped and the rules are rebuilt. -/
theorem afterTimer_expire (server : Server β σ) {fired : TimerQueue.Fired TimerEvent}
    {id : MappingId} {mapping : Mapping} (event : fired.event = .expire id)
    (expired : (server.table.expire id).expired = some mapping) :
    server.afterTimer fired now =
      ⟨[], { server with
              timers := fired.queue, table := (server.table.expire id).table
            }.rebuildRules.value⟩ := by
  simp only [afterTimer, event, handleTimer, expireMapping, expired]
  rfl

/-- A timer that announces: the present address is sent and the next announcement planned. -/
theorem afterTimer_announce (server : Server β σ) {fired : TimerQueue.Fired TimerEvent}
    (event : fired.event = .announce) :
    server.afterTimer fired now =
      let next := server.announcer.onSent fired.queue now
      ⟨[server.announcement now],
        { server with announcer := next.announcer, timers := next.timers }⟩ := by
  rw [afterTimer, event]
  rfl

/-- Only announcements are sent. -/
theorem result_afterTimer (server : Server β σ) (fired : TimerQueue.Fired TimerEvent)
    (now : Int) :
    (server.afterTimer fired now).result =
      if fired.event = .announce then [server.announcement now] else [] := by
  rw [afterTimer]
  cases fired.event with
  | announce => rfl
  | expire id => rfl

/-- Firing sends nothing but announcements of the present address. -/
theorem eq_announcement_of_mem_fireTimers {server : Server β σ} {packet : Octets}
    (member : packet ∈ (server.fireTimers now).value.result) :
    packet = server.announcement now := by
  revert member
  refine firing_induction now ?done ?next server
  case done =>
    intro server idle member
    rw [fireTimers_of_none idle] at member
    cases member
  case next =>
    intro server fired popped ih member
    rw [fireTimers_of_some popped] at member
    rcases List.mem_append.mp member with first | later
    · rw [result_afterTimer] at first
      split at first
      · exact List.mem_singleton.mp first
      · cases first
    · rw [ih later, announcement, announcement, gateway_afterTimer]

end Firing

end Server

end PortMapping
