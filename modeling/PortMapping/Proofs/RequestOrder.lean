import PortMapping.Proofs.Announcements
import PortMapping.Proofs.ClientIsolation
import PortMapping.Proofs.DependableFilters
import PortMapping.Proofs.RequestLocality

/-!
# The order of requests

Requests of different clients can be handled in either order, as long as at most one of them
draws a port.  On ledgers the order makes no difference at all.  What a server keeps besides, the
identifiers and the order of its mappings and timers, does depend on it, and shows nowhere.
-/

namespace PortMapping

/-! ## Requests as they arrive -/

/-- A mapping request as it arrives: a datagram that holds one, from a peer over IPv4. -/
structure Arrival where
  datagram : Octets
  peer : Endpoint4
  now : Int
  request : MappingRequest
  served : mappingRequest? datagram (.v4 peer) = some (request, peer.address)

namespace Arrival

/-- The client that a request is served for. -/
def client (arrival : Arrival) : Ipv4 := arrival.peer.address

/-- The call that hands a request over. -/
def call (arrival : Arrival) : Call := .datagram arrival.datagram (.v4 arrival.peer) arrival.now

/-- A request sent from the port of a client. -/
def ask (client : Ipv4) (request : MappingRequest) (now : Int) : Arrival :=
  ⟨request.encode, ⟨client, clientPort⟩, now, request,
    mappingRequest?_encode request ⟨client, clientPort⟩⟩

end Arrival

theorem Gateway.isSome_address? (gateway : Gateway) :
    gateway.address?.isSome = gateway.hasExternalAddress := by
  rw [address?]
  cases gateway.hasExternalAddress <;> rfl

namespace Server

variable {β σ : Type} {server : Server β σ} {client : Ipv4}

/-! ## What a request draws and changes -/

/-- A request draws a port, by the ledger. -/
def DrawsFor (server : Server β σ) (arrival : Arrival) : Prop :=
  server.ledger.Draws arrival.request arrival.client server.gateway.address?

theorem Consistent.draw?_eq_some_iff (consistent : server.Consistent) (arrival : Arrival)
    (port : UInt16) :
    server.draw? (.call arrival.call) = some port ↔
      server.DrawsFor arrival ∧ port = server.table.ports.next := by
  have leased : ∀ key, server.ledger.terms? key = none ↔ server.ledger.leases key = none :=
    fun key => Option.map_eq_none_iff
  rw [Arrival.call, consistent.draw?_of_served arrival.served]
  simp only [leased]
  constructor
  · intro drawn
    split at drawn
    next draws =>
      rcases draws with ⟨⟨asks, known, absent⟩, unrelated⟩
      cases drawn
      exact ⟨⟨asks, by rw [Gateway.isSome_address?, known], absent, unrelated⟩, rfl⟩
    · cases drawn
  · rintro ⟨⟨asks, known, absent, unrelated⟩, rfl⟩
    rw [Gateway.isSome_address?] at known
    exact if_pos ⟨⟨asks, known, absent⟩, unrelated⟩

theorem Consistent.draw?_eq_none_iff (consistent : server.Consistent) (arrival : Arrival) :
    server.draw? (.call arrival.call) = none ↔ ¬server.DrawsFor arrival := by
  simp [Option.eq_none_iff_forall_ne_some, consistent.draw?_eq_some_iff]

/-- There is a lease for a key iff a redirection leads there. -/
theorem Consistent.isSome_leases (consistent : server.Consistent)
    (key : Transport × Endpoint4) :
    (server.ledger.leases key).isSome =
      server.redirects.any fun rule => rule.transport = key.1 && rule.internal = key.2 := by
  have mapped : (server.ledger.leases key).isSome = (server.table.get? key.1 key.2).isSome :=
    Table.isSome_lease? consistent.timers key
  rw [mapped, redirects, List.any_map, Table.get?, List.isSome_find?]
  rfl

/-- Deleting something ends a lease. -/
theorem Consistent.changes_of_deletes (consistent : server.Consistent)
    {request : MappingRequest} {now : Int} (deletes : request.deletes = true)
    (changed : (server.decideMapping request client now).value.changed = true) :
    server.ledger.Changes request client server.gateway.address? now := by
  rw [decideMapping_of_deletes server client now deletes] at changed
  have leaving := List.length_pos_iff_exists_mem.mp (of_decide_eq_true changed)
  rcases leaving with ⟨mapping, leaves⟩
  rcases List.mem_filter.mp leaves with ⟨member, leads⟩
  rcases Table.exists_holds consistent.timers member with ⟨deadline, holds⟩
  have before : server.ledger.leases mapping.key = some ⟨mapping.external, deadline⟩ :=
    consistent.table.lease?_eq_some_iff.mpr ⟨mapping, holds, rfl, rfl⟩
  have ended : (server.decideMapping request client now).value.server.ledger.leases mapping.key =
      none := by
    rw [decideMapping_of_deletes server client now deletes]
    refine (Table.lease?_remove consistent.table consistent.timers mapping.key).trans ?_
    exact if_pos (Mapping.leadsTo_iff.mp leads)
  rw [consistent.ledger_decideMapping] at ended
  refine ⟨mapping.key, ?_⟩
  rw [before, ended]
  nofun

/-- Creating a mapping begins a lease. -/
theorem Consistent.changes_of_grants (consistent : server.Consistent)
    {request : MappingRequest} {now : Int} (asks : request.deletes = false)
    (known : server.gateway.hasExternalAddress = true)
    (changed : (server.decideMapping request client now).value.changed = true) :
    server.ledger.Changes request client server.gateway.address? now := by
  have granted : (server.decideMapping request client now).value.server.ledger.terms?
      (request.transport, request.internal client) = _ :=
    consistent.terms?_decideMapping asks known
  rw [decideMapping_of_grants server client now asks known] at changed
  have absent : server.table.get? request.transport (request.internal client) = none := by
    cases found : server.table.get? request.transport (request.internal client) with
    | none => rfl
    | some mapping =>
        simp only [Table.grant_of_some found] at changed
        cases changed
  have before : server.ledger.leases (request.transport, request.internal client) = none :=
    Table.lease?_of_get?_eq_none absent
  rw [consistent.ledger_decideMapping] at granted
  rcases Option.map_eq_some_iff.mp granted with ⟨lease, begun, _⟩
  refine ⟨(request.transport, request.internal client), ?_⟩
  rw [before, begun]
  nofun

/-- The rules are rebuilt just when a lease begins or ends. -/
theorem Consistent.changed_decideMapping_iff (consistent : server.Consistent)
    (request : MappingRequest) (client : Ipv4) (now : Int) :
    (server.decideMapping request client now).value.changed = true ↔
      server.ledger.Changes request client server.gateway.address? now := by
  constructor
  · intro changed
    cases deletes : request.deletes with
    | true => exact consistent.changes_of_deletes deletes changed
    | false =>
        cases known : server.gateway.hasExternalAddress with
        | true => exact consistent.changes_of_grants deletes known changed
        | false =>
            rw [decideMapping_of_refuses server client now deletes known] at changed
            cases changed
  · rintro ⟨key, differs⟩
    cases changed : (server.decideMapping request client now).value.changed with
    | true => rfl
    | false =>
        have same := server.redirects_decideMapping request client now changed
        rw [← consistent.ledger_decideMapping,
          (consistent.decideMapping request client now).isSome_leases,
          consistent.isSome_leases, same] at differs
        exact (differs rfl).elim

/-! ## What a server has granted -/

/-- A mapping as it can be observed: what it redirects, and when it ends. -/
structure Entry where
  transport : Transport
  internal : Endpoint4
  external : Endpoint4
  deadline : Option Int
  deriving DecidableEq, Repr

/-- The rule that makes a mapping effective. -/
def Entry.redirect (entry : Entry) : RedirectRule :=
  ⟨entry.transport, entry.external, entry.internal⟩

/-- The mappings of a server, as they can be observed. -/
def entries (server : Server β σ) : List Entry :=
  server.table.mappings.map fun mapping =>
    ⟨mapping.transport, mapping.internal, mapping.external, server.timers.deadline? mapping.timer⟩

theorem redirects_eq_entries (server : Server β σ) :
    server.redirects = server.entries.map Entry.redirect := by
  rw [entries, List.map_map]
  rfl

theorem Consistent.mem_entries (consistent : server.Consistent) {entry : Entry} :
    entry ∈ server.entries ↔
      ∃ deadline, entry.deadline = some deadline ∧
        server.ledger.leases (entry.transport, entry.internal) =
          some ⟨entry.external, deadline⟩ := by
  have leased : ∀ key lease, server.ledger.leases key = some lease ↔ _ :=
    fun key lease => consistent.table.lease?_eq_some_iff
  rw [entries, List.mem_map]
  constructor
  · rintro ⟨mapping, member, rfl⟩
    rcases Table.exists_holds consistent.timers member with ⟨deadline, holds⟩
    exact ⟨deadline, holds.2, (leased _ _).mpr ⟨mapping, holds, rfl, rfl⟩⟩
  · rintro ⟨deadline, pending, lease⟩
    rcases (leased _ _).mp lease with ⟨mapping, ⟨member, due⟩, key, external⟩
    rcases Prod.mk.inj key with ⟨transport, internal⟩
    refine ⟨mapping, member, ?_⟩
    rw [transport, internal, external, due, ← pending]

theorem Consistent.nodup_entries (consistent : server.Consistent) : server.entries.Nodup := by
  have keys : (server.entries.map fun entry => (entry.transport, entry.internal)).Nodup := by
    rw [entries, List.map_map]
    exact consistent.table.keys
  exact keys.of_map

/-- The ledger tells which mappings there are, though not in which order. -/
theorem Consistent.entries_perm {other : Server β σ} (consistent : server.Consistent)
    (otherConsistent : other.Consistent) (same : server.ledger = other.ledger) :
    server.entries.Perm other.entries := by
  rw [List.perm_ext_iff_of_nodup consistent.nodup_entries otherConsistent.nodup_entries]
  intro entry
  rw [consistent.mem_entries, otherConsistent.mem_entries, same]

/-! ## Two requests, in either order -/

section Order

variable [Backend β] [AddressSource σ]

/-- The server after a request that arrived. -/
def after (server : Server β σ) (arrival : Arrival) : Server β σ :=
  server.step (.call arrival.call)

theorem exists_after (server : Server β σ) (arrival : Arrival) :
    ∃ table timers rules, server.after arrival = { server with table, timers, rules } :=
  server_handleDatagram server arrival.datagram (.v4 arrival.peer) arrival.now

theorem gateway_after (server : Server β σ) (arrival : Arrival) :
    (server.after arrival).gateway = server.gateway := by
  rcases server.exists_after arrival with ⟨_, _, _, same⟩
  rw [same]

theorem announcer_after (server : Server β σ) (arrival : Arrival) :
    (server.after arrival).announcer = server.announcer := by
  rcases server.exists_after arrival with ⟨_, _, _, same⟩
  rw [same]

theorem after_eq (server : Server β σ) (arrival : Arrival) :
    server.after arrival =
      (server.handleMapping arrival.request arrival.client arrival.now).value.server := by
  rw [after, step, Arrival.call, respond, Handled.answer,
    handleDatagram_of_some server arrival.now arrival.served]
  rfl

theorem Consistent.ledger_after (consistent : server.Consistent) (arrival : Arrival) :
    (server.after arrival).ledger =
      server.ledger.serve arrival.request arrival.client server.gateway.address?
        arrival.now := by
  rw [after_eq, ledger_handleMapping, consistent.ledger_decideMapping]

theorem Consistent.after (consistent : server.Consistent) (arrival : Arrival) :
    (server.after arrival).Consistent :=
  consistent.step (.call arrival.call)

omit [AddressSource σ] in
theorem Consistent.rebuilds_eq_nil_iff (consistent : server.Consistent) (arrival : Arrival) :
    server.rebuilds arrival.call = [] ↔
      ¬server.ledger.Changes arrival.request arrival.client server.gateway.address?
        arrival.now := by
  have asked : server.rebuilds arrival.call =
      server.rebuildsOfRequest arrival.request arrival.client arrival.now := by
    simp only [Arrival.call, rebuilds, arrival.served]
    rfl
  rw [← consistent.changed_decideMapping_iff, asked, rebuildsOfRequest]
  split
  next changed => exact iff_of_false (List.cons_ne_nil _ _) (not_not_intro changed)
  next unchanged => exact iff_of_true rfl unchanged

/-- After two requests a filter that never fails has the rules that were rebuilt last. -/
theorem active_after_after_eq (filter : Dependable β)
    (sound : filter.Sound server.rules.backend) (first second : Arrival) :
    let rebuilds := server.rebuilds first.call ++ (server.after first).rebuilds second.call
    filter.active ((server.after first).after second).rules.backend =
        lastAsked (filter.active server.rules.backend) rebuilds ∧
      ((server.after first).after second).redirects = lastAsked server.redirects rebuilds := by
  intro rebuilds
  have rebuilt : Rebuilt server.rules rebuilds ((server.after first).after second).rules :=
    (server.rebuilt_respond first.call).append ((server.after first).rebuilt_respond second.call)
  constructor
  · exact (filter.active_of_rebuilt rebuilt sound).2
  · rw [lastAsked_append, ← server.redirects_respond first.call]
    exact (server.after first).redirects_respond second.call

section Swap

variable {left right : Arrival}

theorem Consistent.drawsFor_after (consistent : server.Consistent)
    (different : left.client ≠ right.client) :
    (server.after right).DrawsFor left ↔ server.DrawsFor left := by
  rw [DrawsFor, consistent.ledger_after, gateway_after]
  exact Ledger.draws_serve_of_other server.ledger right.request right.now different

variable (consistent : server.Consistent) (different : left.client ≠ right.client)
variable (still : ¬server.DrawsFor left ∨ ¬server.DrawsFor right)
include consistent different still

/-- The same port is drawn for a request, whether or not the other came first. -/
theorem draw?_after :
    (server.after right).draw? (.call left.call) = server.draw? (.call left.call) := by
  apply Option.ext
  intro port
  rw [(consistent.after right).draw?_eq_some_iff, consistent.draw?_eq_some_iff,
    consistent.drawsFor_after different]
  apply and_congr_right
  intro draws
  have rightStill := still.resolve_left (not_not_intro draws)
  have ports : (server.after right).table.ports = server.table.ports := by
    have same := congrArg Ledger.ports (consistent.ledger_after right)
    rw [Ledger.ports_serve rightStill] at same
    exact same
  rw [ports]

/-- And it is answered alike. -/
theorem result_respond_after :
    ((server.after right).respond left.call).result = (server.respond left.call).result := by
  have gateway := server.gateway_after right
  have terms : ((server.after right).decideMapping left.request left.client
      left.now).value.server.ledger.terms? (left.request.transport,
        left.request.internal left.client) =
      (server.decideMapping left.request left.client left.now).value.server.ledger.terms?
        (left.request.transport, left.request.internal left.client) := by
    rw [(consistent.after right).ledger_decideMapping, consistent.ledger_decideMapping,
      consistent.ledger_after, gateway, Ledger.terms?, Ledger.terms?,
      Ledger.leases_serve_serve different still]
    rfl
  have told := told_of_terms (consistent.after right) consistent gateway left.request left.now terms
  exact result_respond_of_told gateway left.served left.now told

theorem ledger_after_after :
    ((server.after left).after right).ledger = ((server.after right).after left).ledger := by
  rw [(consistent.after left).ledger_after, (consistent.after right).ledger_after,
    consistent.ledger_after, consistent.ledger_after, gateway_after, gateway_after]
  exact Ledger.serve_comm different still left.now right.now

theorem rebuilds_after_eq_nil_iff :
    (server.after right).rebuilds left.call = [] ↔ server.rebuilds left.call = [] := by
  rw [(consistent.after right).rebuilds_eq_nil_iff, consistent.rebuilds_eq_nil_iff,
    consistent.ledger_after, gateway_after, Ledger.changes_serve different still]

theorem entries_after_after :
    ((server.after left).after right).entries.Perm ((server.after right).after left).entries := by
  have leftFirst := (consistent.after left).after right
  have rightFirst := (consistent.after right).after left
  exact leftFirst.entries_perm rightFirst (ledger_after_after consistent different still)

/-- Over a filter that never fails the same rules are in force, up to their order. -/
theorem active_after_after (filter : Dependable β) (sound : filter.Sound server.rules.backend) :
    (filter.active ((server.after left).after right).rules.backend).Perm
      (filter.active ((server.after right).after left).rules.backend) := by
  have leftFirst := active_after_after_eq filter sound left right
  have rightFirst := active_after_after_eq filter sound right left
  have sameLeft := rebuilds_after_eq_nil_iff consistent different still
  have sameRight := rebuilds_after_eq_nil_iff consistent different.symm still.symm
  rw [leftFirst.1, rightFirst.1]
  by_cases idle : server.rebuilds left.call = [] ∧ server.rebuilds right.call = []
  · rw [idle.1, idle.2, sameLeft.mpr idle.1, sameRight.mpr idle.2]
  · have leftRebuilt :
        server.rebuilds left.call ++ (server.after left).rebuilds right.call ≠ [] := by
      rw [ne_eq, List.append_eq_nil_iff, sameRight]
      exact idle
    have rightRebuilt :
        server.rebuilds right.call ++ (server.after right).rebuilds left.call ≠ [] := by
      rw [ne_eq, List.append_eq_nil_iff, sameLeft, and_comm]
      exact idle
    rw [lastAsked_of_ne_nil leftRebuilt _ server.redirects, ← leftFirst.2,
      lastAsked_of_ne_nil rightRebuilt _ server.redirects, ← rightFirst.2, redirects_eq_entries,
      redirects_eq_entries]
    exact (entries_after_after consistent different still).map _

end Swap

end Order

/-- Requests of different clients can be handled in either order, if at most one of them draws a
port.  Each client gets the same reply, at the same port drawn; the same mappings are in force
until the same deadlines, though not listed in the same order; the gateway, the announcer, what
it plans and the ports still to be drawn are the same; and so are the rules in force, over a
filter that never fails. -/
theorem requests_commute [Backend β] [AddressSource σ] (reachable : server.Reachable)
    {left right : Arrival} (different : left.client ≠ right.client)
    (oneDraws : server.draw? (.call left.call) = none ∨
      (server.after left).draw? (.call right.call) = none) :
    let leftFirst := (server.after left).after right
    let rightFirst := (server.after right).after left
    (server.respond left.call).result = ((server.after right).respond left.call).result ∧
      ((server.after left).respond right.call).result = (server.respond right.call).result ∧
      server.draw? (.call left.call) = (server.after right).draw? (.call left.call) ∧
      (server.after left).draw? (.call right.call) = server.draw? (.call right.call) ∧
      leftFirst.entries.Perm rightFirst.entries ∧ leftFirst.gateway = rightFirst.gateway ∧
      leftFirst.announcer = rightFirst.announcer ∧ leftFirst.planned? = rightFirst.planned? ∧
      leftFirst.table.ports = rightFirst.table.ports ∧
      ∀ filter : Dependable β, filter.Sound server.rules.backend →
        (filter.active leftFirst.rules.backend).Perm
          (filter.active rightFirst.rules.backend) := by
  intro leftFirst rightFirst
  have consistent := reachable.consistent
  have still : ¬server.DrawsFor left ∨ ¬server.DrawsFor right := by
    rw [consistent.draw?_eq_none_iff, (consistent.after left).draw?_eq_none_iff,
      consistent.drawsFor_after different.symm] at oneDraws
    exact oneDraws
  have ledgers := ledger_after_after consistent different still
  have planned : ∀ first second : Arrival,
      ((server.after first).after second).planned? = server.planned? := by
    intro first second
    exact ((consistent.after first).planned?_handleDatagram _ _ _).trans
      (consistent.planned?_handleDatagram _ _ _)
  refine ⟨?_, ?_, ?_, ?_, ?_, ?_, ?_, ?_, ?_, ?_⟩
  · exact (result_respond_after consistent different still).symm
  · exact result_respond_after consistent different.symm still.symm
  · exact (draw?_after consistent different still).symm
  · exact draw?_after consistent different.symm still.symm
  · exact entries_after_after consistent different still
  · simp only [leftFirst, rightFirst, gateway_after]
  · simp only [leftFirst, rightFirst, announcer_after]
  · simp only [leftFirst, rightFirst, planned]
  · exact congrArg Ledger.ports ledgers
  · intro filter sound
    exact active_after_after consistent different still filter sound

/-- A server that has a mapping for each of two clients, and two ports still to be drawn. -/
def withTwoClients : Server MemoryFilter AddressTable :=
  (new ⟨.empty, 0⟩ oneInterface 0 (.ofList [40000, 50000, 60000, 61000])).run
    [.call (.checkInterface 0), .call (.ask ⟨10, 0, 0, 5⟩ ⟨.udp, 80, 0, 60⟩ 0),
      .call (.ask ⟨10, 0, 0, 6⟩ ⟨.tcp, 22, 0, 60⟩ 0)]

/-- One client maps its port under the other transport as well, which draws no port. -/
def related : Arrival := .ask ⟨10, 0, 0, 5⟩ ⟨.tcp, 80, 0, 3600⟩ (seconds 2)

/-- The other client maps another port, which draws one. -/
def unrelated : Arrival := .ask ⟨10, 0, 0, 6⟩ ⟨.udp, 53, 0, 60⟩ (seconds 1)

/-- Which request came first shows in the order of the mappings and of the rules, and nowhere
else. -/
theorem requests_commute_of_oneRelated :
    let relatedFirst := (withTwoClients.after related).after unrelated
    let unrelatedFirst := (withTwoClients.after unrelated).after related
    withTwoClients.Reachable ∧ related.client ≠ unrelated.client ∧
      withTwoClients.draw? (.call related.call) = none ∧
      (withTwoClients.after related).draw? (.call unrelated.call) = some 60000 ∧
      withTwoClients.draw? (.call unrelated.call) = some 60000 ∧
      MemoryFilter.dependable.Sound withTwoClients.rules.backend ∧
      relatedFirst.entries ≠ unrelatedFirst.entries ∧
      relatedFirst.entries.Perm unrelatedFirst.entries ∧
      relatedFirst.rules.backend.active ≠ unrelatedFirst.rules.backend.active ∧
      relatedFirst.rules.backend.active.Perm unrelatedFirst.rules.backend.active := by
  intro relatedFirst unrelatedFirst
  have reachable : withTwoClients.Reachable := (reachable_new _ _ _ _).run _
  have different : related.client ≠ unrelated.client := by decide
  have still : withTwoClients.draw? (.call related.call) = none := by decide +kernel
  have sound : MemoryFilter.dependable.Sound withTwoClients.rules.backend := ⟨rfl, rfl⟩
  rcases requests_commute reachable different (.inl still) with
    ⟨_, _, _, drawn, entries, _, _, _, _, active⟩
  have port : withTwoClients.draw? (.call unrelated.call) = some 60000 := by decide +kernel
  exact ⟨reachable, different, still, drawn.trans port, port, sound, by decide +kernel, entries,
    by decide +kernel, active MemoryFilter.dependable sound⟩

end Server

end PortMapping
