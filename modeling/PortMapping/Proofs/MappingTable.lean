import PortMapping.Mapping.Table
import PortMapping.Proofs.TimerQueue

/-!
# Well-formed mapping tables

In a well-formed table no two mappings serve the same transport and internal
endpoint, and identifiers are handed out once.  The table and the timer queue are
tied together: the queue serves one timer for each mapping, besides the timers of
`others`, which no operation of the table touches.  `Table.Holds` says which
mappings are in force and until when; each operation is described by what it does
to that relation.
-/

namespace PortMapping

namespace Mapping

/-- What a mapping is found by. -/
def key (mapping : Mapping) : Transport × Endpoint4 :=
  (mapping.transport, mapping.internal)

/-- The timer of a mapping with the event that it carries. -/
def owner (mapping : Mapping) : TimerId × TimerEvent :=
  (mapping.timer, .expire mapping.id)

theorem serves_iff {mapping : Mapping} {transport : Transport} {internal : Endpoint4} :
    mapping.serves transport internal = true ↔ mapping.key = (transport, internal) := by
  simp [serves, key]

theorem leadsTo_iff {mapping : Mapping} {transport : Transport} {address : Ipv4}
    {port : UInt16} :
    mapping.leadsTo transport address port = true ↔
      mapping.transport = transport ∧ mapping.internal.address = address ∧
        (port = 0 ∨ mapping.internal.port = port) := by
  simp [leadsTo, and_assoc]

theorem leadsTo_iff_of_key_eq {mapping : Mapping} {transport served : Transport}
    {address client : Ipv4} {port clientPort : UInt16}
    (key : mapping.key = (served, ⟨client, clientPort⟩)) :
    mapping.leadsTo transport address port = true ↔
      served = transport ∧ client = address ∧ (port = 0 ∨ clientPort = port) := by
  rcases Prod.mk.inj key with ⟨transportSame, internalSame⟩
  rw [leadsTo_iff, transportSame, internalSame]

end Mapping

namespace Table

variable {table : Table} {timers : TimerQueue TimerEvent}
variable {others : List (TimerId × TimerEvent)} {mapping : Mapping} {deadline : Int}

/-- The timers of the mappings, with their events. -/
def owners (table : Table) : List (TimerId × TimerEvent) := table.mappings.map Mapping.owner

/-- A mapping is in force until a deadline. -/
def Holds (table : Table) (timers : TimerQueue TimerEvent) (mapping : Mapping)
    (deadline : Int) : Prop :=
  mapping ∈ table.mappings ∧ timers.deadline? mapping.timer = some deadline

/-- What is in force depends on the timers of the mappings alone. -/
theorem holds_congr {later : TimerQueue TimerEvent}
    (same : ∀ mapping ∈ table.mappings,
      later.deadline? mapping.timer = timers.deadline? mapping.timer) :
    table.Holds later mapping deadline ↔ table.Holds timers mapping deadline := by
  constructor
  · intro ⟨member, pending⟩
    exact ⟨member, (same mapping member).symm.trans pending⟩
  · intro ⟨member, pending⟩
    exact ⟨member, (same mapping member).trans pending⟩

/-- Mappings are told apart by transport and internal endpoint, and by identifier. -/
structure WellFormed (table : Table) : Prop where
  keys : (table.mappings.map Mapping.key).Nodup
  ids : (table.mappings.map (·.id)).Nodup
  /-- Every identifier was handed out before. -/
  issued : ∀ mapping ∈ table.mappings, mapping.id.index < table.nextId

namespace WellFormed

theorem empty (ports : PortSource) : (empty ports).WellFormed :=
  ⟨.nil, .nil, nofun⟩

theorem eq_of_key_eq (wf : table.WellFormed) {left right : Mapping}
    (leftMember : left ∈ table.mappings) (rightMember : right ∈ table.mappings)
    (same : left.key = right.key) : left = right :=
  List.inj_on_of_nodup_map wf.keys leftMember rightMember same

theorem eq_of_id_eq (wf : table.WellFormed) {left right : Mapping}
    (leftMember : left ∈ table.mappings) (rightMember : right ∈ table.mappings)
    (same : left.id = right.id) : left = right :=
  List.inj_on_of_nodup_map wf.ids leftMember rightMember same

/-- A selection of the mappings is well-formed again. -/
theorem sublist (wf : table.WellFormed) {mappings : List Mapping}
    (selected : mappings.Sublist table.mappings) :
    ({ table with mappings } : Table).WellFormed where
  keys := (selected.map _).nodup wf.keys
  ids := (selected.map _).nodup wf.ids
  issued := fun mapping member => wf.issued mapping (selected.mem member)

end WellFormed

/-! ## Looking mappings up -/

theorem mem_of_get?_eq_some {transport : Transport} {internal : Endpoint4}
    (found : table.get? transport internal = some mapping) :
    mapping ∈ table.mappings ∧ mapping.key = (transport, internal) := by
  rw [get?] at found
  have served := List.find?_some found
  exact ⟨List.mem_of_find?_eq_some found, Mapping.serves_iff.mp served⟩

/-- A mapping is found exactly by its transport and internal endpoint. -/
theorem WellFormed.get?_eq_some_iff (wf : table.WellFormed) {transport : Transport}
    {internal : Endpoint4} :
    table.get? transport internal = some mapping ↔
      mapping ∈ table.mappings ∧ mapping.key = (transport, internal) := by
  constructor
  · exact mem_of_get?_eq_some
  · intro present
    cases found : table.get? transport internal with
    | none =>
        have unserved := List.find?_eq_none.mp found mapping present.1
        exact (unserved (Mapping.serves_iff.mpr present.2)).elim
    | some other =>
        rcases mem_of_get?_eq_some found with ⟨otherMember, otherKey⟩
        rw [wf.eq_of_key_eq otherMember present.1 (otherKey.trans present.2.symm)]

theorem get?_eq_none_iff {transport : Transport} {internal : Endpoint4} :
    table.get? transport internal = none ↔
      ∀ mapping ∈ table.mappings, mapping.key ≠ (transport, internal) := by
  simp [get?, Mapping.serves_iff]

/-- A related port is that of a mapping for the internal endpoint. -/
theorem exists_mapping_of_relatedPort? {internal : Endpoint4} {port : UInt16}
    (related : table.relatedPort? internal = some port) :
    ∃ mapping ∈ table.mappings, mapping.internal = internal ∧ mapping.external.port = port := by
  rcases Option.map_eq_some_iff.mp related with ⟨mapping, last, portSame⟩
  rcases List.mem_filter.mp (List.mem_of_getLast? last) with ⟨member, leads⟩
  exact ⟨mapping, member, of_decide_eq_true leads, portSame⟩

/-- Without a related port no mapping is for the internal endpoint. -/
theorem internal_ne_of_relatedPort?_eq_none {internal : Endpoint4}
    (unrelated : table.relatedPort? internal = none) (member : mapping ∈ table.mappings) :
    mapping.internal ≠ internal := by
  have nothing := List.getLast?_eq_none_iff.mp (Option.map_eq_none_iff.mp unrelated)
  have left := List.filter_eq_nil_iff.mp nothing mapping member
  simpa using left

/-- Where a transport has no mapping for an internal endpoint, the related port is
that of the mapping under the other transport. -/
theorem WellFormed.relatedPort?_eq (wf : table.WellFormed) {transport : Transport}
    {internal : Endpoint4} (absent : table.get? transport internal = none) :
    table.relatedPort? internal =
      (table.get? transport.other internal).map (·.external.port) := by
  have otherKey : ∀ mapping ∈ table.mappings, mapping.internal = internal →
      mapping.key = (transport.other, internal) := by
    intro mapping member same
    have unserved := get?_eq_none_iff.mp absent mapping member
    rw [Mapping.key, same] at unserved ⊢
    cases transport <;> cases under : mapping.transport <;> simp_all [Transport.other]
  rw [relatedPort?]
  cases found : table.get? transport.other internal with
  | none =>
      have noneLeft : table.mappings.filter (fun mapping => mapping.internal = internal) =
          [] := by
        apply List.filter_eq_nil_iff.mpr
        intro mapping member same
        exact get?_eq_none_iff.mp found mapping member
          (otherKey mapping member (of_decide_eq_true same))
      rw [noneLeft]
      rfl
  | some mapping =>
      rcases wf.get?_eq_some_iff.mp found with ⟨member, mappingKey⟩
      have leadsThere : mapping.internal = internal := (Prod.ext_iff.mp mappingKey).2
      -- Whichever mapping is last, it has the key of `mapping`.
      cases last : (table.mappings.filter fun mapping => mapping.internal = internal).getLast? with
      | none =>
          have nothing := List.getLast?_eq_none_iff.mp last
          exact (List.filter_eq_nil_iff.mp nothing mapping member
            (decide_eq_true leadsThere)).elim
      | some other =>
          have selected := List.mem_filter.mp (List.mem_of_getLast? last)
          have otherIs := otherKey other selected.1 (of_decide_eq_true selected.2)
          rw [wf.eq_of_key_eq selected.1 member (otherIs.trans mappingKey.symm)]

/-! ## Mappings and their timers -/

theorem mem_owners {table : Table} {mapping : Mapping} (member : mapping ∈ table.mappings) :
    mapping.owner ∈ table.owners ++ others :=
  List.mem_append_left others (List.mem_map_of_mem member)

/-- No mapping's timer announces anything. -/
theorem ne_announce_of_mem_owners {table : Table} {owner : TimerId × TimerEvent}
    (member : owner ∈ table.owners) : owner.2 ≠ .announce := by
  rcases List.mem_map.mp member with ⟨mapping, _, rfl⟩
  exact nofun

/-- Distinct mappings have distinct timers. -/
theorem timers_nodup (serves : timers.Serves (table.owners ++ others)) :
    (table.mappings.map (·.timer)).Nodup := by
  have distinct := serves.distinct
  rw [List.map_append, owners, List.map_map] at distinct
  exact (List.nodup_append.mp distinct).1

theorem eq_of_timer_eq (serves : timers.Serves (table.owners ++ others))
    {left right : Mapping} (leftMember : left ∈ table.mappings)
    (rightMember : right ∈ table.mappings) (same : left.timer = right.timer) :
    left = right :=
  List.inj_on_of_nodup_map (timers_nodup serves) leftMember rightMember same

/-- No mapping shares its timer with another owner. -/
theorem timer_ne_of_mem_others (serves : timers.Serves (table.owners ++ others))
    (member : mapping ∈ table.mappings) {other : TimerId × TimerEvent}
    (otherMember : other ∈ others) : other.1 ≠ mapping.timer := by
  intro same
  have distinct := serves.distinct
  rw [List.map_append] at distinct
  have apart := (List.nodup_append.mp distinct).2.2
  exact apart mapping.timer (List.mem_map_of_mem (List.mem_map_of_mem member)) other.1
    (List.mem_map_of_mem otherMember) same.symm

/-- A mapping's timer was armed before. -/
theorem timer_ne_next (serves : timers.Serves (table.owners ++ others))
    (member : mapping ∈ table.mappings) : mapping.timer ≠ ⟨timers.nextId⟩ :=
  serves.ne_next (mem_owners member)

/-- Every mapping of a table is in force until some deadline. -/
theorem exists_holds (serves : timers.Serves (table.owners ++ others))
    (member : mapping ∈ table.mappings) : ∃ deadline, table.Holds timers mapping deadline := by
  rcases serves.exists_deadline (mem_owners member) with ⟨deadline, pending⟩
  exact ⟨deadline, member, pending⟩

/-- Selecting owners by their timers selects mappings, as long as the timers of
`others` are all kept. -/
theorem filter_owners (keeps : TimerId → Bool) (stays : Mapping → Bool)
    (agree : ∀ mapping ∈ table.mappings, keeps mapping.timer = stays mapping)
    (othersKept : ∀ other ∈ others, keeps other.1 = true) :
    (table.owners ++ others).filter (fun owner => keeps owner.1) =
      (table.mappings.filter stays).map Mapping.owner ++ others := by
  rw [List.filter_append, owners, List.filter_map, List.filter_eq_self.mpr othersKept]
  congr 2
  exact List.filter_congr agree

/-- Apart from a mapping itself, the rest of the table are the mappings with other
identifiers. -/
theorem WellFormed.perm_cons_filter (wf : table.WellFormed)
    (member : mapping ∈ table.mappings) :
    table.mappings.Perm (mapping :: table.mappings.filter fun other => other.id ≠ mapping.id) := by
  have erased := List.perm_cons_erase member
  rw [(List.Nodup.of_map _ wf.ids).erase_eq_filter mapping] at erased
  have same : table.mappings.filter (· != mapping) =
      table.mappings.filter fun other => other.id ≠ mapping.id := by
    apply List.filter_congr
    intro other otherMember
    by_cases equal : other = mapping
    · simp [equal]
    · have different : other.id ≠ mapping.id := fun same =>
        equal (wf.eq_of_id_eq otherMember member same)
      simp [equal, different]
  rwa [same] at erased

/-! ## Cancelling timers -/

theorem serves_cancelTimers {owners : List (TimerId × TimerEvent)}
    (serves : timers.Serves owners) (leaving : List Mapping) :
    (cancelTimers timers leaving).Serves
      (owners.filter fun owner => owner.1 ∉ leaving.map (·.timer)) := by
  induction leaving generalizing timers owners with
  | nil => simpa [cancelTimers] using serves
  | cons mapping rest ih =>
      have later := ih (serves.cancel mapping.timer)
      rw [List.filter_filter] at later
      have same : (owners.filter fun owner => owner.1 ∉ (mapping :: rest).map (·.timer)) =
          owners.filter fun owner =>
            decide (owner.1 ∉ rest.map (·.timer)) && decide (owner.1 ≠ mapping.timer) := by
        apply List.filter_congr
        intro owner _
        rw [← Bool.decide_and]
        apply decide_eq_decide.mpr
        rw [List.map_cons, List.mem_cons, not_or, and_comm]
      rw [same]
      exact later

theorem deadline?_cancelTimers (wf : timers.WellFormed) (leaving : List Mapping)
    (timer : TimerId) :
    (cancelTimers timers leaving).deadline? timer =
      if timer ∈ leaving.map (·.timer) then none else timers.deadline? timer := by
  induction leaving generalizing timers with
  | nil => simp [cancelTimers]
  | cons mapping rest ih =>
      have later := ih (wf.cancel mapping.timer)
      rw [wf.cancel_eq, TimerQueue.deadline?_without, ← wf.cancel_eq] at later
      rw [cancelTimers, List.foldl_cons]
      rw [cancelTimers] at later
      rw [later]
      by_cases first : timer = mapping.timer
      · simp [first]
      · simp [first]

/-! ## Removing mappings -/

section Remove

variable {transport : Transport} {address : Ipv4} {port : UInt16}

theorem WellFormed.remove (wf : table.WellFormed) (timers : TimerQueue TimerEvent)
    (transport : Transport) (address : Ipv4) (port : UInt16) :
    (table.remove timers transport address port).table.WellFormed :=
  wf.sublist List.filter_sublist

/-- A mapping's timer is among those of a selection exactly if it is selected. -/
theorem timer_mem_filter (serves : timers.Serves (table.owners ++ others))
    (member : mapping ∈ table.mappings) (leaves : Mapping → Bool) :
    mapping.timer ∈ (table.mappings.filter leaves).map (·.timer) ↔ leaves mapping = true := by
  constructor
  · intro among
    rcases List.mem_map.mp among with ⟨other, otherMember, same⟩
    rcases List.mem_filter.mp otherMember with ⟨otherPresent, otherLeaves⟩
    rwa [← eq_of_timer_eq serves otherPresent member same]
  · intro leaving
    exact List.mem_map_of_mem (List.mem_filter.mpr ⟨member, leaving⟩)

/-- The timers of `others` are not among those of a selection. -/
theorem other_not_mem_filter (serves : timers.Serves (table.owners ++ others))
    {other : TimerId × TimerEvent} (otherMember : other ∈ others) (leaves : Mapping → Bool) :
    other.1 ∉ (table.mappings.filter leaves).map (·.timer) := by
  intro among
  rcases List.mem_map.mp among with ⟨mapping, member, same⟩
  exact timer_ne_of_mem_others serves (List.mem_filter.mp member).1 otherMember same.symm

theorem serves_remove (serves : timers.Serves (table.owners ++ others)) :
    (table.remove timers transport address port).timers.Serves
      ((table.remove timers transport address port).table.owners ++ others) := by
  have cancelled := serves_cancelTimers serves
    (table.mappings.filter (·.leadsTo transport address port))
  rw [filter_owners
    (fun timer => timer ∉
      (table.mappings.filter (·.leadsTo transport address port)).map (·.timer))
    (fun mapping => !mapping.leadsTo transport address port)] at cancelled
  · exact cancelled
  · intro mapping member
    simp only [timer_mem_filter serves member]
    cases mapping.leadsTo transport address port <;> rfl
  · intro other otherMember
    exact decide_eq_true (other_not_mem_filter serves otherMember _)

/-- Removal cancels no timers of `others`. -/
theorem deadline?_remove_of_mem_others (serves : timers.Serves (table.owners ++ others))
    {other : TimerId × TimerEvent} (otherMember : other ∈ others) :
    (table.remove timers transport address port).timers.deadline? other.1 =
      timers.deadline? other.1 := by
  rw [remove, deadline?_cancelTimers serves.wellFormed]
  exact if_neg (other_not_mem_filter serves otherMember _)

/-- Removal ends the mappings that lead there and touches no others. -/
theorem holds_remove (serves : timers.Serves (table.owners ++ others)) :
    (table.remove timers transport address port).table.Holds
        (table.remove timers transport address port).timers mapping deadline ↔
      table.Holds timers mapping deadline ∧
        mapping.leadsTo transport address port = false := by
  simp only [Holds, remove, deadline?_cancelTimers serves.wellFormed, List.mem_filter,
    Bool.not_eq_true']
  constructor
  · intro ⟨⟨member, stays⟩, pending⟩
    rw [if_neg (by rw [timer_mem_filter serves member, stays]; simp)] at pending
    exact ⟨⟨member, pending⟩, stays⟩
  · intro ⟨⟨member, pending⟩, stays⟩
    rw [if_neg (by rw [timer_mem_filter serves member, stays]; simp)]
    exact ⟨⟨member, stays⟩, pending⟩

end Remove

theorem WellFormed.clear (wf : table.WellFormed) (timers : TimerQueue TimerEvent) :
    (table.clear timers).table.WellFormed :=
  wf.sublist (List.nil_sublist _)

/-! ## Renewing a mapping -/

section Refresh

variable {now : Int} {lifetime : Nat}

/-- A mapping with another timer. -/
def renewed (mapping : Mapping) (timer : TimerId) (other : Mapping) : Mapping :=
  if other.id = mapping.id then { other with timer } else other

theorem mappings_refresh (wf : timers.WellFormed) (mapping : Mapping) (now : Int)
    (lifetime : Nat) :
    (table.refresh timers now mapping lifetime).table.mappings =
      table.mappings.map (renewed mapping ⟨timers.nextId⟩) := by
  rw [refresh, wf.cancel_eq]
  rfl

theorem key_renewed (timer : TimerId) (other : Mapping) :
    (renewed mapping timer other).key = other.key := by
  rw [renewed]
  split <;> rfl

theorem id_renewed (timer : TimerId) (other : Mapping) :
    (renewed mapping timer other).id = other.id := by
  rw [renewed]
  split <;> rfl

theorem WellFormed.refresh (wf : table.WellFormed) (timersWf : timers.WellFormed)
    (mapping : Mapping) (now : Int) (lifetime : Nat) :
    (table.refresh timers now mapping lifetime).table.WellFormed where
  keys := by
    have same : Mapping.key ∘ renewed mapping ⟨timers.nextId⟩ = Mapping.key :=
      funext (key_renewed _)
    rw [mappings_refresh timersWf, List.map_map, same]
    exact wf.keys
  ids := by
    have same : (·.id) ∘ renewed mapping ⟨timers.nextId⟩ = (·.id) := funext (id_renewed _)
    rw [mappings_refresh timersWf, List.map_map, same]
    exact wf.ids
  issued := by
    intro other member
    rw [mappings_refresh timersWf] at member
    rcases List.mem_map.mp member with ⟨old, oldMember, rfl⟩
    rw [id_renewed]
    exact wf.issued old oldMember

/-- The renewed mapping gives up its timer for the one armed last. -/
theorem serves_refresh (wf : table.WellFormed)
    (serves : timers.Serves (table.owners ++ others)) (member : mapping ∈ table.mappings) :
    (table.refresh timers now mapping lifetime).timers.Serves
      ((table.refresh timers now mapping lifetime).table.owners ++ others) := by
  have armed := (serves.cancel mapping.timer).arm now lifetime (.expire mapping.id)
  rw [filter_owners (fun timer => timer ≠ mapping.timer) fun other => other.id ≠ mapping.id]
    at armed
  · apply armed.perm
    rw [owners, mappings_refresh serves.wellFormed, serves.wellFormed.cancel_eq,
      ← List.cons_append]
    apply List.Perm.append_right others
    have split := (wf.perm_cons_filter member).map
      (Mapping.owner ∘ renewed mapping ⟨timers.nextId⟩)
    have kept : (table.mappings.filter fun other => other.id ≠ mapping.id).map
          (Mapping.owner ∘ renewed mapping ⟨timers.nextId⟩) =
        (table.mappings.filter fun other => other.id ≠ mapping.id).map Mapping.owner := by
      apply List.map_congr_left
      intro other otherMember
      have different := of_decide_eq_true (List.mem_filter.mp otherMember).2
      simp [renewed, different]
    have first : (Mapping.owner ∘ renewed mapping ⟨timers.nextId⟩) mapping =
        (⟨timers.nextId⟩, .expire mapping.id) := by
      simp [renewed, Mapping.owner]
    rw [List.map_cons, first, kept, ← List.map_map] at split
    exact split.symm
  · intro other otherMember
    apply decide_eq_decide.mpr
    constructor
    · intro different same
      exact different (wf.eq_of_id_eq otherMember member same ▸ rfl)
    · intro different same
      exact different (eq_of_timer_eq serves otherMember member same ▸ rfl)
  · intro other otherMember
    exact decide_eq_true (timer_ne_of_mem_others serves member otherMember)

theorem deadline?_refresh (wf : timers.WellFormed) (timer : TimerId) :
    (table.refresh timers now mapping lifetime).timers.deadline? timer =
      if timer = ⟨timers.nextId⟩ then some (now + lifetime)
      else if timer = mapping.timer then none
      else timers.deadline? timer := by
  rw [refresh, wf.cancel_eq, TimerQueue.deadline?_arm, TimerQueue.deadline?_without]
  rfl

/-- Renewal gives the mapping a new deadline and touches no others. -/
theorem holds_refresh (wf : table.WellFormed)
    (serves : timers.Serves (table.owners ++ others)) (member : mapping ∈ table.mappings)
    {other : Mapping} :
    (table.refresh timers now mapping lifetime).table.Holds
        (table.refresh timers now mapping lifetime).timers other deadline ↔
      (other = { mapping with timer := ⟨timers.nextId⟩ } ∧ deadline = now + lifetime) ∨
        (table.Holds timers other deadline ∧ other.id ≠ mapping.id) := by
  rw [Holds, Holds, mappings_refresh serves.wellFormed, deadline?_refresh serves.wellFormed]
  constructor
  · intro ⟨otherMember, pending⟩
    rcases List.mem_map.mp otherMember with ⟨old, oldMember, rfl⟩
    by_cases same : old.id = mapping.id
    · rw [wf.eq_of_id_eq oldMember member same] at pending ⊢
      have isNew : renewed mapping ⟨timers.nextId⟩ mapping =
          { mapping with timer := ⟨timers.nextId⟩ } := if_pos rfl
      rw [isNew] at pending ⊢
      exact .inl ⟨rfl, (Option.some.inj ((if_pos rfl).symm.trans pending)).symm⟩
    · have isOld : renewed mapping ⟨timers.nextId⟩ old = old := if_neg same
      rw [isOld, if_neg (timer_ne_next serves oldMember)] at pending
      rw [isOld]
      split at pending
      · contradiction
      · exact .inr ⟨⟨oldMember, pending⟩, same⟩
  · rintro (⟨rfl, rfl⟩ | ⟨⟨otherMember, pending⟩, different⟩)
    · exact ⟨List.mem_map.mpr ⟨mapping, member, if_pos rfl⟩, if_pos rfl⟩
    · have apart : other.timer ≠ mapping.timer := fun same =>
        different (eq_of_timer_eq serves otherMember member same ▸ rfl)
      rw [if_neg (timer_ne_next serves otherMember), if_neg apart]
      exact ⟨List.mem_map.mpr ⟨other, otherMember, if_neg different⟩, pending⟩

end Refresh

/-! ## Adding a mapping -/

section Create

variable {now : Int} {transport : Transport} {internal : Endpoint4} {address : Ipv4}
variable {lifetime : Nat}

/-- The mapping that is added for an internal endpoint, with the port of the related
mapping or the next one drawn. -/
def added (table : Table) (timers : TimerQueue TimerEvent) (transport : Transport)
    (internal : Endpoint4) (address : Ipv4) : Mapping where
  id := ⟨table.nextId⟩
  transport := transport
  external := ⟨address, (table.relatedPort? internal).getD table.ports.next⟩
  internal := internal
  timer := ⟨timers.nextId⟩

theorem mappings_create :
    (table.create timers now transport internal address lifetime).table.mappings =
      table.mappings ++ [table.added timers transport internal address] := rfl

theorem WellFormed.create (wf : table.WellFormed)
    (absent : table.get? transport internal = none) :
    (table.create timers now transport internal address lifetime).table.WellFormed where
  keys := by
    rw [mappings_create, List.map_append]
    apply List.nodup_append.mpr
    refine ⟨wf.keys, List.pairwise_singleton _ _, ?_⟩
    intro left leftMember right rightMember same
    rcases List.mem_map.mp leftMember with ⟨mapping, member, rfl⟩
    rw [List.mem_singleton.mp rightMember] at same
    exact get?_eq_none_iff.mp absent mapping member same
  ids := by
    rw [mappings_create, List.map_append]
    apply List.nodup_append.mpr
    refine ⟨wf.ids, List.pairwise_singleton _ _, ?_⟩
    intro left leftMember right rightMember same
    rcases List.mem_map.mp leftMember with ⟨mapping, member, rfl⟩
    have older := wf.issued mapping member
    rw [same, List.mem_singleton.mp rightMember] at older
    exact Nat.lt_irrefl _ older
  issued := by
    intro mapping member
    rcases List.mem_append.mp member with member | member
    · exact Nat.lt_succ_of_lt (wf.issued mapping member)
    · rw [List.mem_singleton.mp member]
      exact Nat.lt_succ_self table.nextId

theorem serves_create (serves : timers.Serves (table.owners ++ others)) :
    (table.create timers now transport internal address lifetime).timers.Serves
      ((table.create timers now transport internal address lifetime).table.owners ++
        others) := by
  apply (serves.arm now lifetime (.expire ⟨table.nextId⟩)).perm
  rw [owners, owners, mappings_create, List.map_append, List.append_assoc]
  exact List.perm_middle.symm

/-- Adding a mapping touches no others. -/
theorem holds_create (serves : timers.Serves (table.owners ++ others)) :
    (table.create timers now transport internal address lifetime).table.Holds
        (table.create timers now transport internal address lifetime).timers mapping deadline ↔
      (mapping = table.added timers transport internal address ∧ deadline = now + lifetime) ∨
        table.Holds timers mapping deadline := by
  rw [Holds, Holds, mappings_create, List.mem_append, List.mem_singleton, create,
    TimerQueue.deadline?_arm]
  constructor
  · rintro ⟨member | rfl, pending⟩
    · rw [if_neg (timer_ne_next serves member)] at pending
      exact .inr ⟨member, pending⟩
    · exact .inl ⟨rfl, (Option.some.inj ((if_pos rfl).symm.trans pending)).symm⟩
  · rintro (⟨rfl, rfl⟩ | ⟨member, pending⟩)
    · exact ⟨.inr rfl, if_pos rfl⟩
    · rw [if_neg (timer_ne_next serves member)]
      exact ⟨.inl member, pending⟩

end Create

section Grant

variable {now : Int} {transport : Transport} {internal external : Endpoint4} {lifetime : Nat}

theorem grant_of_some (found : table.get? transport internal = some mapping) :
    table.grant timers now transport internal external lifetime =
      table.refresh timers now mapping lifetime := by
  rw [grant, found]

theorem grant_of_none (absent : table.get? transport internal = none) :
    table.grant timers now transport internal external lifetime =
      table.create timers now transport internal external.address lifetime := by
  rw [grant, absent]

theorem WellFormed.grant (wf : table.WellFormed) (timersWf : timers.WellFormed) :
    (table.grant timers now transport internal external lifetime).table.WellFormed := by
  cases found : table.get? transport internal with
  | none =>
      rw [grant_of_none found]
      exact wf.create found
  | some mapping =>
      rw [grant_of_some found]
      exact wf.refresh timersWf mapping now lifetime

theorem serves_grant (wf : table.WellFormed)
    (serves : timers.Serves (table.owners ++ others)) :
    (table.grant timers now transport internal external lifetime).timers.Serves
      ((table.grant timers now transport internal external lifetime).table.owners ++
        others) := by
  cases found : table.get? transport internal with
  | none =>
      rw [grant_of_none found]
      exact serves_create serves
  | some mapping =>
      rw [grant_of_some found]
      exact serves_refresh wf serves (mem_of_get?_eq_some found).1

/-- A grant leaves the timers of `others` alone. -/
theorem deadline?_grant_of_mem_others (serves : timers.Serves (table.owners ++ others))
    {other : TimerId × TimerEvent} (otherMember : other ∈ others) :
    (table.grant timers now transport internal external lifetime).timers.deadline? other.1 =
      timers.deadline? other.1 := by
  have owned : other ∈ table.owners ++ others := List.mem_append_right _ otherMember
  cases found : table.get? transport internal with
  | none =>
      rw [grant_of_none found]
      exact serves.deadline?_arm_of_mem owned now lifetime _
  | some mapping =>
      have notRenewed : other.1 ≠ mapping.timer :=
        timer_ne_of_mem_others serves (mem_of_get?_eq_some found).1 otherMember
      rw [grant_of_some found, deadline?_refresh serves.wellFormed, if_neg (serves.ne_next owned),
        if_neg notRenewed]

/-- Whatever was granted is in force until its lifetime has passed. -/
theorem exists_holds_grant (wf : table.WellFormed)
    (serves : timers.Serves (table.owners ++ others)) :
    let grant := table.grant timers now transport internal external lifetime
    ∃ mapping, grant.table.Holds grant.timers mapping (now + lifetime) ∧
      mapping.key = (transport, internal) ∧ mapping.external.port = grant.externalPort := by
  intro grant
  cases found : table.get? transport internal with
  | none =>
      simp only [grant, grant_of_none found]
      exact ⟨_, (holds_create serves).mpr (.inl ⟨rfl, rfl⟩), rfl, rfl⟩
  | some mapping =>
      rcases mem_of_get?_eq_some found with ⟨member, keySame⟩
      simp only [grant, grant_of_some found]
      exact ⟨_, (holds_refresh wf serves member).mpr (.inl ⟨rfl, rfl⟩), keySame, rfl⟩

/-- A grant touches no mapping but its own. -/
theorem holds_grant_of_key_ne (wf : table.WellFormed)
    (serves : timers.Serves (table.owners ++ others))
    (different : mapping.key ≠ (transport, internal)) :
    (table.grant timers now transport internal external lifetime).table.Holds
        (table.grant timers now transport internal external lifetime).timers mapping deadline ↔
      table.Holds timers mapping deadline := by
  cases found : table.get? transport internal with
  | none =>
      rw [grant_of_none found, holds_create serves]
      apply or_iff_right
      rintro ⟨rfl, _⟩
      exact different rfl
  | some renewed =>
      rcases mem_of_get?_eq_some found with ⟨member, keySame⟩
      rw [grant_of_some found, holds_refresh wf serves member]
      constructor
      · rintro (⟨rfl, _⟩ | ⟨holds, _⟩)
        · exact (different keySame).elim
        · exact holds
      · intro holds
        refine .inr ⟨holds, ?_⟩
        intro same
        rw [wf.eq_of_id_eq holds.1 member same] at different
        exact different keySame

end Grant

/-! ## Mappings whose timer has fired -/

section Expire

variable {id : MappingId}

/-- Identifiers being distinct, erasing the first mapping with one erases them all. -/
theorem WellFormed.mappings_expire (wf : table.WellFormed) (id : MappingId) :
    (table.expire id).table.mappings =
      table.mappings.filter fun mapping => mapping.id ≠ id := by
  have ids := wf.ids
  simp only [expire]
  generalize table.mappings = mappings at ids
  induction mappings with
  | nil => rfl
  | cons head rest ih =>
      have headFresh := (List.nodup_cons.mp ids).1
      by_cases same : head.id = id
      · have others : ∀ mapping ∈ rest, mapping.id ≠ id := by
          intro mapping member equal
          exact headFresh (List.mem_map.mpr ⟨mapping, member, equal.trans same.symm⟩)
        rw [List.eraseP_cons_of_pos (by simpa using same),
          List.filter_cons_of_neg (by simpa using same)]
        exact (List.filter_eq_self.mpr (by simpa using others)).symm
      · rw [List.eraseP_cons_of_neg (by simpa using same),
          List.filter_cons_of_pos (by simpa using same), ih (List.nodup_cons.mp ids).2]

theorem WellFormed.expire (wf : table.WellFormed) (id : MappingId) :
    (table.expire id).table.WellFormed :=
  wf.sublist List.eraseP_sublist

theorem WellFormed.expired_eq (wf : table.WellFormed) (member : mapping ∈ table.mappings) :
    (table.expire mapping.id).expired = some mapping := by
  cases found : (table.expire mapping.id).expired with
  | none =>
      have missing := List.find?_eq_none.mp found mapping member
      simp at missing
  | some other =>
      have same : other.id = mapping.id := of_decide_eq_true (List.find?_some found :)
      rw [wf.eq_of_id_eq (List.mem_of_find?_eq_some found) member same]

variable {now : Int} {fired : TimerQueue.Fired TimerEvent}

/-- An expiry timer that fires belongs to a mapping of the table. -/
theorem exists_mapping_of_popDue (serves : timers.Serves (table.owners ++ others))
    (announces : ∀ other ∈ others, other.2 = .announce)
    (popped : timers.popDue now = some fired) (event : fired.event = .expire id) :
    ∃ mapping ∈ table.mappings, mapping.timer = fired.timer ∧ mapping.id = id := by
  have owned := (serves.popDue popped).1
  rw [event] at owned
  rcases List.mem_append.mp owned with among | among
  · rcases List.mem_map.mp among with ⟨mapping, member, same⟩
    rcases Prod.ext_iff.mp same with ⟨timerSame, eventSame⟩
    exact ⟨mapping, member, timerSame, TimerEvent.expire.inj eventSame⟩
  · have announcement := announces _ among
    contradiction

/-- Once its timer has fired and the mapping is dropped, the queue serves the rest. -/
theorem serves_expire (wf : table.WellFormed)
    (serves : timers.Serves (table.owners ++ others))
    (announces : ∀ other ∈ others, other.2 = .announce)
    (popped : timers.popDue now = some fired) (event : fired.event = .expire id) :
    fired.queue.Serves ((table.expire id).table.owners ++ others) := by
  rcases exists_mapping_of_popDue serves announces popped event with
    ⟨mapping, member, timerSame, idSame⟩
  apply (serves.popDue popped).2
  rw [owners, owners, wf.mappings_expire, ← List.cons_append, event, ← timerSame, ← idSame]
  apply List.Perm.append_right others
  exact (wf.perm_cons_filter member).map Mapping.owner

/-- Expiry ends one mapping and touches no others. -/
theorem holds_expire (wf : table.WellFormed)
    (serves : timers.Serves (table.owners ++ others))
    (announces : ∀ other ∈ others, other.2 = .announce)
    (popped : timers.popDue now = some fired) (event : fired.event = .expire id) :
    (table.expire id).table.Holds fired.queue mapping deadline ↔
      table.Holds timers mapping deadline ∧ mapping.id ≠ id := by
  rcases exists_mapping_of_popDue serves announces popped event with
    ⟨gone, goneMember, timerSame, idSame⟩
  rw [Holds, Holds, wf.mappings_expire, serves.wellFormed.deadline?_popDue popped,
    List.mem_filter, decide_eq_true_iff]
  constructor
  · intro ⟨⟨member, different⟩, pending⟩
    split at pending
    · contradiction
    · exact ⟨⟨member, pending⟩, different⟩
  · intro ⟨⟨member, pending⟩, different⟩
    have apart : mapping.timer ≠ fired.timer := by
      intro same
      have equal := eq_of_timer_eq serves member goneMember (same.trans timerSame.symm)
      exact different (equal ▸ idSame)
    rw [if_neg apart]
    exact ⟨⟨member, different⟩, pending⟩

end Expire

end Table

end PortMapping
