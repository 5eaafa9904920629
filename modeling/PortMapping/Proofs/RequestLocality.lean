import PortMapping.Proofs.RequestPolicy

/-!
# Locality of requests

A request leaves the leases of other clients alone, and is served from the part of the ledger
that is about its own client.  So two requests of different clients can be swapped, as long as
at most one of them draws a port, and this needs no comparison of one kind of request with
another.
-/

namespace PortMapping

namespace Ledger

variable {ledger : Ledger} {client : Ipv4}

/-! ## The part of one client -/

/-- A request ends leases of its client, is refused, or is granted, whatever the ledger. -/
theorem serve_cases (request : MappingRequest) (client : Ipv4) (external : Option Ipv4)
    (now : Int) :
    (∃ (ended : Transport × Endpoint4 → Prop) (_ : DecidablePred ended),
        (∀ key, ended key → key.2.address = client) ∧
          ∀ ledger : Ledger, ledger.serve request client external now = ledger.drop ended) ∨
      (∀ ledger : Ledger, ledger.serve request client external now = ledger) ∨
      ∃ address deadline, external = some address ∧ request.deletes = false ∧
        ∀ ledger : Ledger, ledger.serve request client external now =
          ledger.grant request.transport (request.internal client) address deadline := by
  by_cases wildcard : request.internalPort = 0
  · left
    refine ⟨_, inferInstance, fun key ended => ?_, fun ledger => if_pos wildcard⟩
    exact ended.2
  · by_cases deletion : request.lifetime = 0
    · left
      refine ⟨_, inferInstance, fun key ended => ?_,
        fun ledger => (if_neg wildcard).trans (if_pos deletion)⟩
      rw [ended]
    · right
      cases external with
      | none =>
          left
          intro ledger
          exact (if_neg wildcard).trans (if_neg deletion)
      | some address =>
          right
          refine ⟨address, _, rfl, ?_, fun ledger => (if_neg wildcard).trans (if_neg deletion)⟩
          simp [MappingRequest.deletes, wildcard, deletion]

/-- The part of a ledger that is about one client, all ports included. -/
def only (ledger : Ledger) (client : Ipv4) : Ledger :=
  { ledger with leases := fun key => if key.2.address = client then ledger.leases key else none }

/-- The same leases with other ports to draw. -/
def withPorts (ledger : Ledger) (ports : PortSource) : Ledger := { ledger with ports }

theorem leases_only {key : Transport × Endpoint4} (own : key.2.address = client) :
    (ledger.only client).leases key = ledger.leases key :=
  if_pos own

theorem only_drop (ended : Transport × Endpoint4 → Prop) [DecidablePred ended] :
    (ledger.drop ended).only client = (ledger.only client).drop ended := by
  simp only [only, drop, mk.injEq, and_true]
  funext key
  split
  · rfl
  · simp

theorem only_put {key : Transport × Endpoint4} (own : key.2.address = client) (lease : Lease) :
    (ledger.put key lease).only client = (ledger.only client).put key lease := by
  simp only [only, put, mk.injEq, and_true]
  funext other
  by_cases same : other = key
  · rw [same, if_pos own, Function.update_self, Function.update_self]
  · rw [Function.update_of_ne same, Function.update_of_ne same]

theorem only_grant (transport : Transport) {internal : Endpoint4}
    (own : internal.address = client) (address : Ipv4) (deadline : Int) :
    (ledger.grant transport internal address deadline).only client =
      (ledger.only client).grant transport internal address deadline := by
  have kept : ∀ transport, (ledger.only client).leases (transport, internal) =
      ledger.leases (transport, internal) := fun transport => leases_only own
  cases present : ledger.leases (transport, internal) with
  | some lease =>
      rw [grant_of_present present, grant_of_present ((kept transport).trans present)]
      exact only_put own _
  | none =>
      have absent := (kept transport).trans present
      cases related : ledger.leases (transport.other, internal) with
      | some lease =>
          rw [grant_of_related present related,
            grant_of_related absent ((kept transport.other).trans related)]
          exact only_put own _
      | none =>
          rw [grant_of_unrelated present related,
            grant_of_unrelated absent ((kept transport.other).trans related)]
          exact only_put own _

/-- A request is served from the part of its client. -/
theorem only_serve (ledger : Ledger) (request : MappingRequest) (client : Ipv4)
    (external : Option Ipv4) (now : Int) :
    (ledger.serve request client external now).only client =
      (ledger.only client).serve request client external now := by
  rcases serve_cases request client external now with
    ⟨ended, _, _, same⟩ | same | ⟨address, deadline, _, _, same⟩
  · rw [same, same]
    exact only_drop ended
  · rw [same, same]
  · rw [same, same]
    exact only_grant request.transport rfl address deadline

/-! ## The parts of the others -/

theorem leases_grant_of_other {transport : Transport} {internal : Endpoint4} (address : Ipv4)
    (deadline : Int) {key : Transport × Endpoint4} (other : key.2.address ≠ internal.address) :
    (ledger.grant transport internal address deadline).leases key = ledger.leases key := by
  have different : key ≠ (transport, internal) := by
    rintro rfl
    exact other rfl
  rw [grant]
  split
  · exact Function.update_of_ne different _ _
  · split
    · exact Function.update_of_ne different _ _
    · exact Function.update_of_ne different _ _

/-- A request leaves the leases of other clients alone. -/
theorem leases_serve_of_other (ledger : Ledger) (request : MappingRequest)
    (external : Option Ipv4) (now : Int) {key : Transport × Endpoint4}
    (other : key.2.address ≠ client) :
    (ledger.serve request client external now).leases key = ledger.leases key := by
  rcases serve_cases request client external now with
    ⟨ended, _, own, same⟩ | same | ⟨address, deadline, _, _, same⟩
  · rw [same]
    exact if_neg fun gone => other (own key gone)
  · rw [same]
  · rw [same]
    exact leases_grant_of_other address deadline other

/-- To another client nothing but the ports can have changed. -/
theorem only_serve_of_other (ledger : Ledger) (request : MappingRequest) {other : Ipv4}
    (external : Option Ipv4) (now : Int) (different : client ≠ other) :
    (ledger.serve request other external now).only client =
      (ledger.only client).withPorts (ledger.serve request other external now).ports := by
  simp only [only, withPorts, mk.injEq, and_true]
  funext key
  by_cases own : key.2.address = client
  · rw [if_pos own, if_pos own]
    apply leases_serve_of_other
    rw [own]
    exact different
  · rw [if_neg own, if_neg own]

/-! ## Drawing ports -/

/-- A request draws a port: it is granted, and its endpoint has no lease at all. -/
structure Draws (ledger : Ledger) (request : MappingRequest) (client : Ipv4)
    (external : Option Ipv4) : Prop where
  asks : request.deletes = false
  known : external.isSome = true
  absent : ledger.leases (request.transport, request.internal client) = none
  unrelated : ledger.leases (request.transport.other, request.internal client) = none

variable {request : MappingRequest} {external : Option Ipv4}

theorem draws_congr {left right : Ledger}
    (same : ∀ key, key.2.address = client → left.leases key = right.leases key) :
    left.Draws request client external ↔ right.Draws request client external := by
  have own := same (request.transport, request.internal client) rfl
  have other := same (request.transport.other, request.internal client) rfl
  constructor
  · rintro ⟨asks, known, absent, unrelated⟩
    exact ⟨asks, known, own ▸ absent, other ▸ unrelated⟩
  · rintro ⟨asks, known, absent, unrelated⟩
    exact ⟨asks, known, own.symm ▸ absent, other.symm ▸ unrelated⟩

/-- Whether a request draws a port has nothing to do with other clients. -/
theorem draws_serve_of_other (ledger : Ledger) (earlier : MappingRequest) {other : Ipv4}
    (now : Int) (different : client ≠ other) :
    (ledger.serve earlier other external now).Draws request client external ↔
      ledger.Draws request client external := by
  apply draws_congr
  intro key own
  apply leases_serve_of_other
  rw [own]
  exact different

/-- A request that draws no port does not look at the ports. -/
theorem serve_withPorts (still : ¬ledger.Draws request client external) (ports : PortSource)
    (now : Int) :
    (ledger.withPorts ports).serve request client external now =
      (ledger.serve request client external now).withPorts ports := by
  rcases serve_cases request client external now with
    ⟨ended, _, _, same⟩ | same | ⟨address, deadline, known, asks, same⟩
  · rw [same, same]
    rfl
  · rw [same, same]
  · rw [same, same]
    -- What the other ledger has for the endpoint is the same, and decides the case.
    have kept : (ledger.withPorts ports).leases = ledger.leases := rfl
    cases present : ledger.leases (request.transport, request.internal client) with
    | some lease =>
        rw [grant_of_present present, grant_of_present (kept ▸ present)]
        rfl
    | none =>
        cases related : ledger.leases (request.transport.other, request.internal client) with
        | some lease =>
            rw [grant_of_related present related,
              grant_of_related (kept ▸ present) (kept ▸ related)]
            rfl
        | none =>
            have draws : ledger.Draws request client external :=
              ⟨asks, by rw [known]; rfl, present, related⟩
            exact (still draws).elim

/-- Nor does it change them. -/
theorem ports_serve (still : ¬ledger.Draws request client external) (now : Int) :
    (ledger.serve request client external now).ports = ledger.ports := by
  have same : ledger.serve request client external now =
      (ledger.serve request client external now).withPorts ledger.ports :=
    serve_withPorts still ledger.ports now
  rw [same]
  rfl

/-! ## Two clients -/

theorem eq_of_leases {left right : Ledger} (ports : left.ports = right.ports)
    (leases : ∀ key, left.leases key = right.leases key) : left = right := by
  cases left
  cases right
  rw [mk.injEq]
  exact ⟨funext leases, ports⟩

section Two

variable {left right : Ipv4} {first second : MappingRequest}

/-- Two requests of different clients can be swapped if the second draws no port. -/
theorem serve_comm_of_still (different : left ≠ right)
    (still : ¬ledger.Draws second right external) (earlier later : Int) :
    (ledger.serve first left external earlier).serve second right external later =
      (ledger.serve second right external later).serve first left external earlier := by
  have stillAfter : ¬(ledger.serve first left external earlier).Draws second right external := by
    rw [draws_serve_of_other ledger first earlier different.symm]
    exact still
  -- The second request finds the part of its client as it was, the ports apart.
  have secondPart : ((ledger.serve first left external earlier).serve second right external
      later).only right = ((ledger.serve second right external later).only right).withPorts
        (ledger.serve first left external earlier).ports := by
    have stillPart : ¬(ledger.only right).Draws second right external := by
      rw [draws_congr fun key own => leases_only own]
      exact still
    rw [only_serve, only_serve_of_other ledger first external earlier different.symm,
      serve_withPorts stillPart, ← only_serve]
  -- The first finds the part of its own as it was, the ports included.
  have firstPart : ((ledger.serve second right external later).serve first left external
      earlier).only left = (ledger.serve first left external earlier).only left := by
    rw [only_serve, only_serve_of_other ledger second external later different,
      ports_serve still, only_serve]
    rfl
  apply eq_of_leases
  · rw [ports_serve stillAfter]
    exact (congrArg Ledger.ports firstPart).symm
  · intro key
    by_cases ofLeft : key.2.address = left
    · rw [leases_serve_of_other _ second external later (ofLeft ▸ different), ← leases_only ofLeft,
        ← firstPart, leases_only ofLeft]
    · rw [leases_serve_of_other _ first external earlier ofLeft]
      by_cases ofRight : key.2.address = right
      · rw [← leases_only ofRight, secondPart]
        exact leases_only ofRight
      · rw [leases_serve_of_other _ second external later ofRight,
          leases_serve_of_other _ first external earlier ofLeft,
          leases_serve_of_other _ second external later ofRight]

/-- So they can if either of them draws none. -/
theorem serve_comm (different : left ≠ right)
    (still : ¬ledger.Draws first left external ∨ ¬ledger.Draws second right external)
    (earlier later : Int) :
    (ledger.serve first left external earlier).serve second right external later =
      (ledger.serve second right external later).serve first left external earlier := by
  rcases still with still | still
  · exact (serve_comm_of_still different.symm still later earlier).symm
  · exact serve_comm_of_still different still earlier later

/-- A client has the same leases after its request, whether or not another client was served
before. -/
theorem leases_serve_serve (different : left ≠ right)
    (still : ¬ledger.Draws first left external ∨ ¬ledger.Draws second right external)
    (earlier later : Int) {key : Transport × Endpoint4} (own : key.2.address = left) :
    ((ledger.serve second right external later).serve first left external earlier).leases key =
      (ledger.serve first left external earlier).leases key := by
  rw [← serve_comm different still]
  apply leases_serve_of_other
  rw [own]
  exact different

/-! ## Changing what is leased -/

/-- A request begins or ends a lease. -/
def Changes (ledger : Ledger) (request : MappingRequest) (client : Ipv4)
    (external : Option Ipv4) (now : Int) : Prop :=
  ∃ key, ((ledger.serve request client external now).leases key).isSome ≠
    (ledger.leases key).isSome

/-- Whether it does has nothing to do with other clients. -/
theorem changes_serve (different : left ≠ right)
    (still : ¬ledger.Draws first left external ∨ ¬ledger.Draws second right external)
    (earlier later : Int) :
    (ledger.serve second right external later).Changes first left external earlier ↔
      ledger.Changes first left external earlier := by
  apply exists_congr
  intro key
  by_cases own : key.2.address = left
  · rw [leases_serve_serve different still earlier later own,
      leases_serve_of_other ledger second external later (own ▸ different)]
  · rw [leases_serve_of_other _ first external earlier own,
      leases_serve_of_other ledger first external earlier own]
    simp

end Two

end Ledger

end PortMapping
