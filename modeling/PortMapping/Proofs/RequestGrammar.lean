import PortMapping.Daemon
import PortMapping.Proofs.Handlers

/-!
# The grammar of requests

Which datagrams are answered, and with which octets.  Three readers look at a datagram one
after the other, each with lengths of its own; `Handling` sums up what they make of it, one
case for each class of datagrams, and the exact replies are read off the cases.
-/

namespace PortMapping

/-! ## Classes of datagrams -/

namespace Octets

/-- No request, of whatever version: too short for a header, longer than any request, or
marked as a response. -/
def Unreadable (datagram : Octets) : Prop :=
  datagram.length < 2 ∨ 1100 < datagram.length ∨ (datagram.at8 1).toNat.testBit 7 = true

/-- A request of the mapping protocol that is passed over: it comes over IPv6, or does not
have the length of its operation. -/
def PassedOver (datagram : Octets) (peer : Endpoint) : Prop :=
  datagram.at8 0 = 0 ∧
    (peer.isV4 = false ∨ datagram.at8 1 = 0 ∧ datagram.length ≠ 2 ∨
      (datagram.at8 1 = 1 ∨ datagram.at8 1 = 2) ∧ datagram.length ≠ 12)

/-- A mapping request that is served. -/
def AsksForMapping (datagram : Octets) (peer : Endpoint) : Prop :=
  peer.isV4 = true ∧ datagram.at8 0 = 0 ∧ (datagram.at8 1 = 1 ∨ datagram.at8 1 = 2) ∧
    datagram.length = 12

end Octets

/-! ## The readers -/

/-- The response bit is the highest bit of the opcode. -/
theorem isResponseOpcode_eq_testBit (opcode : UInt8) :
    isResponseOpcode opcode = opcode.toNat.testBit 7 := by
  have bound := opcode.toNat_lt
  rw [isResponseOpcode, Nat.testBit_eq_decide_div_mod_eq, decide_eq_decide, UInt8.le_iff_toNat_le]
  have bit : responseBit.toNat = 128 := rfl
  omega

/-- Where the response bit is clear, setting it adds its value. -/
theorem responseOpcode_of_request {opcode : UInt8} (request : isResponseOpcode opcode = false) :
    responseOpcode opcode = opcode + 128 := by
  have below : ¬responseBit ≤ opcode := of_decide_eq_false request
  have small : opcode.toNat < 2 ^ 7 := Nat.lt_of_not_le below
  apply UInt8.toNat_inj.mp
  have bit : responseBit.toNat = 2 ^ 7 * 1 := rfl
  have added : (128 : UInt8).toNat = 128 := rfl
  rw [responseOpcode, UInt8.toNat_or, UInt8.toNat_add, Nat.or_comm, bit,
    ← Nat.two_pow_add_eq_or_of_lt small 1]
  omega

section Readers

variable {datagram : Octets}

/-- A datagram that is no request is refused with its header. -/
theorem Header.parse_of_unreadable (unreadable : datagram.Unreadable) :
    ∃ error, Header.parse datagram = .error error := by
  rw [Header.parse]
  by_cases short : datagram.length < 2
  · exact ⟨_, if_pos short⟩
  by_cases long : longestRequest < datagram.length
  · exact ⟨_, by rw [if_neg short, if_pos long]⟩
  have response : isResponseOpcode (datagram.at8 1) = true := by
    rw [isResponseOpcode_eq_testBit]
    exact (unreadable.resolve_left short).resolve_left long
  exact ⟨_, by rw [if_neg short, if_neg long, if_pos response]⟩

theorem isResponseOpcode_of_readable (readable : ¬datagram.Unreadable) :
    isResponseOpcode (datagram.at8 1) = false := by
  rw [isResponseOpcode_eq_testBit]
  exact Bool.eq_false_iff.mpr fun response => readable (.inr (.inr response))

/-- Any other datagram has a header. -/
theorem Header.parse_of_readable (readable : ¬datagram.Unreadable) :
    Header.parse datagram = .ok ⟨datagram.at8 0, datagram.at8 1⟩ := by
  have short : ¬datagram.length < 2 := fun short => readable (.inl short)
  have long : ¬longestRequest < datagram.length := fun long => readable (.inr (.inl long))
  rw [Header.parse, if_neg short, if_neg long, isResponseOpcode_of_readable readable]
  rfl

/-- A datagram is served as a mapping request if it is one by its form. -/
theorem Octets.asksForMapping_iff {peer : Endpoint} :
    datagram.AsksForMapping peer ↔ ∃ asked, mappingRequest? datagram peer = some asked := by
  constructor
  · rintro ⟨overV4, version, opcode, length⟩
    cases peer with
    | v6 peer => cases overV4
    | v4 client =>
        have long : ¬datagram.length < 2 := by omega
        have hasLength : datagram.length = PacketKind.mappingRequest.length := length
        have known : ∃ transport, Operation.ofOpcode? (datagram.at8 1) = some (.map transport) := by
          rcases opcode with one | two
          · exact ⟨.udp, by rw [one]; rfl⟩
          · exact ⟨.tcp, by rw [two]; rfl⟩
        rcases known with ⟨transport, known⟩
        have decoded : ∃ request, Request.decode datagram = .ok (.mapping request) := by
          rw [Request.decode, if_neg long, known]
          exact ⟨_, if_pos hasLength⟩
        rcases decoded with ⟨request, decoded⟩
        exact ⟨_, mappingRequest?_of_decode version decoded client⟩
  · rintro ⟨asked, served⟩
    simp only [mappingRequest?] at served
    split at served
    · contradiction
    next header parsed =>
      split at served
      next version =>
        cases peer with
        | v6 peer => contradiction
        | v4 client =>
            simp only at served
            split at served
            next decoded =>
              have form := form_of_decode decoded
              have header := header_of_decode decoded
              rw [parsed] at header
              cases header
              exact ⟨rfl, version, Operation.opcode_of_eq_map form.2, form.1⟩
            · contradiction
      · contradiction

end Readers

/-- The refusal of an opcode is as long as the request, though never shorter than a result. -/
theorem length_opcodeRefusal (request : Octets) :
    (opcodeRefusal request).length = max request.length 4 := by
  simp only [opcodeRefusal, List.length_append, List.length_cons, List.length_nil,
    Octets.length_ofUInt16, List.length_drop]
  omega

/-- The refusal of an opcode repeats the request after the result. -/
theorem at8_opcodeRefusal (request : Octets) (position : Nat) :
    (opcodeRefusal request).at8 position =
      if position = 0 then 0 else if position = 1 then responseOpcode (request.at8 1)
      else if position = 2 then 0 else if position = 3 then 5 else request.at8 position := by
  match position with
  | 0 => rfl
  | 1 => rfl
  | 2 => rfl
  | 3 => rfl
  | after + 4 =>
      have repeated : (opcodeRefusal request).at8 (after + 4) =
          Octets.at8 (request.drop 4) after := rfl
      rw [repeated, Octets.at8, Octets.at8, List.getD_eq_getElem?_getD, List.getElem?_drop,
        ← List.getD_eq_getElem?_getD, Nat.add_comm]
      rfl

/-! ## Handling a datagram -/

namespace Server

variable {β σ : Type} [Backend β]

/-- What becomes of a datagram, by its class. -/
inductive Handling (server : Server β σ) (datagram : Octets) (now : Int) :
    Endpoint → Handled β σ (Option Octets) → Prop where
  | unreadable {peer : Endpoint} (unreadable : datagram.Unreadable) :
      Handling server datagram now peer ⟨none, server⟩
  | refused {peer : Endpoint} (readable : ¬datagram.Unreadable) (version : datagram.at8 0 ≠ 0) :
      Handling server datagram now peer (server.refuseVersion now)
  | passedOver {peer : Endpoint} (readable : ¬datagram.Unreadable)
      (passed : datagram.PassedOver peer) :
      Handling server datagram now peer ⟨none, server⟩
  | address {client : Endpoint4} (readable : ¬datagram.Unreadable) (version : datagram.at8 0 = 0)
      (opcode : datagram.at8 1 = 0) (length : datagram.length = 2) :
      Handling server datagram now (.v4 client) ⟨some (server.addressResponse now).encode, server⟩
  | mapping {client : Endpoint4} {request : MappingRequest} {handled : Handled β σ MappingResponse}
      (readable : ¬datagram.Unreadable) (version : datagram.at8 0 = 0)
      (opcode : datagram.at8 1 = (Operation.map request.transport).opcode)
      (length : datagram.length = 12) (internal : request.internalPort = datagram.at16 4)
      (served : handled = (server.handleMapping request client.address now).value) :
      Handling server datagram now (.v4 client) ⟨some handled.result.encode, handled.server⟩
  | unknown {client : Endpoint4} (readable : ¬datagram.Unreadable) (version : datagram.at8 0 = 0)
      (opcode : datagram.at8 1 ≠ 0 ∧ datagram.at8 1 ≠ 1 ∧ datagram.at8 1 ≠ 2) :
      Handling server datagram now (.v4 client) ⟨some (opcodeRefusal datagram), server⟩

theorem value_handleDatagram_of_unreadable (server : Server β σ) {datagram : Octets}
    (unreadable : datagram.Unreadable) (peer : Endpoint) (now : Int) :
    (server.handleDatagram datagram peer now).value = ⟨none, server⟩ := by
  rcases Header.parse_of_unreadable unreadable with ⟨error, refused⟩
  rw [handleDatagram, refused]
  rfl

/-- Over IPv4 the mapping protocol goes by the operation and its length. -/
theorem handling_handleMappingProtocol (server : Server β σ) {datagram : Octets}
    (readable : ¬datagram.Unreadable) (version : datagram.at8 0 = 0) (client : Endpoint4)
    (now : Int) :
    Handling server datagram now (.v4 client)
      (server.handleMappingProtocol datagram (.v4 client) now).value := by
  have long : ¬datagram.length < 2 := fun short => readable (.inl short)
  rw [handleMappingProtocol, Request.decode, if_neg long]
  cases operation : Operation.ofOpcode? (datagram.at8 1) with
  | none => exact .unknown readable version (Operation.ofOpcode?_eq_none operation)
  | some known =>
      have opcode := Operation.eq_opcode_of_ofOpcode? operation
      cases known with
      | externalAddress =>
          by_cases length : datagram.length = PacketKind.addressRequest.length
          · simp only [if_pos length]
            exact .address readable version opcode length
          · simp only [if_neg length]
            exact .passedOver readable ⟨version, .inr (.inl ⟨opcode, length⟩)⟩
      | map transport =>
          by_cases length : datagram.length = PacketKind.mappingRequest.length
          · simp only [if_pos length]
            exact .mapping readable version opcode length rfl rfl
          · simp only [if_neg length]
            have mapping := Operation.opcode_of_eq_map opcode
            exact .passedOver readable ⟨version, .inr (.inr ⟨mapping, length⟩)⟩

/-- Every datagram is handled as its class is. -/
theorem handling_handleDatagram (server : Server β σ) (datagram : Octets) (peer : Endpoint)
    (now : Int) :
    Handling server datagram now peer (server.handleDatagram datagram peer now).value := by
  by_cases unreadable : datagram.Unreadable
  · rw [value_handleDatagram_of_unreadable server unreadable]
    exact .unreadable unreadable
  rw [handleDatagram, Header.parse_of_readable unreadable]
  by_cases version : datagram.at8 0 = mappingVersion
  · simp only [if_pos version]
    cases peer with
    | v6 peer => exact .passedOver unreadable ⟨version, .inl rfl⟩
    | v4 client => exact handling_handleMappingProtocol server unreadable version client now
  · simp only [if_neg version]
    split
    · exact .refused unreadable version
    · exact .refused unreadable version

end Server

/-! ## Exact replies -/

/-- The octets that answer a datagram, where it is answered. -/
structure Gateway.Answers (gateway : Gateway) (datagram : Octets) (now : Int)
    (reply : Octets) : Prop where
  /-- Another version, that of the port control protocol included, is refused. -/
  version : datagram.at8 0 ≠ 0 →
    reply = [0, 128, 0, 1] ++ Octets.ofUInt32 (gateway.epoch now)
  /-- The address is told, and whether there is one. -/
  address : datagram.at8 0 = 0 → datagram.at8 1 = 0 →
    reply = [0, 128, 0, if gateway.externalAddress = .unspecified then 3 else 0] ++
      Octets.ofUInt32 (gateway.epoch now) ++ gateway.externalAddress.octets
  /-- A mapping request is answered under its opcode, for its internal port. -/
  mapping : datagram.at8 0 = 0 → datagram.at8 1 = 1 ∨ datagram.at8 1 = 2 →
    ∃ port lifetime,
      reply =
        [0, datagram.at8 1 + 128, 0,
            if gateway.externalAddress = .unspecified then 3 else 0] ++
          Octets.ofUInt32 (gateway.epoch now) ++ Octets.ofUInt16 (datagram.at16 4) ++
          Octets.ofUInt16 port ++ Octets.ofUInt32 lifetime
  /-- A request with another opcode is echoed, response bit and result filled in. -/
  opcode : datagram.at8 0 = 0 → 3 ≤ datagram.at8 1 →
    reply.length = max datagram.length 4 ∧
      ∀ position, reply.at8 position =
        if position = 1 then datagram.at8 1 + 128 else if position = 2 then 0
        else if position = 3 then 5 else datagram.at8 position

namespace Server

variable {β σ : Type}

/-- The result in a reply is a network failure as long as no address is known. -/
theorem ofUInt16_availability (server : Server β σ) :
    Octets.ofUInt16 server.availability.number =
      [0, if server.gateway.externalAddress = .unspecified then 3 else 0] := by
  rw [availability, Gateway.hasExternalAddress, Ipv4.isUnspecified]
  by_cases unknown : server.gateway.externalAddress = .unspecified
  · simp only [unknown]
    rfl
  · simp only [unknown]
    rfl

variable [Backend β]

namespace Handling

variable {server : Server β σ} {datagram : Octets} {peer : Endpoint} {now : Int}
variable {handled : Handled β σ (Option Octets)}

/-- Nothing else goes unanswered. -/
theorem result_eq_none_iff (handling : Handling server datagram now peer handled) :
    handled.result = none ↔ datagram.Unreadable ∨ datagram.PassedOver peer := by
  cases handling with
  | unreadable unreadable => exact iff_of_true rfl (.inl unreadable)
  | passedOver _ passed => exact iff_of_true rfl (.inr passed)
  | refused readable version =>
      refine iff_of_false nofun ?_
      rintro (unreadable | ⟨same, _⟩)
      · exact readable unreadable
      · exact version same
  | address readable version opcode length =>
      refine iff_of_false nofun ?_
      rintro (unreadable | ⟨_, overV6 | ⟨_, other⟩ | ⟨one | two, _⟩⟩)
      · exact readable unreadable
      · cases overV6
      · exact other length
      · simp [opcode] at one
      · simp [opcode] at two
  | mapping readable version opcode length =>
      refine iff_of_false nofun ?_
      rintro (unreadable | ⟨_, overV6 | ⟨zero, _⟩ | ⟨_, other⟩⟩)
      · exact readable unreadable
      · cases overV6
      · rcases Operation.opcode_of_eq_map opcode with one | two
        · simp [one] at zero
        · simp [two] at zero
      · exact other length
  | unknown readable version opcode =>
      refine iff_of_false nofun ?_
      rintro (unreadable | ⟨_, overV6 | ⟨zero, _⟩ | ⟨one | two, _⟩⟩)
      · exact readable unreadable
      · cases overV6
      · exact opcode.1 zero
      · exact opcode.2.1 one
      · exact opcode.2.2 two

/-- Only a mapping request can change anything. -/
theorem server_eq (handling : Handling server datagram now peer handled)
    (unserved : ¬datagram.AsksForMapping peer) : handled.server = server := by
  cases handling with
  | unreadable => rfl
  | passedOver => rfl
  | refused => rfl
  | address => rfl
  | unknown => rfl
  | mapping readable version opcode length =>
      have mapping := Operation.opcode_of_eq_map opcode
      exact (unserved ⟨rfl, version, mapping, length⟩).elim

/-- Each reply is the one due. -/
theorem answers (handling : Handling server datagram now peer handled) {reply : Octets}
    (replied : handled.result = some reply) : server.gateway.Answers datagram now reply := by
  have result := ofUInt16_availability server
  cases handling with
  | unreadable => cases replied
  | passedOver => cases replied
  | refused readable version =>
      cases replied
      exact
        { version := fun _ => rfl
          address := fun same => (version same).elim
          mapping := fun same => (version same).elim
          opcode := fun same => (version same).elim }
  | address readable version opcode length =>
      cases replied
      exact
        { version := fun other => (other version).elim
          address := fun _ _ => by
            rw [AddressResponse.encode, addressResponse, result]
            rfl
          mapping := fun _ mapping => by
            rw [opcode] at mapping
            exact absurd mapping (by decide)
          opcode := fun _ unknown => by
            rw [opcode] at unknown
            exact absurd unknown (by decide) }
  | mapping readable version opcode length internal served =>
      cases replied
      have kind := Operation.opcode_of_eq_map opcode
      exact
        { version := fun other => (other version).elim
          address := fun _ zero => by
            rw [zero] at kind
            exact absurd kind (by decide)
          mapping := fun _ _ => by
            have added := responseOpcode_of_request (isResponseOpcode_of_readable readable)
            rw [served, result_handleMapping, ← added, opcode]
            simp only [MappingResponse.encode, result, internal]
            exact ⟨_, _, rfl⟩
          opcode := fun _ unknown => by
            rcases kind with one | two
            · rw [one] at unknown
              exact absurd unknown (by decide)
            · rw [two] at unknown
              exact absurd unknown (by decide) }
  | unknown readable version opcode =>
      cases replied
      have added := responseOpcode_of_request (isResponseOpcode_of_readable readable)
      exact
        { version := fun other => (other version).elim
          address := fun _ zero => (opcode.1 zero).elim
          mapping := fun _ mapping => (mapping.elim opcode.2.1 opcode.2.2).elim
          opcode := fun _ _ => by
            refine ⟨length_opcodeRefusal datagram, fun position => ?_⟩
            rw [at8_opcodeRefusal, added]
            by_cases first : position = 0
            · simp [first, version]
            · rw [if_neg first] }

end Handling

/-- A receiver keeps enough of a datagram to tell what becomes of it. -/
theorem handleDatagram_take (server : Server β σ) (datagram : Octets) (peer : Endpoint)
    (now : Int) :
    (server.handleDatagram (datagram.take Daemon.receiveBuffer) peer now).value =
      (server.handleDatagram datagram peer now).value := by
  by_cases fits : datagram.length ≤ Daemon.receiveBuffer
  · rw [List.take_of_length_le fits]
  · have long : 1100 < datagram.length := Nat.lt_of_succ_lt (Nat.lt_of_not_le fits)
    have kept : (datagram.take Daemon.receiveBuffer).length = Daemon.receiveBuffer :=
      List.length_take_of_le (Nat.le_of_not_le fits)
    have alsoLong : 1100 < (datagram.take Daemon.receiveBuffer).length := by
      rw [kept]
      exact Nat.lt_succ_self 1100
    rw [value_handleDatagram_of_unreadable server (.inr (.inl long)),
      value_handleDatagram_of_unreadable server (.inr (.inl alsoLong))]

/-- A datagram goes unanswered iff it is no request at all, or a request of the mapping
protocol that comes over IPv6 or has another length than its operation; each other one gets
exactly the reply that is due.  Nothing but a mapping request of twelve octets over IPv4
changes anything, and what a receiver cuts off does not matter. -/
theorem handleDatagram_by_grammar (server : Server β σ) (datagram : Octets) (peer : Endpoint)
    (now : Int) :
    let handled := (server.handleDatagram datagram peer now).value
    (handled.result = none ↔ datagram.Unreadable ∨ datagram.PassedOver peer) ∧
      (∀ reply, handled.result = some reply → server.gateway.Answers datagram now reply) ∧
      (¬datagram.AsksForMapping peer → handled.server = server) ∧
      (server.handleDatagram (datagram.take Daemon.receiveBuffer) peer now).value = handled := by
  have handling := handling_handleDatagram server datagram peer now
  exact ⟨handling.result_eq_none_iff, fun _ replied => handling.answers replied,
    handling.server_eq, handleDatagram_take server datagram peer now⟩

end Server

end PortMapping
