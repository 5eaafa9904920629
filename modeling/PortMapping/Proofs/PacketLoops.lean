import PortMapping.Proofs.RequestGrammar
import PortMapping.Proofs.Run

/-!
# Packet loops

A gateway may be sent its own replies, by a client that forges its address or by another
gateway.  Nothing comes of it: whatever a server sends, the echo of an unknown request included,
is of a length that a header is read from and has the response bit set, and the response bit is
what every server refuses it for.
-/

namespace PortMapping

/-! ## Marked packets -/

namespace Octets

/-- A packet that the response bit alone keeps from being a request. -/
structure IsResponse (packet : Octets) : Prop where
  /-- Long enough for a header. -/
  headed : 2 ≤ packet.length
  /-- No longer than a request may be. -/
  bounded : packet.length ≤ longestRequest
  /-- The response bit is set. -/
  marked : isResponseOpcode (packet.at8 1) = true

namespace IsResponse

variable {packet : Octets}

/-- A response has no fault but its mark. -/
theorem parse_eq (response : packet.IsResponse) :
    Header.parse packet = .error (.responseOpcode (packet.at8 1)) := by
  have headed : ¬packet.length < 2 := Nat.not_lt.mpr response.headed
  have bounded : ¬longestRequest < packet.length := Nat.not_lt.mpr response.bounded
  rw [Header.parse, if_neg headed, if_neg bounded, if_pos response.marked]

theorem unreadable (response : packet.IsResponse) : packet.Unreadable := by
  right
  right
  rw [← isResponseOpcode_eq_testBit]
  exact response.marked

end IsResponse

end Octets

/-! ## The packets that are written -/

@[simp] theorem isResponseOpcode_responseOpcode (opcode : UInt8) :
    isResponseOpcode (responseOpcode opcode) = true := by
  apply decide_eq_true
  rw [UInt8.le_iff_toNat_le, responseOpcode, UInt8.toNat_or]
  exact Nat.right_le_or

theorem AddressResponse.isResponse_encode (response : AddressResponse) :
    response.encode.IsResponse where
  headed := by simp [encode]
  bounded := by
    have length : response.encode.length = 12 := rfl
    rw [length]
    decide
  marked := isResponseOpcode_responseOpcode Operation.externalAddress.opcode

theorem MappingResponse.isResponse_encode (response : MappingResponse) :
    response.encode.IsResponse where
  headed := by simp [encode]
  bounded := by
    have length : response.encode.length = 16 := rfl
    rw [length]
    decide
  marked := isResponseOpcode_responseOpcode (Operation.map response.transport).opcode

theorem isResponse_versionRefusal (epoch : UInt32) : (versionRefusal epoch).IsResponse where
  headed := by simp [versionRefusal]
  bounded := by
    have length : (versionRefusal epoch).length = 8 := rfl
    rw [length]
    decide
  marked := rfl

/-- The echo of a request is padded to four octets at most, so it fits where the request did. -/
theorem isResponse_opcodeRefusal {request : Octets} (fits : request.length ≤ longestRequest) :
    (opcodeRefusal request).IsResponse where
  headed := by
    rw [length_opcodeRefusal]
    omega
  bounded := by
    have room : 4 ≤ longestRequest := by decide
    rw [length_opcodeRefusal]
    exact Nat.max_le.mpr ⟨fits, room⟩
  marked := isResponseOpcode_responseOpcode (request.at8 1)

/-! ## The packets that are sent -/

namespace Server

variable {β σ : Type} [Backend β]

/-- The packets that a server sends from where it is: a reply to some datagram, or one of the
announcements due at some instant. -/
inductive Sends (server : Server β σ) (packet : Octets) : Prop where
  | reply (datagram : Octets) (peer : Endpoint) (now : Int)
      (replied : (server.handleDatagram datagram peer now).value.result = some packet)
  | announced (now : Int) (member : packet ∈ (server.fireTimers now).value.result)

/-- Every reply is a response. -/
theorem Handling.isResponse {server : Server β σ} {datagram : Octets} {peer : Endpoint}
    {now : Int} {handled : Handled β σ (Option Octets)}
    (handling : Handling server datagram now peer handled) {reply : Octets}
    (replied : handled.result = some reply) : reply.IsResponse := by
  cases handling with
  | unreadable => cases replied
  | passedOver => cases replied
  | refused =>
      cases replied
      exact isResponse_versionRefusal _
  | address =>
      cases replied
      exact AddressResponse.isResponse_encode _
  | mapping =>
      cases replied
      exact MappingResponse.isResponse_encode _
  | unknown readable =>
      cases replied
      have fits : datagram.length ≤ longestRequest :=
        Nat.le_of_not_lt fun long => readable (.inr (.inl long))
      exact isResponse_opcodeRefusal fits

/-- However many timers are due, each sends responses. -/
theorem isResponse_fireTimers (server : Server β σ) (now : Int) :
    ∀ packet ∈ (server.fireTimers now).value.result, packet.IsResponse := by
  intro packet member
  rw [eq_announcement_of_mem_fireTimers member]
  exact AddressResponse.isResponse_encode _

/-- A server sends nothing but responses. -/
theorem Sends.isResponse {server : Server β σ} {packet : Octets} (sent : server.Sends packet) :
    packet.IsResponse := by
  cases sent with
  | reply datagram peer now replied =>
      exact (handling_handleDatagram server datagram peer now).isResponse replied
  | announced now member => exact isResponse_fireTimers server now packet member

/-- No packet that a server sends starts a loop.  Its header is refused for the response bit and
not for its length, so whatever server it is handed to, and whoever seems to have sent it, it is
not answered and changes nothing. -/
theorem no_loop_of_sends {server : Server β σ} {packet : Octets} (sent : server.Sends packet) :
    Header.parse packet = .error (.responseOpcode (packet.at8 1)) ∧
      ∀ {γ τ : Type} [Backend γ] (other : Server γ τ) (peer : Endpoint) (now : Int),
        (other.handleDatagram packet peer now).value = ⟨none, other⟩ := by
  have response := sent.isResponse
  constructor
  · exact response.parse_eq
  · intro γ τ _ other peer now
    exact value_handleDatagram_of_unreadable other response.unreadable peer now

/-- The shortest request of an unknown operation is echoed with padding, and the echo comes to
nothing. -/
theorem no_loop_of_shortEcho :
    atOneInterface.Sends [0, 0x85, 0, 5] ∧
      Header.parse [0, 0x85, 0, 5] = .error (.responseOpcode 0x85) ∧
      (atOneInterface.handleDatagram [0, 0x85, 0, 5] (.v4 ⟨⟨10, 0, 0, 7⟩, serverPort⟩) 9).value =
        ⟨none, atOneInterface⟩ := by
  have sent : atOneInterface.Sends [0, 0x85, 0, 5] :=
    .reply [0, 5] (.v4 ⟨⟨10, 0, 0, 7⟩, serverPort⟩) 0 rfl
  have inert := no_loop_of_sends sent
  exact ⟨sent, inert.1, inert.2 atOneInterface (.v4 ⟨⟨10, 0, 0, 7⟩, serverPort⟩) 9⟩

end Server

end PortMapping
