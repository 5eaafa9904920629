import PortMapping.Proofs.Announcements
import PortMapping.Proofs.RuleHistory

/-!
# What a server asks about its interface

Only the handlers that follow the interface ask for addresses; every other handler acts alike
over any source of addresses.  So what the source was asked, and what it answered, can be read
off a source that notes the inquiries, and two servers that only their sources tell apart go on
alike as long as they are answered alike.
-/

namespace PortMapping

/-- A question for the addresses of an interface, with its answer. -/
structure Inquiry where
  interface : String
  outcome : Except IoFailure (List IpAddress)
  deriving DecidableEq

/-- A source of addresses with the inquiries made of it, the first one first. -/
structure Noted (σ : Type) where
  source : σ
  inquiries : List Inquiry
  deriving DecidableEq

instance {σ : Type} [AddressSource σ] : AddressSource (Noted σ) where
  query noted interface :=
    let query := AddressSource.query noted.source interface
    ⟨query.outcome, ⟨query.source, noted.inquiries ++ [⟨interface, query.outcome⟩]⟩⟩

/-- Whether a call makes a server that follows an interface ask for its addresses. -/
def Call.Asks (interface : String) : Call → Prop
  | .interfaceEvent event _ => event.interface = interface
  | .checkInterface _ => True
  | _ => False

instance Call.Asks.decidable (interface : String) : (call : Call) → Decidable (call.Asks interface)
  | .interfaceEvent _ _ => inferInstanceAs (Decidable (_ = _))
  | .checkInterface _ => inferInstanceAs (Decidable True)
  | .start | .datagram .. | .fireTimers _ | .shutdown => inferInstanceAs (Decidable False)

variable {β σ τ : Type}

namespace Server

/-- The same server with another source of addresses. -/
def withSource (server : Server β σ) (source : τ) : Server β τ where
  table := server.table
  gateway := server.gateway
  timers := server.timers
  announcer := server.announcer
  rules := server.rules
  monitor := ⟨server.monitor.interface, source⟩

/-- All of a server but its source of addresses. -/
def sourceless (server : Server β σ) : Server β Unit := server.withSource ()

/-- Servers that only their sources tell apart are one server with two sources. -/
theorem eq_withSource_of_sourceless_eq {left : Server β σ} {right : Server β τ}
    (same : left.sourceless = right.sourceless) :
    right = left.withSource right.monitor.source := by
  rcases left with ⟨table, gateway, timers, announcer, rules, monitor⟩
  rcases right with ⟨table', gateway', timers', announcer', rules', ⟨interface', source'⟩⟩
  cases same
  rfl

end Server

/-- What a handler returned, with another source of addresses. -/
def Handled.withSource {α : Type} (handled : Handled β σ α) (source : τ) : Handled β τ α :=
  ⟨handled.result, handled.server.withSource source⟩

/-! ## Handlers that do not ask -/

namespace Server

theorem decideMapping_withSource (server : Server β σ) (source : τ) (request : MappingRequest)
    (client : Ipv4) (now : Int) :
    let verdict := (server.decideMapping request client now).value
    ((server.withSource source).decideMapping request client now).value =
      { externalPort := verdict.externalPort
        lifetime := verdict.lifetime
        changed := verdict.changed
        server := verdict.server.withSource source } := by
  intro verdict
  have after : verdict.server.refitted server.rules ⟨server.monitor.interface, source⟩ =
      verdict.server.withSource source := by
    rcases server_decideMapping server request client now with ⟨table, timers, same⟩
    simp only [verdict, same]
    rfl
  rw [← after]
  exact server.decideMapping_refitted server.rules _ request client now

section Handlers

variable [Backend β]

theorem handleMapping_withSource (server : Server β σ) (source : τ) (request : MappingRequest)
    (client : Ipv4) (now : Int) :
    ((server.withSource source).handleMapping request client now).value =
      (server.handleMapping request client now).value.withSource source := by
  have result : ((server.withSource source).handleMapping request client now).value.result =
      (server.handleMapping request client now).value.result := by
    rw [result_handleMapping, result_handleMapping, decideMapping_withSource]
    rfl
  have after : ((server.withSource source).handleMapping request client now).value.server =
      (server.handleMapping request client now).value.server.withSource source := by
    rw [server_handleMapping, server_handleMapping, decideMapping_withSource]
    simp only
    split <;> rfl
  exact congr (congrArg Handled.mk result) after

theorem handleDatagram_withSource (server : Server β σ) (source : τ) (datagram : Octets)
    (peer : Endpoint) (now : Int) :
    ((server.withSource source).handleDatagram datagram peer now).value =
      (server.handleDatagram datagram peer now).value.withSource source := by
  cases served : mappingRequest? datagram peer with
  | none =>
      have gateway : (server.withSource source).gateway = server.gateway := rfl
      have result := result_handleDatagram_of_none gateway now served
      have after : ((server.withSource source).handleDatagram datagram peer now).value.server =
          (server.handleDatagram datagram peer now).value.server.withSource source := by
        rw [server_handleDatagram_of_none server now served,
          server_handleDatagram_of_none (server.withSource source) now served]
      exact congr (congrArg Handled.mk result) after
  | some asked =>
      rcases asked with ⟨request, client⟩
      rw [handleDatagram_of_some server now served,
        handleDatagram_of_some (server.withSource source) now served, handleMapping_withSource]
      rfl

theorem afterTimer_withSource (server : Server β σ) (source : τ)
    (fired : TimerQueue.Fired TimerEvent) (now : Int) :
    (server.withSource source).afterTimer fired now =
      (server.afterTimer fired now).withSource source := by
  cases event : fired.event with
  | announce =>
      rw [afterTimer_announce server event, afterTimer_announce (server.withSource source) event]
      rfl
  | expire id =>
      cases expired : (server.table.expire id).expired with
      | none =>
          rw [afterTimer_missing server event expired,
            afterTimer_missing (server.withSource source) event expired]
          rfl
      | some mapping =>
          rw [afterTimer_expire server event expired,
            afterTimer_expire (server.withSource source) event expired]
          rfl

theorem fireTimers_withSource (server : Server β σ) (source : τ) (now : Int) :
    ((server.withSource source).fireTimers now).value =
      (server.fireTimers now).value.withSource source := by
  refine firing_induction now ?done ?next server
  case done =>
    intro server idle
    have alsoIdle : (server.withSource source).timers.popDue now = none := idle
    rw [fireTimers_of_none idle, fireTimers_of_none alsoIdle]
    rfl
  case next =>
    intro server fired popped ih
    have alsoPopped : (server.withSource source).timers.popDue now = some fired := popped
    rw [fireTimers_of_some popped, fireTimers_of_some alsoPopped, afterTimer_withSource]
    simp only [Handled.withSource, ih]

theorem start_withSource (server : Server β σ) (source : τ) :
    (server.withSource source).start.value = server.start.value.withSource source := by
  cases cleared : server.rules.reset.value.outcome with
  | error error =>
      have alsoCleared : (server.withSource source).rules.reset.value.outcome = .error error :=
        cleared
      simp only [start, Logged.value_bind, cleared, alsoCleared]
      rfl
  | ok nothing =>
      have alsoCleared : (server.withSource source).rules.reset.value.outcome = .ok nothing :=
        cleared
      simp only [start, Logged.value_bind, cleared, alsoCleared]
      rfl

variable [AddressSource σ] [AddressSource τ]

/-- A call that does not make the server ask is handled alike over any source. -/
theorem respond_withSource {server : Server β σ} (source : τ) {call : Call}
    (quiet : ¬call.Asks server.monitor.interface) :
    (server.withSource source).respond call = (server.respond call).withSource source := by
  cases call with
  | start => exact congrArg (Handled.answer · .outcome) (server.start_withSource source)
  | datagram datagram peer now =>
      exact congrArg (Handled.answer · .reply)
        (server.handleDatagram_withSource source datagram peer now)
  | fireTimers now =>
      exact congrArg (Handled.answer · .announcements) (server.fireTimers_withSource source now)
  | shutdown => rfl
  | interfaceEvent event now =>
      have alsoForeign : event.interface ≠ (server.withSource source).monitor.interface := quiet
      rw [respond, respond, handleInterfaceEvent_of_foreign quiet,
        handleInterfaceEvent_of_foreign alsoForeign]
      rfl
  | checkInterface now => exact (quiet trivial).elim

/-- A call that makes a server ask is handled as a check. -/
theorem exists_check_of_asks {interface : String} {call : Call} (asks : call.Asks interface) :
    ∃ now, ∀ {υ : Type} [AddressSource υ] (server : Server β υ),
      server.monitor.interface = interface →
        server.respond call = server.respond (.checkInterface now) := by
  cases call with
  | interfaceEvent event now =>
      refine ⟨now, ?_⟩
      intro υ _ server follows
      rw [respond, handleInterfaceEvent_of_followed (asks.trans follows.symm), respond]
  | checkInterface now => exact ⟨now, fun _ _ => rfl⟩
  | start | datagram | fireTimers | shutdown => exact asks.elim

end Handlers

/-! ## Handlers that ask -/

section Asking

variable [AddressSource σ]

/-- What the server learns when it asks for the addresses of its interface. -/
def inquiry (server : Server β σ) : Inquiry :=
  ⟨server.monitor.interface,
    (AddressSource.query server.monitor.source server.monitor.interface).outcome⟩

/-- The server once it has asked, its source as the question left it. -/
def asked (server : Server β σ) : Server β σ :=
  server.withSource (AddressSource.query server.monitor.source server.monitor.interface).source

theorem checkInterface_of_error {server : Server β σ} {failure : IoFailure}
    (failed : server.inquiry.outcome = .error failure) (now : Int) :
    (server.checkInterface now).value =
      ⟨.error (.interface server.monitor.interface failure), server.asked⟩ := by
  have found : server.monitor.currentAddress.outcome = .error failure :=
    congrArg (Except.map firstIpv4) failed
  simp only [checkInterface, found]
  rfl

theorem checkInterface_of_ok {server : Server β σ} {addresses : List IpAddress}
    (answered : server.inquiry.outcome = .ok addresses) (now : Int) :
    (server.checkInterface now).value =
      if firstIpv4 addresses = server.gateway.externalAddress then ⟨.ok .unchanged, server.asked⟩
      else
        ⟨.ok (.changed server.gateway.externalAddress (firstIpv4 addresses)),
          server.asked.moveTo (firstIpv4 addresses) now⟩ := by
  have found : server.monitor.currentAddress.outcome = .ok (firstIpv4 addresses) :=
    congrArg (Except.map firstIpv4) answered
  simp only [checkInterface, found]
  split <;> rfl

/-- Two servers that only their sources tell apart, answered alike, come to the same. -/
theorem checkInterface_withSource [AddressSource τ] {server : Server β σ} {source : τ}
    (same : (server.withSource source).inquiry = server.inquiry) (now : Int) :
    ((server.withSource source).checkInterface now).value.withSource () =
      (server.checkInterface now).value.withSource () := by
  cases answered : server.inquiry.outcome with
  | error failure =>
      rw [checkInterface_of_error answered, checkInterface_of_error (same ▸ answered)]
      rfl
  | ok addresses =>
      have address : (server.withSource source).gateway.externalAddress =
          server.gateway.externalAddress := rfl
      rw [checkInterface_of_ok answered, checkInterface_of_ok (same ▸ answered), address]
      split <;> rfl

end Asking

/-! ## Inquiries made -/

section Inquiries

variable [Backend β] [AddressSource σ]

/-- The same server with its inquiries noted. -/
def noting (server : Server β σ) : Server β (Noted σ) :=
  server.withSource ⟨server.monitor.source, []⟩

/-- What a call asks of the source of addresses, and what it is told. -/
def inquiries (server : Server β σ) (call : Call) : List Inquiry :=
  (server.noting.respond call).server.monitor.source.inquiries

theorem inquiries_checkInterface (server : Server β σ) (now : Int) :
    server.inquiries (.checkInterface now) = [server.inquiry] := by
  have noted : (server.noting.checkInterface now).value.server.monitor.source =
      server.noting.asked.monitor.source := by
    cases answered : server.noting.inquiry.outcome with
    | error failure => rw [checkInterface_of_error answered]
    | ok addresses =>
        rw [checkInterface_of_ok answered]
        split <;> rfl
  exact congrArg Noted.inquiries noted

/-- A call asks for the addresses of the followed interface once, or not at all. -/
theorem inquiries_eq (server : Server β σ) (call : Call) :
    server.inquiries call =
      if call.Asks server.monitor.interface then [server.inquiry] else [] := by
  split
  next asks =>
    rcases exists_check_of_asks (β := β) asks with ⟨now, same⟩
    rw [inquiries, same server.noting rfl]
    exact server.inquiries_checkInterface now
  next quiet =>
    rw [inquiries, noting, respond_withSource _ quiet]
    rfl

end Inquiries

end Server

end PortMapping
