import PortMapping.Firewall.Memory
import PortMapping.Proofs.Handlers

/-!
# Runs of a server

The reactor calls the handlers in any order, at any instants, the clock going
backwards included.  Between two calls the packet filter and the source of
addresses may change by themselves, which is how their coming outcomes are left
open.  A run is a list of such steps.
-/

namespace PortMapping

/-- A call of one of the handlers. -/
inductive Call where
  | start
  | datagram (datagram : Octets) (peer : Endpoint) (now : Int)
  | interfaceEvent (event : InterfaceEvent) (now : Int)
  | checkInterface (now : Int)
  | fireTimers (now : Int)
  | shutdown
  deriving DecidableEq, Repr

/-- What a call returns. -/
inductive Answer where
  | outcome (outcome : Except GatewayError Unit)
  | reply (reply : Option Octets)
  | change (change : Except GatewayError AddressChange)
  | announcements (packets : List Octets)

/-- One step of a run: a handler is called, or the packet filter or the source of
addresses changes by itself. -/
inductive Step (β σ : Type) where
  | call (call : Call)
  | filter (change : β → β)
  | addresses (change : σ → σ)

/-- What a handler returns, as an answer. -/
def Handled.answer {β σ α : Type} (handled : Handled β σ α) (wrap : α → Answer) :
    Handled β σ Answer :=
  ⟨wrap handled.result, handled.server⟩

/-- An interface to follow, and its one address. -/
def oneInterface : Monitor AddressTable :=
  ⟨"em0", { entries := [("em0", [.v4 ⟨198, 51, 100, 1⟩])] }⟩

/-- A client sends a mapping request. -/
def Call.ask (client : Ipv4) (request : MappingRequest) (now : Int) : Call :=
  .datagram request.encode (.v4 ⟨client, clientPort⟩) now

namespace Server

variable {β σ : Type}

/-- The packet filter changes by itself. -/
def changeFilter (server : Server β σ) (change : β → β) : Server β σ :=
  { server with rules := { server.rules with backend := change server.rules.backend } }

/-- The source of addresses changes by itself. -/
def changeAddresses (server : Server β σ) (change : σ → σ) : Server β σ :=
  { server with monitor := { server.monitor with source := change server.monitor.source } }

variable [Backend β] [AddressSource σ]

/-- Call a handler. -/
def respond (server : Server β σ) : Call → Handled β σ Answer
  | .start => server.start.value.answer .outcome
  | .datagram datagram peer now => (server.handleDatagram datagram peer now).value.answer .reply
  | .interfaceEvent event now => (server.handleInterfaceEvent event now).value.answer .change
  | .checkInterface now => (server.checkInterface now).value.answer .change
  | .fireTimers now => (server.fireTimers now).value.answer .announcements
  | .shutdown => server.shutdown.value.answer .outcome

/-- A start replaces nothing but the rules. -/
theorem server_respond_start (server : Server β σ) :
    ∃ rules, (server.respond .start).server = { server with rules } :=
  server_start server

/-- An event about another interface changes nothing, any other makes the server ask. -/
theorem respond_interfaceEvent (server : Server β σ) (event : InterfaceEvent) (now : Int) :
    server.respond (.interfaceEvent event now) = ⟨.change (.ok .unchanged), server⟩ ∨
      server.respond (.interfaceEvent event now) = server.respond (.checkInterface now) := by
  by_cases followed : event.interface = server.monitor.interface
  · right
    rw [respond, handleInterfaceEvent_of_followed followed, respond]
  · left
    rw [respond, handleInterfaceEvent_of_foreign followed, Handled.answer]

theorem server_respond_interfaceEvent (server : Server β σ) (event : InterfaceEvent)
    (now : Int) :
    (server.respond (.interfaceEvent event now)).server = server ∨
      (server.respond (.interfaceEvent event now)).server =
        (server.checkInterface now).value.server := by
  rcases respond_interfaceEvent server event now with same | same
  · exact .inl (by rw [same])
  · exact .inr (by rw [same]; rfl)

/-- The server after a step. -/
def step (server : Server β σ) : Step β σ → Server β σ
  | .call call => (server.respond call).server
  | .filter change => server.changeFilter change
  | .addresses change => server.changeAddresses change

/-- The server after a run. -/
def run (server : Server β σ) (steps : List (Step β σ)) : Server β σ :=
  steps.foldl step server

@[simp] theorem run_nil (server : Server β σ) : server.run [] = server := rfl

@[simp] theorem run_cons (server : Server β σ) (first : Step β σ) (rest : List (Step β σ)) :
    server.run (first :: rest) = (server.step first).run rest := rfl

theorem run_append (server : Server β σ) (first second : List (Step β σ)) :
    server.run (first ++ second) = (server.run first).run second :=
  List.foldl_append

/-- What every step of a run preserves, the run preserves. -/
theorem run_invariant {property : Server β σ → Prop} {steps : List (Step β σ)}
    (kept : ∀ server, ∀ step ∈ steps, property server → property (server.step step))
    {server : Server β σ} (holds : property server) : property (server.run steps) := by
  induction steps generalizing server with
  | nil => exact holds
  | cons first rest ih =>
      rw [run_cons]
      apply ih
      · intro server step member
        exact kept server step (List.mem_cons_of_mem first member)
      · exact kept server first List.mem_cons_self holds

/-- Every step of a run meets a condition on the server that takes it. -/
def Along (condition : Server β σ → Step β σ → Prop) (server : Server β σ) :
    List (Step β σ) → Prop
  | [] => True
  | first :: rest => condition server first ∧ Along condition (server.step first) rest

instance Along.decidable (condition : Server β σ → Step β σ → Prop)
    [∀ server step, Decidable (condition server step)] (server : Server β σ) :
    (steps : List (Step β σ)) → Decidable (server.Along condition steps)
  | [] => inferInstanceAs (Decidable True)
  | first :: rest =>
      have := Along.decidable condition (server.step first) rest
      inferInstanceAs (Decidable (_ ∧ _))

theorem along_append {condition : Server β σ → Step β σ → Prop} {server : Server β σ}
    {first second : List (Step β σ)} :
    server.Along condition (first ++ second) ↔
      server.Along condition first ∧ (server.run first).Along condition second := by
  induction first generalizing server with
  | nil => simp [Along]
  | cons step rest ih =>
      rw [List.cons_append, Along, ih, Along, run_cons, and_assoc]

/-- What every step that meets a condition preserves, a run of such steps preserves. -/
theorem Along.invariant {condition : Server β σ → Step β σ → Prop}
    {property : Server β σ → Prop}
    (kept : ∀ server step, condition server step → property server →
      property (server.step step))
    {server : Server β σ} {steps : List (Step β σ)} (along : server.Along condition steps)
    (holds : property server) : property (server.run steps) := by
  induction steps generalizing server with
  | nil => exact holds
  | cons first rest ih => exact ih along.2 (kept server first along.1 holds)

/-- The address that a step moves the server to, if it does. -/
def movesTo? (server : Server β σ) : Step β σ → Option Ipv4
  | .call call =>
      match (server.respond call).result with
      | .change (.ok (.changed _ current)) => some current
      | _ => none
  | _ => none

/-- A step at which the external address stays what it is. -/
def Stays (server : Server β σ) (step : Step β σ) : Prop := server.movesTo? step = none

/-- The announcements that a step sends, each with the instant of the call. -/
def sent (server : Server β σ) : Step β σ → List (Int × Octets)
  | .call (.fireTimers now) =>
      (server.fireTimers now).value.result.map fun packet => (now, packet)
  | _ => []

/-- The announcements that a run sends. -/
def announcements (server : Server β σ) : List (Step β σ) → List (Int × Octets)
  | [] => []
  | first :: rest => server.sent first ++ (server.step first).announcements rest

/-- A server that some run leads to from a new one without mappings. -/
def Reachable (server : Server β σ) : Prop :=
  ∃ rules monitor startTime ports steps, server = (new rules monitor startTime ports).run steps

theorem reachable_new (rules : Synchronizer β) (monitor : Monitor σ) (startTime : Int)
    (ports : PortSource) : (new rules monitor startTime ports).Reachable :=
  ⟨rules, monitor, startTime, ports, [], rfl⟩

/-- A new server with its rules in memory, following an interface with one address. -/
def atOneInterface : Server MemoryFilter AddressTable :=
  new ⟨.empty, 0⟩ oneInterface 0 (.ofList [50000])

theorem reachable_atOneInterface : atOneInterface.Reachable :=
  reachable_new _ _ _ _

theorem Reachable.run {server : Server β σ} (reachable : server.Reachable)
    (steps : List (Step β σ)) : (server.run steps).Reachable := by
  rcases reachable with ⟨rules, monitor, startTime, ports, earlier, rfl⟩
  exact ⟨rules, monitor, startTime, ports, earlier ++ steps, (run_append _ _ _).symm⟩

end Server

end PortMapping
