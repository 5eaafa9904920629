import PortMapping.Error
import PortMapping.Server.Basic

/-!
# Starting the gateway

A gateway begins by clearing what a previous run left in its packet filter and
installing its own rules.  Then it reads its listen addresses, as was done before
when the configuration was checked.
-/

namespace PortMapping

/-- A server that was started, and the endpoints it is to listen on. -/
structure Prepared (β σ : Type) where
  server : Server β σ
  endpoints : List Endpoint

/-- Start the server that a configuration describes, over a packet filter and a source of
addresses, and read the endpoints it is to listen on. -/
def prepare {β σ : Type} [Backend β] (backend : β) (source : σ) (configuration : Configuration)
    (ports : PortSource) (now : Int) : Logged (Except GatewayError (Prepared β σ)) := do
  let monitor : Monitor σ := ⟨configuration.interface, source⟩
  let started ← (Server.new ⟨backend, commitRetryDelay⟩ monitor now ports).start
  match started.result with
  | .error error => return .error error
  | .ok _ =>
      match configuration.listenEndpoints with
      | .error error => return .error (.configuration error)
      | .ok endpoints => return .ok ⟨started.server, endpoints⟩

end PortMapping
