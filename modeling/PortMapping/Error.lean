import PortMapping.Configuration.Validation
import PortMapping.Firewall.Synchronizer
import PortMapping.Text.Utf8

/-!
# Errors of the gateway

What can go wrong while the gateway is set up or runs.  Every error has words of
its own and possibly a chain of causes, from the outermost inwards.
-/

namespace PortMapping

/-- What went wrong. -/
inductive GatewayError where
  | io (failure : IoFailure)
  | configuration (error : ConfigurationError)
  | firewall (error : SyncError)
  /-- The named interface could not be queried. -/
  | interface (name : String) (failure : IoFailure)
  | packet (error : PacketError)
  deriving DecidableEq, Repr

namespace GatewayError

/-- The words for an error. -/
def message : GatewayError → String
  | .io failure => "I/O error: " ++ failure.text
  | .configuration error => "Configuration error: " ++ error.message
  | .firewall error => "Firewall error: " ++ error.message
  | .interface name failure =>
      "Interface error: unable to query " ++ name ++ ": " ++ failure.text
  | .packet error => "Protocol error: " ++ error.message

/-- The words for what lies beneath an error, outermost first. -/
def causes : GatewayError → List String
  | .io failure => [failure.text]
  | .configuration _ => []
  | .firewall error => error.message :: error.causes
  | .interface _ _ => []
  | .packet error => [error.message]

/-- The words for an error and for everything beneath it. -/
def chain (error : GatewayError) : List String := error.message :: error.causes

end GatewayError

/-- The failure of a file that should be text and is not. -/
def notText : IoFailure := .described "stream did not contain valid UTF-8"

namespace Configuration

/-- The usable configuration that a reader finds in a file, given what reading the
file yields. -/
def load {ε : Type} [ToString ε] (reader : String → Except ε Configuration)
    (content : Except IoFailure Octets) : Except GatewayError Configuration :=
  match content with
  | .error failure => .error (.io failure)
  | .ok octets =>
      match Text.utf8? octets with
      | none => .error (.io notText)
      | some document => (parse reader document).mapError .configuration

end Configuration

end PortMapping
