import PortMapping.Address.Text
import PortMapping.Configuration.Basic
import PortMapping.Packet.Header
import PortMapping.Text.Blank

/-!
# Usable configurations

A configuration is usable if it names an interface, at least one listen address
and only good ones, and a table name that can stand in a firewall script.  The
first condition that fails, in this order, is the one reported.
-/

namespace PortMapping

/-- The endpoint that a listen address without blanks around it names: an address
with a port, or an address alone.  Port zero and no port stand for the server's
port. -/
def listenEndpoint? (text : List Char) : Option Endpoint :=
  let named :=
    match Endpoint.parseChars? text with
    | some endpoint => some endpoint
    | none => (IpAddress.parseChars? text).map (Endpoint.ofAddress · 0)
  named.map fun endpoint =>
    if endpoint.port = 0 then endpoint.withPort serverPort else endpoint

/-- The endpoint that a listen address names, blanks around it allowed. -/
def parseListenAddress (text : String) : Except ConfigurationError Endpoint :=
  let trimmed := Text.trimChars text.toList
  match listenEndpoint? trimmed with
  | some endpoint => .ok endpoint
  | none => .error (.invalidListenAddress (String.ofList trimmed))

/-- Whether a character may stand in the name of a table. -/
def isTableChar (character : Char) : Bool :=
  character.isAlphanum || character = '_' || character = '-'

/-- Whether a name may name a table. -/
def isTableName (name : String) : Bool :=
  !name.toList.isEmpty && name.toList.all isTableChar

namespace Configuration

/-- The endpoints to listen on, in order. -/
def listenEndpoints (configuration : Configuration) :
    Except ConfigurationError (List Endpoint) :=
  configuration.listen.mapM parseListenAddress

/-- Check that a configuration is usable. -/
def validate (configuration : Configuration) : Except ConfigurationError Unit :=
  if (Text.trimChars configuration.interface.toList).isEmpty then .error .emptyInterface
  else if configuration.listen.isEmpty then .error .noListenAddress
  else
    match configuration.listenEndpoints with
    | .error error => .error error
    | .ok _ =>
        if isTableName configuration.firewall.table then .ok ()
        else .error (.invalidTable configuration.firewall.table)

/-- The usable configuration that a reader finds in a document. -/
def parse {ε : Type} [ToString ε] (reader : String → Except ε Configuration)
    (document : String) : Except ConfigurationError Configuration :=
  match reader document with
  | .error error => .error (.document (toString error))
  | .ok configuration => configuration.validate.map fun _ => configuration

end Configuration

end PortMapping
