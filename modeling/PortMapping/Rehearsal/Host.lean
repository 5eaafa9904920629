import PortMapping.Address.Text
import PortMapping.Error
import PortMapping.Interface.Monitor
import PortMapping.Interface.Routing

/-!
# The machine the gateway runs on

A machine for rehearsing runs of the program and the sessions of a daemon, in place
of a system with sockets and files.  The gateway's own definitions do not know it:
a server is handed datagrams, events and instants, and asks only its packet filter
and its source of addresses.

What a machine allows follows from the addresses of its interfaces and the rights
of the gateway: which endpoints can be bound, out of which interface multicast is
sent, and whom a datagram reaches.  A machine without any IPv4 address keeps no
list of local addresses, and lets every IPv4 address be bound.
-/

namespace PortMapping

/-- A machine: its interfaces with their addresses, numbered from one, what is
installed, and what the gateway may do on it. -/
structure Host where
  interfaces : List (String × List IpAddress)
  /-- Whether the filter program is installed. -/
  filterInstalled : Bool := false
  /-- Whether the gateway may do what is kept for the administrator: bind the lowest
  ports, and hand routing messages to other programs. -/
  privileged : Bool := false
  /-- Why no routing messages can be received, if they cannot. -/
  feedRefusal? : Option SystemRefusal := none
  /-- Why no signals can be waited for, if they cannot. -/
  signalRefusal? : Option SystemRefusal := none

namespace Host

/-- A machine whose only interface has no address. -/
def isolated : Host where
  interfaces := [("lo", [])]

/-- The loopback address. -/
def loopbackAddress : Ipv4 := ⟨127, 0, 0, 1⟩

/-- The machine as a source of addresses. -/
def addressTable (host : Host) : AddressTable where
  entries := host.interfaces

/-- Every address of the machine. -/
def addresses (host : Host) : List IpAddress := host.interfaces.flatMap (·.2)

/-- Whether the machine has an IPv4 address. -/
def hasIpv4 (host : Host) : Bool := host.addresses.any fun address => address.v4?.isSome

/-- Whether an address is the machine's own; with the loopback address, its whole
network is. -/
def owns (host : Host) (address : IpAddress) : Bool :=
  host.addresses.contains address ||
    (match address with
      | .v4 address => address.first = 127 && host.addresses.contains (.v4 loopbackAddress)
      | .v6 _ => false)

/-- Whether an address stands for every address of the machine. -/
def isWildcard : IpAddress → Bool
  | .v4 address => address.isUnspecified
  | .v6 address => address = .unspecified

/-- The first port that every program may bind. -/
def firstOpenPort : Nat := 1024

/-- Whether a port is kept from the gateway.  Port zero, which asks for any port,
never is. -/
def reservesPort (host : Host) (port : UInt16) : Bool :=
  !host.privileged && port ≠ 0 && port.toNat < firstOpenPort

/-- Why an endpoint cannot be bound whatever else is bound, if it cannot.  A socket
of one family does not take the addresses of the other, and an address that needs
an interface has to name one that exists.  The port is looked at after an IPv4
address, and before an IPv6 address. -/
def bindRefusal? (host : Host) (asked : Endpoint) : Option SystemRefusal :=
  let owned := isWildcard asked.address || host.owns asked.address
  match asked with
  | .v4 endpoint =>
      if !owned && host.hasIpv4 then some .addressUnavailable
      else if host.reservesPort endpoint.port then some .permissionDenied
      else none
  | .v6 endpoint =>
      if host.reservesPort endpoint.port then some .permissionDenied
      else if endpoint.address.mapped?.isSome then some .invalidArgument
      else if endpoint.address.needsScope && endpoint.scope = 0 then some .invalidArgument
      else if endpoint.address.needsScope && host.interfaces.length < endpoint.scope.toNat then
        some .noSuchDevice
      else if owned || endpoint.address.isMulticast then none
      else some .addressUnavailable

/-- Whether two endpoints cannot be bound both. -/
def clash (left right : Endpoint) : Bool :=
  left.isV4 = right.isV4 && left.port = right.port &&
    (left.address = right.address || isWildcard left.address || isWildcard right.address)

/-- The first port handed out to those who ask for any. -/
def firstFreePort : Nat := 32768

/-- A port not used by any of the endpoints in use. -/
def freePort (inUse : List Endpoint) : UInt16 :=
  let candidates := (List.range (inUse.length + 1)).map fun offset =>
    UInt16.ofNat (firstFreePort + offset)
  (candidates.find? fun port => inUse.all fun endpoint => endpoint.port ≠ port).getD 0

/-- Bind an endpoint while others are in use; port zero asks for any port. -/
def bind (host : Host) (inUse : List Endpoint) (asked : Endpoint) :
    Except IoFailure Endpoint :=
  match host.bindRefusal? asked with
  | some refusal => .error (.refused refusal)
  | none =>
      if asked.port = 0 then .ok (asked.withPort (freePort inUse))
      else if inUse.any (clash asked) then .error (.refused .addressInUse)
      else .ok asked

/-- Choose the interface for multicast by an address it holds. -/
def chooseMulticast (host : Host) (address : Ipv4) : Except IoFailure Unit :=
  if address.isUnspecified || host.owns (.v4 address) then .ok ()
  else .error (.refused .addressUnavailable)

/-- Whether a bound endpoint receives what is sent to a destination. -/
def receives (destination bound : Endpoint) : Bool :=
  bound.isV4 = destination.isV4 && bound.port = destination.port &&
    (bound.address = destination.address || isWildcard bound.address)

/-- The failure of waiting in vain for a datagram. -/
def nothingArrived : IoFailure := .described "deadline has elapsed"

/-- Send a datagram from a new socket on an address to an endpoint and wait until
it has arrived.  One to the unspecified IPv4 address goes back to the machine
without looking for a route, and is lost if the machine has no IPv4 address. -/
def send (host : Host) (source : IpAddress) (destination : Endpoint) :
    Except IoFailure Endpoint := do
  let peer ← host.bind [] (Endpoint.ofAddress source 0)
  if peer.isV4 && !destination.isV4 then throw (.refused .familyUnsupported)
  else if destination.isV4 && isWildcard destination.address then
    if host.hasIpv4 then return peer else throw nothingArrived
  else if host.owns destination.address && peer.isV4 = destination.isV4 then return peer
  else throw (.refused .networkUnreachable)

/-- Bind one listen endpoint.  An IPv4 endpoint sends its announcements out of the
interface with its address; failing to arrange that is only logged. -/
def listen (host : Host) (inUse : List Endpoint) (asked : Endpoint) :
    Logged (Except IoFailure Endpoint) := do
  match asked with
  | .v4 endpoint =>
      match host.chooseMulticast endpoint.address with
      | .ok _ => pure ()
      | .error failure =>
          .warn ("Unable to set multicast interface for " ++ asked.text ++ ": " ++ failure.text)
  | .v6 _ => pure ()
  return host.bind inUse asked

/-- Bind the listen endpoints that can be bound, in order. -/
def listenEach (host : Host) (inUse : List Endpoint) : List Endpoint → Logged (List Endpoint)
  | [] => pure []
  | asked :: later => do
      match ← host.listen inUse asked with
      | .ok endpoint =>
          .info ("listening on " ++ endpoint.text)
          let endpoints ← listenEach host (endpoint :: inUse) later
          return endpoint :: endpoints
      | .error failure =>
          .warn ("bind on " ++ asked.text ++ " failed, skipping: " ++ failure.text)
          listenEach host inUse later

/-- Bind the listen endpoints that can be bound; at least one has to be. -/
def listenAll (host : Host) (inUse asked : List Endpoint) :
    Logged (Except GatewayError (List Endpoint)) := do
  let endpoints ← host.listenEach inUse asked
  if endpoints.isEmpty then
    return .error (.io (.described "no listen address could be bound"))
  else return .ok endpoints

/-- Open what the gateway waits on besides its endpoints. -/
def openFeeds (host : Host) : Except GatewayError Unit :=
  match host.feedRefusal?, host.signalRefusal? with
  | some refusal, _ => .error (.io (.refused refusal))
  | none, some refusal => .error (.io (.refused refusal))
  | none, none => .ok ()

/-- How much of a datagram of routing messages is read. -/
def routingBuffer : Nat := 8192

/-- The events that the routing feed reports for each datagram delivered to it by
another program. -/
def routingFeed (host : Host) (decode : Routing.Decoder) (datagrams : List Octets) :
    Except IoFailure (Logged (List (List InterfaceEvent))) :=
  if host.privileged then
    .ok (datagrams.mapM fun datagram => Routing.events decode (datagram.take routingBuffer))
  else .error (.refused .notPermitted)

end Host

end PortMapping
