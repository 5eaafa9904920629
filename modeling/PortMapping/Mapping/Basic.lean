import PortMapping.Transport
import PortMapping.Address.Text
import PortMapping.Timer.Event

/-!
# Mappings and the ports they get

A mapping redirects one external endpoint to one internal endpoint and owns the
timer that ends it.  External ports come from the dynamic range, in an order
fixed in advance, so that every run of the gateway is a function of its inputs.
-/

namespace PortMapping

/-- The first port of the dynamic range. -/
def firstDynamicPort : UInt16 := 49152

/-- The last port of the dynamic range. -/
def lastDynamicPort : UInt16 := 65535

/-- The ports still to be drawn, in order. -/
structure PortSource where
  upcoming : Nat → UInt16

namespace PortSource

/-- The port drawn next. -/
def next (source : PortSource) : UInt16 := source.upcoming 0

/-- The source after a draw. -/
def advance (source : PortSource) : PortSource := ⟨fun position => source.upcoming (position + 1)⟩

/-- A source that yields the listed ports, and then the first dynamic port. -/
def ofList (ports : List UInt16) : PortSource :=
  ⟨fun position => ports.getD position firstDynamicPort⟩

instance : Inhabited PortSource := ⟨ofList []⟩

end PortSource

/-- An active port redirection. -/
structure Mapping where
  id : MappingId
  transport : Transport
  /-- The public endpoint that arriving packets name. -/
  external : Endpoint4
  /-- The private endpoint that traffic reaches. -/
  internal : Endpoint4
  /-- The timer that ends the mapping. -/
  timer : TimerId
  deriving DecidableEq, Repr

/-- A redirection as text. -/
def redirectText (transport : Transport) (external internal : Endpoint4) : String :=
  transport.name ++ " " ++ external.text ++ " -> " ++ internal.text

namespace Mapping

/-- A mapping as text. -/
def text (mapping : Mapping) : String :=
  redirectText mapping.transport mapping.external mapping.internal

/-- Whether a mapping serves a transport and an internal endpoint. -/
def serves (mapping : Mapping) (transport : Transport) (internal : Endpoint4) : Bool :=
  mapping.transport = transport && mapping.internal = internal

/-- Whether a mapping has a transport and leads to a port of a host; port zero
stands for every port. -/
def leadsTo (mapping : Mapping) (transport : Transport) (address : Ipv4) (port : UInt16) : Bool :=
  mapping.transport = transport && mapping.internal.address = address &&
    (port = 0 || mapping.internal.port = port)

end Mapping

end PortMapping
