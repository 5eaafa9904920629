/-!
# Transport protocols

The two protocols whose ports can be mapped.
-/

namespace PortMapping

/-- A transport protocol. -/
inductive Transport where
  | tcp
  | udp
  deriving DecidableEq, Repr

namespace Transport

/-- The name of a transport in messages. -/
def name : Transport → String
  | .tcp => "TCP"
  | .udp => "UDP"

/-- The word for a transport in firewall rules. -/
def keyword : Transport → String
  | .tcp => "tcp"
  | .udp => "udp"

/-- The other transport. -/
def other : Transport → Transport
  | .tcp => .udp
  | .udp => .tcp

end Transport

end PortMapping
