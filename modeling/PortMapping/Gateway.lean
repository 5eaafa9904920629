import PortMapping.Address
import PortMapping.Timer.Queue

/-!
# The gateway's address and epoch

The external address is unspecified while none is known.  The epoch is the
uptime in whole seconds that clients are told; it stays zero before the start
and stops at the largest value its field can hold.
-/

namespace PortMapping

/-- What the gateway tells about itself. -/
structure Gateway where
  externalAddress : Ipv4
  startTime : Int
  deriving DecidableEq, Repr

namespace Gateway

/-- A gateway started at an instant, its external address not yet known. -/
def start (startTime : Int) : Gateway := ⟨.unspecified, startTime⟩

/-- Whether an external address is known. -/
def hasExternalAddress (gateway : Gateway) : Bool := !gateway.externalAddress.isUnspecified

/-- The largest epoch. -/
def lastEpoch : Nat := 4294967295

/-- Whole seconds between the start and an instant, as clients are told. -/
def epoch (gateway : Gateway) (now : Int) : UInt32 :=
  UInt32.ofNat (min ((now - gateway.startTime).toNat / 1000000000) lastEpoch)

end Gateway

end PortMapping
