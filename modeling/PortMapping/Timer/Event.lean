import PortMapping.Timer.Queue

/-!
# What the gateway's timers do

A timer either ends the lifetime of a mapping, named by the mapping's
identifier, or sends the next address announcement.
-/

namespace PortMapping

/-- The identifier of a mapping, carried by its expiry timer. -/
structure MappingId where
  index : Nat
  deriving DecidableEq, Repr

/-- What a timer does when it fires. -/
inductive TimerEvent where
  | expire (mapping : MappingId)
  | announce
  deriving DecidableEq, Repr

end PortMapping
