import PortMapping.Interface.Event
import PortMapping.Log
import PortMapping.Octets

/-!
# Routing messages

The kernel reports changes in datagrams of routing messages.  What the octets of a
message say is told by a decoder, which every definition here takes as an argument;
what a decoded message reports, and where in a datagram the next one starts, is
told here.  The next message starts exactly where the length of the one before it
says; an undecodable message ends the datagram, and the events before it stand.
-/

namespace PortMapping

namespace Routing

/-! ## Decoded messages -/

/-- An attribute of an address. -/
inductive AddressAttribute where
  | label (text : String)
  | other
  deriving DecidableEq, Repr

/-- An attribute of a link. -/
inductive LinkAttribute where
  | name (text : String)
  | other
  deriving DecidableEq, Repr

/-- A routing message. -/
inductive Message where
  | newAddress (attributes : List AddressAttribute)
  | deleteAddress (attributes : List AddressAttribute)
  | deleteLink (attributes : List LinkAttribute)
  /-- A message of any other type. -/
  | other
  deriving DecidableEq, Repr

/-- What a packet carries. -/
inductive Payload where
  | routing (message : Message)
  /-- The end of an answer, an error, or nothing at all. -/
  | control
  deriving DecidableEq, Repr

/-- A decoded packet. -/
structure Packet where
  /-- The length in octets that the header states. -/
  length : Nat
  payload : Payload
  deriving DecidableEq, Repr

/-! ## Decoders -/

/-- Decodes the packet at the front of an octet string, or tells in words why there
is none. -/
abbrev Decoder := Octets → Except String Packet

/-- The length of a packet's header. -/
def packetHeader : Nat := 16

/-- What is relied on of a decoder: a packet is at least a header long and lies
within the octets, and it is decoded from its own octets only. -/
structure Decoder.Framing (decode : Decoder) : Prop where
  bounds {octets : Octets} {packet : Packet} (decoded : decode octets = .ok packet) :
    packetHeader ≤ packet.length ∧ packet.length ≤ octets.length
  own {octets other : Octets} {packet : Packet} (decoded : decode octets = .ok packet)
    (same : other.take packet.length = octets.take packet.length) : decode other = .ok packet

/-! ## Events -/

/-- The interface that an address label names.  The label of an alias continues
after a colon; a label without a name before it names none. -/
def labelInterface? (label : String) : Option String :=
  let name := label.toList.takeWhile (· ≠ ':')
  if name.isEmpty then none else some (String.ofList name)

/-- The interface that an attribute of an address names. -/
def AddressAttribute.interface? : AddressAttribute → Option String
  | .label text => labelInterface? text
  | .other => none

/-- The interface that an attribute of a link names. -/
def LinkAttribute.interface? : LinkAttribute → Option String
  | .name text => some text
  | .other => none

/-- The event that a message reports, under the first name in it. -/
def Message.event? : Message → Option InterfaceEvent
  | .newAddress attributes =>
      (attributes.findSome? AddressAttribute.interface?).map (⟨.addressAdded, ·⟩)
  | .deleteAddress attributes =>
      (attributes.findSome? AddressAttribute.interface?).map (⟨.addressRemoved, ·⟩)
  | .deleteLink attributes =>
      (attributes.findSome? LinkAttribute.interface?).map (⟨.departed, ·⟩)
  | .other => none

/-- The event that a packet reports. -/
def Packet.event? (packet : Packet) : Option InterfaceEvent :=
  match packet.payload with
  | .routing message => message.event?
  | .control => none

/-- The events that a datagram of routing messages reports. -/
def events (decode : Decoder) (datagram : Octets) : Logged (List InterfaceEvent) :=
  if _ended : datagram.isEmpty then pure []
  else
    match decode datagram with
    | .error words => do
        .debug ("Undecodable routing message: " ++ words)
        return []
    | .ok packet =>
        if _stuck : packet.length = 0 then pure []
        else do
          let later ← events decode (datagram.drop packet.length)
          return packet.event?.toList ++ later
termination_by datagram.length
decreasing_by
  have occupied : 0 < datagram.length := by simpa [List.length_pos_iff] using _ended
  rw [List.length_drop]
  omega

end Routing

end PortMapping
