import PortMapping.Address
import PortMapping.Text.Numeral

/-!
# Addresses as text

Written forms are canonical: decimal parts without padding, lower-case groups
without padding, and `::` for the longest run of at least two zero groups, the
first of equally long ones.  An IPv4-mapped address keeps its dotted part.

Read forms are looser for IPv6: letters of either case, up to four digits a
group, `::` for any run of zero groups, and a dotted IPv4 address in place of the
last two groups.  A port may be padded, an IPv4 part may not, and a scope stands
only inside brackets.
-/

namespace PortMapping

open Text

/-! ## IPv4 -/

namespace Ipv4

/-- The dotted form of an address. -/
def chars (address : Ipv4) : List Char :=
  decimal address.first.toNat ++ '.' :: (decimal address.second.toNat ++ '.' ::
    (decimal address.third.toNat ++ '.' :: decimal address.fourth.toNat))

/-- The dotted form of an address. -/
def text (address : Ipv4) : String := String.ofList address.chars

/-- One part of a dotted address: up to three digits, unpadded, below 256. -/
def partRule : NumeralRule where
  base := 10
  longest := some 3
  paddable := false
  bound := 256

/-- Read a dotted address at the front of a text. -/
def read (text : List Char) : Option (Ipv4 × List Char) := do
  let (first, rest) ← partRule.read text
  let (second, rest) ← (expect '.' rest).bind partRule.read
  let (third, rest) ← (expect '.' rest).bind partRule.read
  let (fourth, rest) ← (expect '.' rest).bind partRule.read
  return (⟨.ofNat first, .ofNat second, .ofNat third, .ofNat fourth⟩, rest)

end Ipv4

/-! ## IPv6 -/

namespace Ipv6

/-- Where the longest run of zero groups starts, and how long it is. -/
def longestZeros : List UInt16 → Nat × Nat
  | [] => (0, 0)
  | group :: rest =>
      let here := ((group :: rest).takeWhile (· = 0)).length
      let later := longestZeros rest
      if later.2 ≤ here then (0, here) else (later.1 + 1, later.2)

/-- Groups in lower-case hexadecimal, separated by colons. -/
def joinGroups : List UInt16 → List Char
  | [] => []
  | [group] => hexadecimal group.toNat
  | group :: rest => hexadecimal group.toNat ++ ':' :: joinGroups rest

/-- The canonical form of an address. -/
def chars (address : Ipv6) : List Char :=
  match address.mapped? with
  | some inner => "::ffff:".toList ++ inner.chars
  | none =>
      let zeros := longestZeros address.groups
      if 2 ≤ zeros.2 then
        joinGroups (address.groups.take zeros.1) ++ "::".toList ++
          joinGroups (address.groups.drop (zeros.1 + zeros.2))
      else joinGroups address.groups

/-- The canonical form of an address. -/
def text (address : Ipv6) : String := String.ofList address.chars

/-- One group: up to four hexadecimal digits. -/
def groupRule : NumeralRule where
  base := 16
  longest := some 4
  paddable := true
  bound := 65536

/-- A run of groups read from a text. -/
structure GroupRun where
  groups : List UInt16
  /-- Whether the run ended with a dotted IPv4 address. -/
  dotted : Bool
  /-- The text after the run. -/
  rest : List Char

/-- The two groups that an IPv4 address fills. -/
def groupsOfIpv4 (address : Ipv4) : List UInt16 :=
  [Octets.join16 address.first address.second, Octets.join16 address.third address.fourth]

/-- Read at most `slots` groups separated by colons.  A dotted IPv4 address fills
two slots and ends the run. -/
def readGroups : (slots : Nat) → (leading : Bool) → List Char → GroupRun
  | 0, _, text => ⟨[], false, text⟩
  | slots + 1, leading, text =>
      let item := if leading then some text else expect ':' text
      match (if slots = 0 then none else item.bind Ipv4.read) with
      | some (address, rest) => ⟨groupsOfIpv4 address, true, rest⟩
      | none =>
          match item.bind groupRule.read with
          | some (group, rest) =>
              let following := readGroups slots false rest
              ⟨.ofNat group :: following.groups, following.dotted, following.rest⟩
          | none => ⟨[], false, text⟩

/-- Read an address at the front of a text: eight groups, or fewer around one
`::` that stands for at least one zero group. -/
def read (text : List Char) : Option (Ipv6 × List Char) := do
  let front := readGroups 8 true text
  if front.groups.length = 8 then
    return (← ofGroups? front.groups, front.rest)
  else if front.dotted then none
  else
    let rest ← (expect ':' front.rest).bind (expect ':')
    let back := readGroups (7 - front.groups.length) true rest
    let zeros := List.replicate (8 - front.groups.length - back.groups.length) 0
    return (← ofGroups? (front.groups ++ zeros ++ back.groups), back.rest)

end Ipv6

/-! ## Either family -/

namespace IpAddress

/-- The canonical form of an address. -/
def chars : IpAddress → List Char
  | .v4 address => address.chars
  | .v6 address => address.chars

/-- The canonical form of an address. -/
def text (address : IpAddress) : String := String.ofList address.chars

/-- The address that a whole text writes. -/
def parseChars? (text : List Char) : Option IpAddress :=
  match Ipv4.read text with
  | some (address, rest) => if rest.isEmpty then some (.v4 address) else none
  | none =>
      match Ipv6.read text with
      | some (address, rest) => if rest.isEmpty then some (.v6 address) else none
      | none => none

/-- The address that a whole text writes. -/
def parse? (text : String) : Option IpAddress := parseChars? text.toList

end IpAddress

/-! ## Endpoints -/

/-- A port: any padding, below 65536. -/
def portRule : NumeralRule where
  base := 10
  longest := none
  paddable := true
  bound := 65536

/-- A scope: any padding, below 2³². -/
def scopeRule : NumeralRule where
  base := 10
  longest := none
  paddable := true
  bound := 4294967296

/-- Read a colon and a port. -/
def readPort (text : List Char) : Option (UInt16 × List Char) := do
  let (port, rest) ← (expect ':' text).bind portRule.read
  return (.ofNat port, rest)

namespace Endpoint4

/-- An endpoint as `address:port`. -/
def chars (endpoint : Endpoint4) : List Char :=
  endpoint.address.chars ++ ':' :: decimal endpoint.port.toNat

/-- An endpoint as `address:port`. -/
def text (endpoint : Endpoint4) : String := String.ofList endpoint.chars

/-- Read an endpoint at the front of a text. -/
def read (text : List Char) : Option (Endpoint4 × List Char) := do
  let (address, rest) ← Ipv4.read text
  let (port, rest) ← readPort rest
  return (⟨address, port⟩, rest)

/-- The endpoint that a whole text writes. -/
def parse? (text : String) : Option Endpoint4 :=
  match read text.toList with
  | some (endpoint, []) => some endpoint
  | _ => none

end Endpoint4

namespace Endpoint6

/-- The scope after its percent sign, nothing for scope zero. -/
def scopeChars (endpoint : Endpoint6) : List Char :=
  if endpoint.scope = 0 then [] else '%' :: decimal endpoint.scope.toNat

/-- An endpoint as `[address%scope]:port`, the scope only when it is nonzero. -/
def chars (endpoint : Endpoint6) : List Char :=
  '[' :: endpoint.address.chars ++ endpoint.scopeChars ++
    ']' :: ':' :: decimal endpoint.port.toNat

/-- Read an optional scope; a percent sign without a scope is left standing. -/
def readScope (text : List Char) : UInt32 × List Char :=
  match (expect '%' text).bind scopeRule.read with
  | some (scope, rest) => (.ofNat scope, rest)
  | none => (0, text)

/-- Read an endpoint at the front of a text. -/
def read (text : List Char) : Option (Endpoint6 × List Char) := do
  let rest ← expect '[' text
  let (address, rest) ← Ipv6.read rest
  let (scope, rest) := readScope rest
  let rest ← expect ']' rest
  let (port, rest) ← readPort rest
  return (⟨address, scope, port⟩, rest)

end Endpoint6

namespace Endpoint

/-- The written form of an endpoint. -/
def chars : Endpoint → List Char
  | .v4 endpoint => endpoint.chars
  | .v6 endpoint => endpoint.chars

/-- The written form of an endpoint. -/
def text (endpoint : Endpoint) : String := String.ofList endpoint.chars

/-- The endpoint that a whole text writes. -/
def parseChars? (text : List Char) : Option Endpoint :=
  match Endpoint4.read text with
  | some (endpoint, rest) => if rest.isEmpty then some (.v4 endpoint) else none
  | none =>
      match Endpoint6.read text with
      | some (endpoint, rest) => if rest.isEmpty then some (.v6 endpoint) else none
      | none => none

/-- The endpoint that a whole text writes. -/
def parse? (text : String) : Option Endpoint := parseChars? text.toList

end Endpoint

end PortMapping
