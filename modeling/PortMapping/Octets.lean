/-!
# Octet strings

Datagrams and routing messages are lists of octets.  Numbers inside them occupy
two or four octets, most significant first on the wire and least significant
first in routing messages.  Splitting and joining go through natural-number
arithmetic, so each pair of functions is inverse by linear arithmetic.
-/

namespace PortMapping

/-- A finite string of octets. -/
abbrev Octets := List UInt8

namespace Octets

/-- The number written by two octets, most significant first. -/
def join16 (high low : UInt8) : UInt16 :=
  UInt16.ofNat (high.toNat * 256 + low.toNat)

/-- The number written by four octets, most significant first. -/
def join32 (first second third fourth : UInt8) : UInt32 :=
  UInt32.ofNat
    (((first.toNat * 256 + second.toNat) * 256 + third.toNat) * 256 + fourth.toNat)

/-- Two octets writing a number, most significant first. -/
def ofUInt16 (value : UInt16) : Octets :=
  [UInt8.ofNat (value.toNat / 256), UInt8.ofNat value.toNat]

/-- Four octets writing a number, most significant first. -/
def ofUInt32 (value : UInt32) : Octets :=
  [UInt8.ofNat (value.toNat / 16777216), UInt8.ofNat (value.toNat / 65536),
   UInt8.ofNat (value.toNat / 256), UInt8.ofNat value.toNat]

/-- The octet at a position, zero past the end. -/
def at8 (octets : Octets) (position : Nat) : UInt8 :=
  octets.getD position 0

/-- The wire number in the two octets from a position on. -/
def at16 (octets : Octets) (position : Nat) : UInt16 :=
  join16 (octets.at8 position) (octets.at8 (position + 1))

/-- The wire number in the four octets from a position on. -/
def at32 (octets : Octets) (position : Nat) : UInt32 :=
  join32 (octets.at8 position) (octets.at8 (position + 1))
    (octets.at8 (position + 2)) (octets.at8 (position + 3))

/-- The number in the two octets from a position on, least significant first. -/
def little16 (octets : Octets) (position : Nat) : Nat :=
  (octets.at8 position).toNat + 256 * (octets.at8 (position + 1)).toNat

/-- The number in the four octets from a position on, least significant first. -/
def little32 (octets : Octets) (position : Nat) : Nat :=
  octets.little16 position + 65536 * octets.little16 (position + 2)

@[simp] theorem length_ofUInt16 (value : UInt16) : (ofUInt16 value).length = 2 := rfl

@[simp] theorem length_ofUInt32 (value : UInt32) : (ofUInt32 value).length = 4 := rfl

/-- Joining the two octets of a number gives the number back. -/
theorem join16_split (value : UInt16) :
    join16 (UInt8.ofNat (value.toNat / 256)) (UInt8.ofNat value.toNat) = value := by
  apply UInt16.toNat_inj.mp
  have bound := value.toNat_lt
  simp only [join16, UInt16.toNat_ofNat', UInt8.toNat_ofNat']
  omega

/-- Splitting a joined number gives its two octets back. -/
theorem ofUInt16_join16 (high low : UInt8) : ofUInt16 (join16 high low) = [high, low] := by
  have highBound := high.toNat_lt
  have lowBound := low.toNat_lt
  simp only [ofUInt16, List.cons.injEq, and_true]
  constructor <;> apply UInt8.toNat_inj.mp <;>
    simp only [join16, UInt16.toNat_ofNat', UInt8.toNat_ofNat'] <;> omega

/-- Joining the four octets of a number gives the number back. -/
theorem join32_split (value : UInt32) :
    join32 (UInt8.ofNat (value.toNat / 16777216)) (UInt8.ofNat (value.toNat / 65536))
      (UInt8.ofNat (value.toNat / 256)) (UInt8.ofNat value.toNat) = value := by
  apply UInt32.toNat_inj.mp
  have bound := value.toNat_lt
  simp only [join32, UInt32.toNat_ofNat', UInt8.toNat_ofNat']
  omega

/-- Splitting a joined number gives its four octets back. -/
theorem ofUInt32_join32 (first second third fourth : UInt8) :
    ofUInt32 (join32 first second third fourth) = [first, second, third, fourth] := by
  have firstBound := first.toNat_lt
  have secondBound := second.toNat_lt
  have thirdBound := third.toNat_lt
  have fourthBound := fourth.toNat_lt
  simp only [ofUInt32, List.cons.injEq, and_true]
  refine ⟨?_, ?_, ?_, ?_⟩ <;> apply UInt8.toNat_inj.mp <;>
    simp only [join32, UInt32.toNat_ofNat', UInt8.toNat_ofNat'] <;> omega

end Octets

end PortMapping
