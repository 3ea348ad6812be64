import FramePlan.Number.Binary

/-!
# Single-precision numbers

A single is its 32 bits, so equality separates `0.0` from `-0.0` and compares the payloads of NaNs.
Arithmetic decodes to exact integers, computes there, and rounds once.
-/

namespace FramePlan

/-- A 32-bit binary floating-point number, held as its bits. -/
structure Single where
  bits : UInt32
deriving DecidableEq, Inhabited, Repr

namespace Single

def ofParts (negative : Bool) (magnitude : Nat) : Single :=
  ⟨(magnitude + if negative then 0x80000000 else 0).toUInt32⟩

def zero : Single := ⟨0⟩
def one : Single := ⟨0x3f800000⟩
def nan : Single := ⟨0x7fc00000⟩

def isNegative (x : Single) : Bool := 0x80000000 ≤ x.bits.toNat

/-- All bits but the sign. -/
def magnitude (x : Single) : Nat := x.bits.toNat % 0x80000000

def isNaN (x : Single) : Bool := BinaryFormat.single.infinity < x.magnitude

def isFinite (x : Single) : Bool := x.magnitude < BinaryFormat.single.infinity

/-- The position of a number that is not a NaN on the line; both zeros are at zero. -/
def rank (x : Single) : Int := if x.isNegative then -(x.magnitude : Int) else x.magnitude

/-- The comparison of numbers; a NaN is below nothing. -/
def lt (x y : Single) : Bool := !x.isNaN && !y.isNaN && x.rank < y.rank

/-- The comparison of numbers; a NaN is at most nothing. -/
def le (x y : Single) : Bool := !x.isNaN && !y.isNaN && x.rank ≤ y.rank

/-- The number without its sign. -/
def abs (x : Single) : Single := ofParts false x.magnitude

/-- The exact value of a finite number, in least places. -/
def scaled (x : Single) : Int :=
  let size : Int := BinaryFormat.single.scaled x.magnitude
  if x.isNegative then -size else size

/-- The difference, rounded once. Infinities of one sign have none, and a zero difference is
negative only for `-0.0 - 0.0`. -/
def sub (x y : Single) : Single :=
  if x.isNaN || y.isNaN then nan
  else if !x.isFinite then
    if !y.isFinite && x.isNegative == y.isNegative then nan else x
  else if !y.isFinite then ofParts (!y.isNegative) BinaryFormat.single.infinity
  else
    let difference := x.scaled - y.scaled
    if difference = 0 then
      ofParts (x.magnitude = 0 && y.magnitude = 0 && x.isNegative && !y.isNegative) 0
    else
      ofParts (difference < 0)
        (BinaryFormat.single.roundRatio difference.natAbs BinaryFormat.single.unit)

/-- The larger number; a NaN gives way to the other operand. -/
def max (x y : Single) : Single :=
  if x.isNaN then y else if y.isNaN then x else if x.lt y then y else x

/-- The number moved into `[low, high]`; a NaN stays a NaN. -/
def clamp (x low high : Single) : Single :=
  if x.lt low then low else if high.lt x then high else x

/-- The nearest single to an integer. -/
def ofInt (n : Int) : Single :=
  ofParts (n < 0) (BinaryFormat.single.roundRatio n.natAbs 1)

/-- The integer part, moved into the range of 32-bit integers; a NaN gives zero. -/
def toInt32 (x : Single) : Int32 :=
  if x.isNaN then 0
  else
    let whole : Int :=
      if x.isFinite then ((BinaryFormat.single.scaled x.magnitude / BinaryFormat.single.unit : Nat) : Int)
      else 0x80000000
    let value := if x.isNegative then -whole else whole
    Int32.ofInt (Min.min (Max.max value (-0x80000000)) 0x7fffffff)

end Single

end FramePlan
