import FramePlan.Number.Single

/-!
# Double-precision numbers

Doubles occur between the text of a number and the single it becomes. As for singles, a double is
its bits, and arithmetic on magnitudes is exact integer arithmetic rounded once.
-/

namespace FramePlan

/-- A 64-bit binary floating-point number, held as its bits. -/
structure Double where
  bits : UInt64
deriving DecidableEq, Inhabited, Repr

namespace Double

def ofParts (negative : Bool) (magnitude : Nat) : Double :=
  ⟨(magnitude + if negative then 0x8000000000000000 else 0).toUInt64⟩

def isNegative (x : Double) : Bool := 0x8000000000000000 ≤ x.bits.toNat

/-- All bits but the sign. -/
def magnitude (x : Double) : Nat := x.bits.toNat % 0x8000000000000000

/-- The double nearest to `±num / den`. -/
def ofRatio (negative : Bool) (num den : Nat) : Double :=
  ofParts negative (BinaryFormat.double.roundRatio num den)

/-- The nearest single; a NaN stays a NaN with its sign and the leading bits of its payload. -/
def toSingle (x : Double) : Single :=
  let format := BinaryFormat.double
  if format.infinity < x.magnitude then
    Single.ofParts x.isNegative
      (BinaryFormat.single.quietNaN ||| (x.magnitude % format.hiddenBit) >>> 29)
  else if x.magnitude = format.infinity then
    Single.ofParts x.isNegative BinaryFormat.single.infinity
  else
    Single.ofParts x.isNegative
      (BinaryFormat.single.roundRatio (format.scaled x.magnitude) format.unit)

def ofSingle (x : Single) : Double :=
  let format := BinaryFormat.single
  if format.infinity < x.magnitude then ofParts x.isNegative BinaryFormat.double.quietNaN
  else if x.magnitude = format.infinity then ofParts x.isNegative BinaryFormat.double.infinity
  else ofRatio x.isNegative (format.scaled x.magnitude) format.unit

end Double

end FramePlan
