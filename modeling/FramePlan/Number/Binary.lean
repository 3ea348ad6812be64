/-!
# Binary floating-point formats

A number of a binary format is a sign and a magnitude. The magnitude is the format's own bit
pattern read as a natural number, so it grows with the number it stands for, and rounding a ratio
needs no case for a carry into the next binade.

* `BinaryFormat.roundRatio` rounds a ratio to the nearest magnitude, a tie going to the even one.
* `BinaryFormat.scaled` is the exact value of a finite magnitude, in units of the least place.
-/

namespace FramePlan

/-- A binary interchange format: significand bits with the leading one, and exponent field width. -/
structure BinaryFormat where
  precision : Nat
  exponentBits : Nat
deriving DecidableEq, Repr

/-- The nearest natural number to `num / den`; a tie goes to the even neighbour. -/
def nearestEven (num den : Nat) : Nat :=
  let quotient := num / den
  let twice := 2 * (num % den)
  if twice < den then quotient
  else if den < twice then quotient + 1
  else quotient + quotient % 2

/-- The exponent of the largest power of two that is at most `num / den`. -/
def ratioLog2 (num den : Nat) : Int :=
  let estimate : Int := (num.log2 : Int) - den.log2
  if den <<< estimate.toNat ≤ num <<< (-estimate).toNat then estimate else estimate - 1

namespace BinaryFormat

/-- The 32-bit format. -/
def single : BinaryFormat := ⟨24, 8⟩

/-- The 64-bit format. -/
def double : BinaryFormat := ⟨53, 11⟩

/-- The weight of the leading significand bit, in units of the last place. -/
def hiddenBit (format : BinaryFormat) : Nat := 1 <<< (format.precision - 1)

/-- The least place of the format is two to this power. -/
def leastExponent (format : BinaryFormat) : Int :=
  3 - (1 <<< (format.exponentBits - 1) : Nat) - format.precision

/-- The magnitude of infinity; larger magnitudes are not numbers. -/
def infinity (format : BinaryFormat) : Nat :=
  (1 <<< format.exponentBits - 1) * format.hiddenBit

/-- The magnitude of the quiet not-a-number. -/
def quietNaN (format : BinaryFormat) : Nat :=
  format.infinity + format.hiddenBit / 2

/-- The magnitude nearest to `num / den`, infinity from half a place above the largest number on. -/
def roundRatio (format : BinaryFormat) (num den : Nat) : Nat :=
  if num = 0 then 0
  else
    let exponent := max (ratioLog2 num den - (format.precision - 1)) format.leastExponent
    let significand := nearestEven (num <<< (-exponent).toNat) (den <<< exponent.toNat)
    min (significand + (exponent - format.leastExponent).toNat * format.hiddenBit) format.infinity

/-- The value of a finite magnitude as a multiple of the format's least place. -/
def scaled (format : BinaryFormat) (magnitude : Nat) : Nat :=
  let field := magnitude / format.hiddenBit
  let fraction := magnitude % format.hiddenBit
  if field = 0 then fraction else (format.hiddenBit + fraction) <<< (field - 1)

/-- The number of least places in one. -/
def unit (format : BinaryFormat) : Nat := 1 <<< (-format.leastExponent).toNat

theorem roundRatio_le_infinity (format : BinaryFormat) (num den : Nat) :
    format.roundRatio num den ≤ format.infinity := by
  unfold roundRatio
  split
  · exact Nat.zero_le _
  · exact Nat.min_le_right _ _

end BinaryFormat

end FramePlan
