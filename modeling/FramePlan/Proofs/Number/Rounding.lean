import FramePlan.Number.Double
import Mathlib.Algebra.Order.Field.Power
import Mathlib.Data.Rat.Cast.Order
import Mathlib.Tactic.FieldSimp
import Mathlib.Tactic.Linarith
import Mathlib.Tactic.Positivity
import Mathlib.Tactic.Ring

/-!
# Numbers that are not rounded

A ratio that a format has a number for is rounded to that number. So a single that is written as a double
comes back bit for bit, zeros with their signs, and so does one that is written as an integer.

* `BinaryFormat.roundRatio_eq`: the magnitude of a ratio that needs no rounding.
* `Double.toSingle_ofSingle`: a finite single as a double.
* `Single.ofInt_eq`: a finite single as an integer.
-/

namespace FramePlan

/-! ## Powers of two -/

/-- Shifting both sides of a ratio against each other scales it by a power of two. -/
theorem shift_ratio (num den : Nat) (exponent : Int) :
    ((num <<< (-exponent).toNat : Nat) : ℚ) / (den <<< exponent.toNat : Nat) =
      num / den * 2 ^ (-exponent) := by
  rw [Nat.shiftLeft_eq, Nat.shiftLeft_eq]
  push_cast
  rcases le_total 0 exponent with hsign | hsign
  · obtain ⟨n, rfl⟩ := Int.eq_ofNat_of_zero_le hsign
    simp only [Int.toNat_natCast, Int.toNat_neg_natCast, zpow_neg, zpow_natCast, pow_zero, mul_one]
    field_simp
  · obtain ⟨n, hn⟩ := Int.eq_ofNat_of_zero_le (neg_nonneg.2 hsign)
    obtain rfl : exponent = -n := by omega
    simp only [neg_neg, Int.toNat_natCast, Int.toNat_neg_natCast, zpow_natCast, pow_zero, mul_one]
    ring

theorem shift_le_shift_iff {num den : Nat} (hden : den ≠ 0) (exponent : Int) :
    den <<< exponent.toNat ≤ num <<< (-exponent).toNat ↔ (2 : ℚ) ^ exponent ≤ num / den := by
  have hpositive : (0 : ℚ) < (den <<< exponent.toNat : Nat) := by
    rw [Nat.shiftLeft_eq]
    positivity
  have hscaled := shift_ratio num den exponent
  rw [← Nat.cast_le (α := ℚ), ← one_le_div hpositive, hscaled, zpow_neg,
    ← div_eq_mul_inv, one_le_div (by positivity)]

/-- The exponent of the largest power of two that a ratio reaches. -/
theorem ratioLog2_eq {num den : Nat} (hden : den ≠ 0) {exponent : Int}
    (hlow : (2 : ℚ) ^ exponent ≤ num / den) (hhigh : (num : ℚ) / den < 2 ^ (exponent + 1)) :
    ratioLog2 num den = exponent := by
  have hratio : (0 : ℚ) < num / den := lt_of_lt_of_le (by positivity) hlow
  have hnum : num ≠ 0 := by
    rintro rfl
    simp at hratio
  -- the logarithms of both sides leave two exponents to choose from
  have hnumLow : (2 : ℚ) ^ (num.log2 : Int) ≤ num := by exact_mod_cast Nat.log2_self_le hnum
  have hnumHigh : (num : ℚ) < 2 ^ ((num.log2 : Int) + 1) := by exact_mod_cast Nat.lt_log2_self
  have hdenLow : (2 : ℚ) ^ (den.log2 : Int) ≤ den := by exact_mod_cast Nat.log2_self_le hden
  have hdenHigh : (den : ℚ) < 2 ^ ((den.log2 : Int) + 1) := by exact_mod_cast Nat.lt_log2_self
  have hdenPositive : (0 : ℚ) < den := by positivity
  have habove : (num : ℚ) / den < 2 ^ ((num.log2 : Int) - den.log2 + 1) := by
    calc (num : ℚ) / den < 2 ^ ((num.log2 : Int) + 1) / 2 ^ (den.log2 : Int) := by
          exact div_lt_div₀ hnumHigh hdenLow (by positivity) (by positivity)
      _ = 2 ^ ((num.log2 : Int) - den.log2 + 1) := by
          rw [← zpow_sub₀ (by norm_num)]
          congr 1
          ring
  have hbelow : (2 : ℚ) ^ ((num.log2 : Int) - den.log2 - 1) ≤ num / den := by
    calc (2 : ℚ) ^ ((num.log2 : Int) - den.log2 - 1)
        = 2 ^ (num.log2 : Int) / 2 ^ ((den.log2 : Int) + 1) := by
          rw [← zpow_sub₀ (by norm_num)]
          congr 1
          ring
      _ ≤ num / den := div_le_div₀ (by positivity) hnumLow hdenPositive hdenHigh.le
  have hfirst : exponent < (num.log2 : Int) - den.log2 + 1 :=
    (zpow_lt_zpow_iff_right₀ (by norm_num : (1 : ℚ) < 2)).1 (hlow.trans_lt habove)
  have hlast : (num.log2 : Int) - den.log2 - 1 < exponent + 1 :=
    (zpow_lt_zpow_iff_right₀ (by norm_num : (1 : ℚ) < 2)).1 (hbelow.trans_lt hhigh)
  unfold ratioLog2
  by_cases hreached : (2 : ℚ) ^ ((num.log2 : Int) - den.log2) ≤ num / den
  · have hle : (num.log2 : Int) - den.log2 < exponent + 1 :=
      (zpow_lt_zpow_iff_right₀ (by norm_num : (1 : ℚ) < 2)).1 (hreached.trans_lt hhigh)
    rw [if_pos ((shift_le_shift_iff hden _).2 hreached)]
    omega
  · have hlt : exponent < (num.log2 : Int) - den.log2 :=
      (zpow_lt_zpow_iff_right₀ (by norm_num : (1 : ℚ) < 2)).1 (hlow.trans_lt (not_le.1 hreached))
    rw [if_neg (mt (shift_le_shift_iff hden _).1 hreached)]
    omega

/-- A ratio that is a natural number is nearest to it. -/
theorem nearestEven_eq {num den result : Nat} (hden : den ≠ 0)
    (hvalue : (num : ℚ) / den = result) : nearestEven num den = result := by
  have hproduct : num = result * den := by
    rw [div_eq_iff (by exact_mod_cast hden)] at hvalue
    exact_mod_cast hvalue
  have hpositive : 0 < den := Nat.pos_of_ne_zero hden
  simp [nearestEven, hproduct, hpositive]

namespace BinaryFormat

variable {format : BinaryFormat}

theorem hiddenBit_eq (format : BinaryFormat) : format.hiddenBit = 2 ^ (format.precision - 1) := by
  rw [hiddenBit, Nat.shiftLeft_eq, one_mul]

theorem hiddenBit_pos (format : BinaryFormat) : 0 < format.hiddenBit := by
  rw [hiddenBit_eq]
  positivity

/-- A magnitude is a significand and a shift. Only without a shift may the significand be short. -/
theorem exists_parts (format : BinaryFormat) (magnitude : Nat) :
    ∃ significand shift, magnitude = significand + shift * format.hiddenBit ∧
      format.scaled magnitude = significand * 2 ^ shift ∧
      significand < 2 * format.hiddenBit ∧ (shift = 0 ∨ format.hiddenBit ≤ significand) := by
  have hpositive := format.hiddenBit_pos
  have hfraction := Nat.mod_lt magnitude hpositive
  have hdivision := Nat.div_add_mod magnitude format.hiddenBit
  unfold scaled
  by_cases hfield : magnitude / format.hiddenBit = 0
  · refine ⟨magnitude % format.hiddenBit, 0, ?_, by simp [hfield], by omega, .inl rfl⟩
    rw [hfield] at hdivision
    omega
  · refine ⟨format.hiddenBit + magnitude % format.hiddenBit, magnitude / format.hiddenBit - 1, ?_,
      by simp [hfield, Nat.shiftLeft_eq], by omega, .inr (by omega)⟩
    obtain ⟨field, hsucc⟩ := Nat.exists_eq_succ_of_ne_zero hfield
    rw [hsucc] at hdivision ⊢
    rw [Nat.succ_sub_one]
    rw [Nat.mul_succ, Nat.mul_comm] at hdivision
    omega

/-- The magnitude of a significand and a shift stands for what these stand for. -/
theorem scaled_add_mul {significand shift : Nat} (hlong : significand < 2 * format.hiddenBit)
    (hshort : shift = 0 ∨ format.hiddenBit ≤ significand) :
    format.scaled (significand + shift * format.hiddenBit) = significand * 2 ^ shift := by
  have hpositive := format.hiddenBit_pos
  unfold scaled
  rw [Nat.add_mul_div_right _ _ hpositive, Nat.add_mul_mod_self_right]
  by_cases hreached : format.hiddenBit ≤ significand
  · have hone : significand / format.hiddenBit = 1 := by
      rw [Nat.div_eq_iff hpositive]
      omega
    have hrest : significand % format.hiddenBit = significand - format.hiddenBit := by
      rw [Nat.mod_eq_sub_mod hreached, Nat.mod_eq_of_lt (by omega)]
    rw [hone, hrest, if_neg (by omega), Nat.shiftLeft_eq, Nat.add_sub_cancel_left,
      Nat.add_sub_cancel' hreached]
  · obtain rfl : shift = 0 := hshort.resolve_right hreached
    rw [Nat.div_eq_of_lt (by omega), Nat.mod_eq_of_lt (by omega)]
    simp

/-- A ratio that a format has a number for is rounded to that number. -/
theorem roundRatio_eq {magnitude num den : Nat} (hprecision : 1 ≤ format.precision)
    (hfinite : magnitude < format.infinity) (hden : den ≠ 0)
    (hvalue : (num : ℚ) / den = format.scaled magnitude * 2 ^ format.leastExponent) :
    format.roundRatio num den = magnitude := by
  obtain ⟨significand, shift, hmagnitude, hscaled, hlong, hshort⟩ := format.exists_parts magnitude
  have hparts : (num : ℚ) / den = significand * 2 ^ (shift + format.leastExponent : Int) := by
    rw [hvalue, hscaled, zpow_add₀ (by norm_num)]
    push_cast
    rw [zpow_natCast]
    ring
  unfold roundRatio
  by_cases hzero : num = 0
  · have hnone : significand = 0 := by
      rw [hzero, Nat.cast_zero, zero_div, eq_comm, mul_eq_zero] at hparts
      exact_mod_cast hparts.resolve_right (by positivity)
    have hhidden := format.hiddenBit_pos
    rw [if_pos hzero, hmagnitude, hnone]
    obtain rfl : shift = 0 := hshort.resolve_right (by omega)
    simp
  · have hsignificand : significand ≠ 0 := by
      rintro rfl
      rw [Nat.cast_zero, zero_mul, div_eq_zero_iff, Nat.cast_eq_zero, Nat.cast_eq_zero] at hparts
      exact hparts.elim hzero hden
    have hlog : ratioLog2 num den = significand.log2 + (shift + format.leastExponent) := by
      apply ratioLog2_eq hden
      · rw [hparts, zpow_add₀ (by norm_num)]
        gcongr
        exact_mod_cast Nat.log2_self_le hsignificand
      · rw [hparts, add_right_comm, zpow_add₀ (by norm_num) (_ + 1)]
        gcongr
        exact_mod_cast Nat.lt_log2_self
    have hexponent : max (ratioLog2 num den - (format.precision - 1)) format.leastExponent =
        shift + format.leastExponent := by
      rw [hlog]
      by_cases hreached : format.hiddenBit ≤ significand
      · have hlog2 : significand.log2 = format.precision - 1 := by
          rw [hiddenBit_eq] at hreached hlong
          exact (Nat.log2_eq_iff hsignificand).2 ⟨hreached, by rw [pow_succ]; omega⟩
        omega
      · have hlog2 : significand.log2 < format.precision - 1 := by
          rw [hiddenBit_eq] at hreached
          exact (Nat.log2_lt hsignificand).2 (not_le.1 hreached)
        obtain rfl : shift = 0 := hshort.resolve_right hreached
        omega
    have hnearest : nearestEven (num <<< (-(shift + format.leastExponent : Int)).toNat)
        (den <<< (shift + format.leastExponent : Int).toNat) = significand := by
      apply nearestEven_eq
      · rw [Nat.shiftLeft_eq]
        positivity
      · rw [shift_ratio, hparts, mul_assoc, ← zpow_add₀ (by norm_num)]
        simp
    have hshift : (shift + format.leastExponent - format.leastExponent : Int).toNat = shift := by
      omega
    simp only [if_neg hzero, hexponent, hnearest, hshift]
    rw [← hmagnitude]
    exact Nat.min_eq_left hfinite.le

/-- The number of least places in one, as a power of two. -/
theorem unit_eq (hleast : format.leastExponent ≤ 0) :
    (format.unit : ℚ) = (2 ^ format.leastExponent)⁻¹ := by
  rw [unit, Nat.shiftLeft_eq, one_mul, Nat.cast_pow, Nat.cast_ofNat, ← zpow_natCast,
    Int.toNat_of_nonneg (by omega), zpow_neg]

/-- Every significand that is not too long has a number at every exponent of a format. -/
theorem exists_scaled_eq {significand shift : Nat} (hlong : significand < 2 * format.hiddenBit)
    (hroom : format.precision - 1 ≤ shift) (hfinite : shift + 2 < 2 ^ format.exponentBits) :
    ∃ magnitude < format.infinity, format.scaled magnitude = significand * 2 ^ shift := by
  have hpositive := format.hiddenBit_pos
  have hinfinity : format.infinity = (2 ^ format.exponentBits - 1) * format.hiddenBit := by
    rw [infinity, Nat.shiftLeft_eq, one_mul]
  by_cases hzero : significand = 0
  · refine ⟨0, ?_, by simp [hzero, scaled]⟩
    rw [hinfinity]
    exact Nat.mul_pos (by omega) hpositive
  · -- the significand is moved up until its leading bit is the hidden one
    have hlog : significand.log2 < format.precision - 1 + 1 := by
      rw [hiddenBit_eq, mul_comm, ← pow_succ] at hlong
      exact (Nat.log2_lt hzero).2 hlong
    obtain ⟨up, hup⟩ := Nat.exists_eq_add_of_le (Nat.le_of_lt_succ hlog)
    have hlow : format.hiddenBit ≤ significand * 2 ^ up := by
      rw [hiddenBit_eq, hup, pow_add]
      exact Nat.mul_le_mul_right _ (Nat.log2_self_le hzero)
    have hhigh : significand * 2 ^ up < 2 * format.hiddenBit := by
      rw [hiddenBit_eq, hup, pow_add, ← mul_assoc, mul_comm 2, ← pow_succ]
      exact Nat.mul_lt_mul_of_pos_right Nat.lt_log2_self (by positivity)
    have hshift : up ≤ shift := by omega
    refine ⟨significand * 2 ^ up + (shift - up) * format.hiddenBit, ?_, ?_⟩
    · calc significand * 2 ^ up + (shift - up) * format.hiddenBit
          < 2 * format.hiddenBit + (shift - up) * format.hiddenBit := by omega
        _ = (2 + (shift - up)) * format.hiddenBit := by ring
        _ ≤ format.infinity := by
            rw [hinfinity]
            exact Nat.mul_le_mul_right _ (by omega)
    · rw [scaled_add_mul hhigh (.inr hlow), mul_assoc, ← pow_add, Nat.add_sub_cancel' hshift]

end BinaryFormat

/-! ## Singles as doubles -/

/-- The least place of a double is 925 binary places below the least place of a single. -/
theorem leastExponent_double :
    BinaryFormat.double.leastExponent = BinaryFormat.single.leastExponent - (925 : Nat) := by
  decide

theorem Single.magnitude_lt {x : Single} (hfinite : x.isFinite = true) :
    x.magnitude < BinaryFormat.single.infinity := of_decide_eq_true hfinite

namespace Double

theorem magnitude_ofParts (negative : Bool) {magnitude : Nat} (hlt : magnitude < 0x8000000000000000) :
    (ofParts negative magnitude).magnitude = magnitude := by
  cases negative <;> simp [ofParts, Double.magnitude] <;> omega

theorem isNegative_ofParts (negative : Bool) {magnitude : Nat} (hlt : magnitude < 0x8000000000000000) :
    (ofParts negative magnitude).isNegative = negative := by
  cases negative <;> simp [ofParts, isNegative] <;> omega

/-- A finite single is a double, with its sign, and with as many of the smaller places as make it up. -/
theorem ofSingle_parts {x : Single} (hfinite : x.isFinite = true) :
    (ofSingle x).isNegative = x.isNegative ∧
      (ofSingle x).magnitude < BinaryFormat.double.infinity ∧
      BinaryFormat.double.scaled (ofSingle x).magnitude =
        BinaryFormat.single.scaled x.magnitude * 2 ^ 925 := by
  have hlt := Single.magnitude_lt hfinite
  obtain ⟨significand, shift, hmagnitude, hscaled, hlong, hshort⟩ :=
    BinaryFormat.single.exists_parts x.magnitude
  have hsmall : BinaryFormat.single.infinity = 255 * 0x800000 := by decide
  have hplace : BinaryFormat.single.hiddenBit = 0x800000 := by decide
  have hlarge : BinaryFormat.double.hiddenBit = 0x10000000000000 := by decide
  have hbound : shift < 256 := by
    rw [hmagnitude, hsmall, hplace] at hlt
    omega
  obtain ⟨magnitude, hreached, hvalue⟩ : ∃ magnitude < BinaryFormat.double.infinity,
      BinaryFormat.double.scaled magnitude = significand * 2 ^ (shift + 925) := by
    apply BinaryFormat.exists_scaled_eq
    · omega
    · simp [BinaryFormat.double]
    · simp [BinaryFormat.double]
      omega
  have hround : BinaryFormat.double.roundRatio (BinaryFormat.single.scaled x.magnitude)
      BinaryFormat.single.unit = magnitude := by
    apply BinaryFormat.roundRatio_eq (by decide) hreached (by decide)
    rw [hvalue, hscaled, BinaryFormat.unit_eq (by decide), leastExponent_double,
      zpow_sub₀ (by norm_num), zpow_natCast, pow_add, Nat.cast_mul, Nat.cast_mul, Nat.cast_mul,
      Nat.cast_pow, Nat.cast_pow, Nat.cast_ofNat]
    field_simp
  have hsign : magnitude < 0x8000000000000000 := by
    have hinfinity : BinaryFormat.double.infinity = 0x7ff0000000000000 := by decide
    omega
  have hsame : ofSingle x = ofParts x.isNegative magnitude := by
    have hnumber : ¬ BinaryFormat.single.infinity < x.magnitude := by omega
    have hfinite : ¬ x.magnitude = BinaryFormat.single.infinity := by omega
    simp only [ofSingle, if_neg hnumber, if_neg hfinite, ofRatio, hround]
  rw [hsame, isNegative_ofParts _ hsign, magnitude_ofParts _ hsign]
  refine ⟨rfl, hreached, ?_⟩
  rw [hvalue, hscaled, mul_assoc, ← pow_add]

end Double

namespace Single

theorem ofParts_magnitude (x : Single) : ofParts x.isNegative x.magnitude = x := by
  obtain ⟨bits⟩ := x
  have hlt := bits.toNat_lt
  rw [ofParts, Single.mk.injEq, ← UInt32.toNat_inj]
  simp only [isNegative, magnitude, decide_eq_true_eq, Nat.toUInt32_eq, UInt32.toNat_ofNat']
  split <;> omega

end Single

theorem Double.toSingle_ofSingle {x : Single} (hfinite : x.isFinite = true) :
    (Double.ofSingle x).toSingle = x := by
  obtain ⟨hsign, hreached, hscaled⟩ := Double.ofSingle_parts hfinite
  have hlt := Single.magnitude_lt hfinite
  have hround : BinaryFormat.single.roundRatio
      (BinaryFormat.double.scaled (Double.ofSingle x).magnitude) BinaryFormat.double.unit =
        x.magnitude := by
    apply BinaryFormat.roundRatio_eq (by decide) hlt (by decide)
    rw [hscaled, BinaryFormat.unit_eq (by decide), leastExponent_double, zpow_sub₀ (by norm_num),
      zpow_natCast, Nat.cast_mul, Nat.cast_pow, Nat.cast_ofNat]
    field_simp
  have hnumber : ¬ BinaryFormat.double.infinity < (ofSingle x).magnitude := by omega
  have hnone : ¬ (ofSingle x).magnitude = BinaryFormat.double.infinity := by omega
  simp only [toSingle, if_neg hnumber, if_neg hnone, hround, hsign, Single.ofParts_magnitude]

/-- The double is an integer; a negative zero is none. -/
def Double.IsInteger (x : Double) (n : Int) : Prop :=
  x.isNegative = decide (n < 0) ∧
    BinaryFormat.double.scaled x.magnitude = n.natAbs * BinaryFormat.double.unit

/-- A finite single that is an integer comes back from it. -/
theorem Single.ofInt_eq {x : Single} (hfinite : x.isFinite = true) {n : Int}
    (hinteger : (Double.ofSingle x).IsInteger n) : Single.ofInt n = x := by
  obtain ⟨hsign, _, hscaled⟩ := Double.ofSingle_parts hfinite
  obtain ⟨hnegative, hvalue⟩ := hinteger
  have hlt := Single.magnitude_lt hfinite
  have hround : BinaryFormat.single.roundRatio n.natAbs 1 = x.magnitude := by
    apply BinaryFormat.roundRatio_eq (by decide) hlt (by decide)
    have hplaces : (BinaryFormat.single.scaled x.magnitude * 2 ^ 925 : ℚ) =
        n.natAbs * (2 ^ BinaryFormat.double.leastExponent)⁻¹ := by
      rw [← BinaryFormat.unit_eq (by decide), ← Nat.cast_mul, ← hvalue, hscaled, Nat.cast_mul,
        Nat.cast_pow, Nat.cast_ofNat]
    rw [leastExponent_double, zpow_sub₀ (by norm_num), zpow_natCast] at hplaces
    rw [Nat.cast_one, div_one]
    field_simp at hplaces ⊢
    exact hplaces.symm
  rw [ofInt, hround, ← hnegative, hsign, ofParts_magnitude]

end FramePlan
