import FramePlan.Number.Single

/-!
# The order of singles

Numbers are compared by their rank, and a NaN is neither above nor at most anything. So "above" is the
opposite of "at most" for numbers only. A greater number gives way to nothing, a NaN to everything: the
greatest of some singles is a number if one of them is, or the start.

* `Single.lt_eq_not_le`: when one comparison is the opposite of the other.
* `Single.isNaN_sub_clamp`: a difference to a number of the unit interval is a NaN only if its operands are.
* `Single.foldl_max_mem`, `Single.le_foldl_max`: the greatest of a list is one of it, and none is greater.
-/

namespace FramePlan.Single

theorem infinity_eq : BinaryFormat.single.infinity = 0x7f800000 := by decide

/-! ## Parts -/

theorem magnitude_ofParts (negative : Bool) {magnitude : Nat} (hlt : magnitude < 0x80000000) :
    (ofParts negative magnitude).magnitude = magnitude := by
  cases negative <;> simp [ofParts, Single.magnitude] <;> omega

theorem isNegative_ofParts (negative : Bool) {magnitude : Nat} (hlt : magnitude < 0x80000000) :
    (ofParts negative magnitude).isNegative = negative := by
  cases negative <;> simp [ofParts, isNegative] <;> omega

theorem isNaN_ofParts (negative : Bool) {magnitude : Nat} (hle : magnitude ≤ 0x7f800000) :
    (ofParts negative magnitude).isNaN = false := by
  rw [isNaN, magnitude_ofParts negative (by omega), infinity_eq, decide_eq_false_iff_not]
  omega

theorem magnitude_abs (x : Single) : x.abs.magnitude = x.magnitude :=
  magnitude_ofParts false (Nat.mod_lt _ (by decide))

theorem isNaN_abs (x : Single) : x.abs.isNaN = x.isNaN := by
  rw [isNaN, isNaN, magnitude_abs]

theorem rank_abs_nonneg (x : Single) : 0 ≤ x.abs.rank := by
  have hsign : x.abs.isNegative = false := isNegative_ofParts false (Nat.mod_lt _ (by decide))
  rw [rank, hsign]
  exact Int.natCast_nonneg _

/-- A number without a sign is zero if it has the rank of zero. -/
theorem abs_eq_zero {x : Single} (hrank : x.abs.rank = 0) : x.abs = .zero := by
  have hsign : x.abs.isNegative = false := isNegative_ofParts false (Nat.mod_lt _ (by decide))
  rw [rank, hsign, magnitude_abs] at hrank
  have hmagnitude : x.magnitude = 0 := by simpa using hrank
  rw [abs, hmagnitude]
  rfl

/-! ## Comparisons -/

theorem lt_iff {x y : Single} :
    x.lt y = true ↔ x.isNaN = false ∧ y.isNaN = false ∧ x.rank < y.rank := by
  simp [lt, and_assoc]

theorem le_iff {x y : Single} :
    x.le y = true ↔ x.isNaN = false ∧ y.isNaN = false ∧ x.rank ≤ y.rank := by
  simp [le, and_assoc]

/-- For numbers, "above" is the opposite of "at most". -/
theorem lt_eq_not_le {x y : Single} (hx : x.isNaN = false) (hy : y.isNaN = false) :
    x.lt y = !y.le x := by
  rw [lt, le, hx, hy]
  simp only [Bool.not_false, Bool.true_and, ← decide_not, Int.not_le]

theorem le_refl {x : Single} (hx : x.isNaN = false) : x.le x = true :=
  le_iff.2 ⟨hx, hx, Int.le_refl _⟩

theorem le_trans {x y z : Single} (hfirst : x.le y = true) (hsecond : y.le z = true) :
    x.le z = true := by
  rw [le_iff] at hfirst hsecond ⊢
  exact ⟨hfirst.1, hsecond.2.1, Int.le_trans hfirst.2.2 hsecond.2.2⟩

theorem lt_of_lt_of_le {x y z : Single} (hlt : x.lt y = true) (hle : y.le z = true) :
    x.lt z = true := by
  rw [lt_iff] at hlt ⊢
  rw [le_iff] at hle
  exact ⟨hlt.1, hle.2.1, Int.lt_of_lt_of_le hlt.2.2 hle.2.2⟩

/-! ## Differences -/

/-- What is moved into the unit interval is finite, unless it is a NaN. -/
theorem isFinite_clamp {x : Single} (hx : x.isNaN = false) :
    (x.clamp .zero .one).isFinite = true := by
  unfold clamp
  split
  · decide
  · next hlow =>
    split
    · decide
    · next hhigh =>
      rw [Bool.not_eq_true, ← Bool.not_eq_true, lt_iff] at hlow hhigh
      have hbelow : ¬x.rank < Single.zero.rank := fun h => hlow ⟨hx, by decide, h⟩
      have habove : ¬Single.one.rank < x.rank := fun h => hhigh ⟨by decide, hx, h⟩
      have hzero : Single.zero.rank = 0 := by decide
      have hone : Single.one.rank = 0x3f800000 := by decide
      rw [hzero] at hbelow
      rw [hone] at habove
      rw [isFinite, infinity_eq, decide_eq_true_eq]
      unfold rank at hbelow habove
      split at hbelow
      · omega
      · next hsign =>
        rw [if_neg hsign] at habove
        omega

theorem clamp_of_isNaN {x : Single} (hx : x.isNaN = true) (low high : Single) :
    x.clamp low high = x := by
  simp [clamp, lt, hx]

/-- A finite number has a difference to every number. -/
theorem isNaN_sub_of_isFinite {x y : Single} (hx : x.isFinite = true) (hy : y.isNaN = false) :
    (x.sub y).isNaN = false := by
  have hnumber : x.isNaN = false := by
    rw [isFinite, decide_eq_true_eq] at hx
    rw [isNaN, decide_eq_false_iff_not]
    omega
  have hround (num den : Nat) : BinaryFormat.single.roundRatio num den ≤ 0x7f800000 := by
    rw [← infinity_eq]
    exact BinaryFormat.roundRatio_le_infinity _ num den
  unfold sub
  simp only [hnumber, hy, hx, Bool.or_self, Bool.false_eq_true, if_false, Bool.not_true]
  split
  · exact isNaN_ofParts _ (Nat.le_of_eq infinity_eq)
  · split
    · exact isNaN_ofParts _ (by decide)
    · exact isNaN_ofParts _ (hround _ _)

/-- A difference to a number of the unit interval is a NaN only if one of the operands is. -/
theorem isNaN_sub_clamp (x y : Single) :
    ((x.clamp .zero .one).sub y).isNaN = (x.isNaN || y.isNaN) := by
  cases hx : x.isNaN with
  | true =>
    rw [clamp_of_isNaN hx, sub, hx]
    rfl
  | false =>
    cases hy : y.isNaN with
    | true =>
      rw [sub, hy, Bool.or_true, if_pos rfl]
      rfl
    | false => exact isNaN_sub_of_isFinite (isFinite_clamp hx) hy

/-! ## The greatest -/

/-- A number gives way to a greater one only. -/
theorem max_cases {x : Single} (hx : x.isNaN = false) (y : Single) :
    max x y = x ∧ (y.isNaN = true ∨ y.le x = true) ∨ max x y = y ∧ x.lt y = true := by
  unfold max
  rw [hx, if_neg Bool.false_ne_true]
  cases hy : y.isNaN with
  | true => exact .inl ⟨rfl, .inl rfl⟩
  | false =>
    rw [if_neg Bool.false_ne_true]
    cases hlt : x.lt y with
    | true => exact .inr ⟨rfl, rfl⟩
    | false =>
      rw [lt_eq_not_le hx hy, Bool.not_eq_false'] at hlt
      exact .inl ⟨rfl, .inr hlt⟩

theorem isNaN_max {x : Single} (hx : x.isNaN = false) (y : Single) :
    (max x y).isNaN = false := by
  rcases max_cases hx y with ⟨heq, _⟩ | ⟨heq, hlt⟩
  · rw [heq, hx]
  · rw [heq]
    exact (lt_iff.1 hlt).2.1

theorem le_max_left {x : Single} (hx : x.isNaN = false) (y : Single) :
    x.le (max x y) = true := by
  rcases max_cases hx y with ⟨heq, _⟩ | ⟨heq, hlt⟩
  · rw [heq]
    exact le_refl hx
  · rw [heq]
    obtain ⟨_, hy, hrank⟩ := lt_iff.1 hlt
    exact le_iff.2 ⟨hx, hy, Int.le_of_lt hrank⟩

theorem le_max_right {x : Single} (hx : x.isNaN = false) {y : Single} (hy : y.isNaN = false) :
    y.le (max x y) = true := by
  rcases max_cases hx y with ⟨heq, hnan | hle⟩ | ⟨heq, _⟩
  · rw [hy] at hnan
    cases hnan
  · rw [heq]
    exact hle
  · rw [heq]
    exact le_refl hy

theorem isNaN_foldl_max {start : Single} (hstart : start.isNaN = false) (values : List Single) :
    (values.foldl max start).isNaN = false :=
  List.foldlRecOn (motive := fun found : Single => found.isNaN = false) values max hstart
    fun _ hfound value _ => isNaN_max hfound value

theorem start_le_foldl_max {start : Single} (hstart : start.isNaN = false)
    (values : List Single) : start.le (values.foldl max start) = true :=
  List.foldlRecOn (motive := fun found : Single => start.le found = true) values max
    (le_refl hstart) fun _ hle value _ => le_trans hle (le_max_left (le_iff.1 hle).2.1 value)

/-- No number in a list is above its greatest. -/
theorem le_foldl_max {start : Single} (hstart : start.isNaN = false) {values : List Single}
    {value : Single} (hmem : value ∈ values) (hvalue : value.isNaN = false) :
    value.le (values.foldl max start) = true := by
  obtain ⟨before, after, rfl⟩ := List.append_of_mem hmem
  have hbefore := isNaN_foldl_max hstart before
  rw [List.foldl_append, List.foldl_cons]
  exact le_trans (le_max_right hbefore hvalue)
    (start_le_foldl_max (isNaN_max hbefore value) after)

/-- The greatest is one of the list, or the start. -/
theorem foldl_max_mem {start : Single} (hstart : start.isNaN = false) (values : List Single) :
    values.foldl max start = start ∨ values.foldl max start ∈ values := by
  induction values generalizing start with
  | nil => exact .inl rfl
  | cons value rest ih =>
    rw [List.foldl_cons]
    rcases ih (isNaN_max hstart value) with heq | hmem
    · rcases max_cases hstart value with ⟨hmax, _⟩ | ⟨hmax, _⟩
      · exact .inl (heq.trans hmax)
      · rw [heq, hmax]
        exact .inr List.mem_cons_self
    · exact .inr (.tail _ hmem)

end FramePlan.Single
