import FramePlan.Picture.Comparison
import FramePlan.Proofs.Number.Order

/-!
# The verdict of a comparison

A comparison asks of every difference whether it is above the tolerance. For numbers this is the opposite
of being within the tolerance, but a NaN is neither: a channel that is no number in one of the pictures is
never found to differ, whatever the other picture has there. Apart from these the verdict is right, and the
greatest difference is one that the pictures have.

* `Picture.ArePaired`: the values of two pictures at one place.
* `Picture.exists_mem_differences_iff`: the differences of two pictures are those of paired values.
* `comparison_finds_differences`: the verdict in terms of paired values.
* `comparison_passes_nan`: a picture without numbers is found to be the same as a black one.
-/

namespace FramePlan

namespace Picture

/-- Two values that two pictures have in a channel of one pixel. -/
def ArePaired (rendered reference : Picture) (channel : Fin 4) (value wanted : Single) : Prop :=
  ∃ (place : Nat) (pixel other : Pixel), rendered.pixels[place]? = some pixel ∧
    reference.pixels[place]? = some other ∧ pixel.get channel = value ∧ other.get channel = wanted

/-- How far a rendered value, moved into the unit interval, is from the expected one. -/
def deviation (value wanted : Single) : Single := ((value.clamp .zero .one).sub wanted).abs

theorem isNaN_deviation (value wanted : Single) :
    (deviation value wanted).isNaN = (value.isNaN || wanted.isNaN) := by
  rw [deviation, Single.isNaN_abs, Single.isNaN_sub_clamp]

/-- For a difference that is a number, being above the tolerance is being outside of it. -/
theorem lt_deviation_iff {value wanted tolerance : Single} (htolerance : tolerance.isNaN = false) :
    tolerance.lt (deviation value wanted) = true ↔
      value.isNaN = false ∧ wanted.isNaN = false ∧
        (deviation value wanted).le tolerance = false := by
  have hnumber := isNaN_deviation value wanted
  constructor
  · intro hlt
    obtain ⟨_, hdeviation, _⟩ := Single.lt_iff.1 hlt
    rw [Single.lt_eq_not_le htolerance hdeviation, Bool.not_eq_true'] at hlt
    rw [hdeviation] at hnumber
    obtain ⟨hvalue, hwanted⟩ := Bool.or_eq_false_iff.1 hnumber.symm
    exact ⟨hvalue, hwanted, hlt⟩
  · rintro ⟨hvalue, hwanted, hle⟩
    rw [hvalue, hwanted] at hnumber
    rw [Single.lt_eq_not_le htolerance hnumber, hle]
    rfl

theorem get_difference (rendered reference : Pixel) (channel : Fin 4) :
    (difference rendered reference).get channel =
      deviation (rendered.get channel) (reference.get channel) :=
  Vector.getElem_zipWith channel.isLt

variable {rendered reference : Picture} {tolerance : Single}

theorem mem_differences {pixel : Pixel} :
    pixel ∈ differences rendered reference ↔ ∃ (place : Nat) (first second : Pixel),
      rendered.pixels[place]? = some first ∧ reference.pixels[place]? = some second ∧
        difference first second = pixel := by
  simp only [differences, List.mem_iff_getElem?, List.getElem?_zipWith_eq_some]

/-- The differences in a channel are those of the values that are paired in it. -/
theorem exists_mem_differences_iff (channel : Fin 4) (holds : Single → Prop) :
    (∃ pixel ∈ differences rendered reference, holds (pixel.get channel)) ↔
      ∃ value wanted, ArePaired rendered reference channel value wanted ∧
        holds (deviation value wanted) := by
  constructor
  · rintro ⟨pixel, hmem, hholds⟩
    obtain ⟨place, first, second, hfirst, hsecond, rfl⟩ := mem_differences.1 hmem
    rw [get_difference] at hholds
    exact ⟨_, _, ⟨place, first, second, hfirst, hsecond, rfl, rfl⟩, hholds⟩
  · rintro ⟨_, _, ⟨place, first, second, hfirst, hsecond, rfl, rfl⟩, hholds⟩
    rw [← get_difference] at hholds
    exact ⟨_, mem_differences.2 ⟨place, first, second, hfirst, hsecond, rfl⟩, hholds⟩

/-- A channel matches unless the difference of two paired values is above the tolerance. -/
theorem matched_eq_false_iff {channel : Fin 4} :
    (matched tolerance (differences rendered reference)).get channel = false ↔
      ∃ value wanted, ArePaired rendered reference channel value wanted ∧
        tolerance.lt (deviation value wanted) = true := by
  have hget : (matched tolerance (differences rendered reference)).get channel =
      (differences rendered reference).all fun pixel => !tolerance.lt (pixel.get channel) :=
    Vector.getElem_ofFn channel.isLt
  rw [hget, List.all_eq_false, ← exists_mem_differences_iff channel fun found =>
    tolerance.lt found = true]
  simp only [Bool.not_eq_true', Bool.not_eq_false]

theorem mem_flatMap_differences {value : Single} :
    value ∈ (differences rendered reference).flatMap Vector.toList ↔
      ∃ channel found wanted, ArePaired rendered reference channel found wanted ∧
        deviation found wanted = value := by
  have hchannel : value ∈ (differences rendered reference).flatMap Vector.toList ↔
      ∃ channel : Fin 4, ∃ pixel ∈ differences rendered reference, pixel.get channel = value := by
    simp only [List.mem_flatMap, Vector.mem_toList_iff, Vector.mem_iff_getElem]
    constructor
    · rintro ⟨pixel, hmem, index, hindex, hvalue⟩
      exact ⟨⟨index, hindex⟩, pixel, hmem, hvalue⟩
    · rintro ⟨channel, pixel, hmem, hvalue⟩
      exact ⟨pixel, hmem, channel.val, channel.isLt, hvalue⟩
  rw [hchannel]
  exact exists_congr fun channel => exists_mem_differences_iff channel (· = value)

/-- The greatest difference is above the tolerance if any is, and then it is one of them. -/
theorem greatest_of_lt {channel : Fin 4} {value wanted : Single}
    (hpaired : ArePaired rendered reference channel value wanted)
    (hlt : tolerance.lt (deviation value wanted) = true) :
    tolerance.lt (greatest (differences rendered reference)) = true ∧
      ∃ channel value wanted, ArePaired rendered reference channel value wanted ∧
        deviation value wanted = greatest (differences rendered reference) := by
  have hmem := mem_flatMap_differences.2 ⟨channel, value, wanted, hpaired, rfl⟩
  have hnumber := (Single.lt_iff.1 hlt).2.1
  have hle : (deviation value wanted).le (greatest (differences rendered reference)) = true :=
    Single.le_foldl_max (by decide) hmem hnumber
  refine ⟨Single.lt_of_lt_of_le hlt hle, ?_⟩
  have hfound := @Single.foldl_max_mem .zero (by decide)
    ((differences rendered reference).flatMap Vector.toList)
  change greatest (differences rendered reference) = .zero ∨ _ at hfound
  rcases hfound with hzero | hfound
  -- Nothing gets past zero only if the difference above the tolerance is zero itself.
  · have hrank := (Single.le_iff.1 hle).2.2
    rw [hzero] at hrank
    have hlow : 0 ≤ (deviation value wanted).rank := Single.rank_abs_nonneg _
    exact ⟨channel, value, wanted, hpaired,
      (Single.abs_eq_zero (Int.le_antisymm hrank hlow)).trans hzero.symm⟩
  · exact mem_flatMap_differences.1 hfound

theorem le_greatest {channel : Fin 4} {value wanted : Single}
    (hpaired : ArePaired rendered reference channel value wanted)
    (hnumber : (deviation value wanted).isNaN = false) :
    (deviation value wanted).le (greatest (differences rendered reference)) = true :=
  Single.le_foldl_max (by decide) (mem_flatMap_differences.2 ⟨channel, value, wanted, hpaired, rfl⟩)
    hnumber

/-- Two numbers are paired in a channel whose difference is outside of the tolerance. -/
def Differ (rendered reference : Picture) (tolerance : Single) (channel : Fin 4) : Prop :=
  ∃ value wanted, ArePaired rendered reference channel value wanted ∧
    value.isNaN = false ∧ wanted.isNaN = false ∧ (deviation value wanted).le tolerance = false

theorem matched_eq_false_iff_differ (htolerance : tolerance.isNaN = false) {channel : Fin 4} :
    (matched tolerance (differences rendered reference)).get channel = false ↔
      Differ rendered reference tolerance channel := by
  simp only [matched_eq_false_iff, lt_deviation_iff htolerance, Differ]

/-- All flags are set if none is missing. -/
theorem all_eq_true_iff_get {flags : Vector Bool 4} :
    flags.all id = true ↔ ∀ channel : Fin 4, flags.get channel ≠ false := by
  rw [Vector.all_eq_true]
  simp only [id, Bool.not_eq_false]
  exact ⟨fun hall channel => hall channel channel.isLt, fun hall index hlt => hall ⟨index, hlt⟩⟩

theorem compare_of_size_eq
    (hsize : (rendered.width, rendered.height) = (reference.width, reference.height)) :
    compare rendered reference tolerance =
      if (matched tolerance (differences rendered reference)).all id then .same
      else .pixels (matched tolerance (differences rendered reference))
        (greatest (differences rendered reference)) :=
  if_neg (Decidable.not_not.2 hsize)

theorem compare_of_size_ne
    (hsize : (rendered.width, rendered.height) ≠ (reference.width, reference.height)) :
    compare rendered reference tolerance =
      .sizes (rendered.width, rendered.height) (reference.width, reference.height) :=
  if_pos hsize

theorem compare_eq_same_iff (htolerance : tolerance.isNaN = false) :
    compare rendered reference tolerance = .same ↔
      (rendered.width, rendered.height) = (reference.width, reference.height) ∧
        ∀ channel, ¬Differ rendered reference tolerance channel := by
  have hall : (matched tolerance (differences rendered reference)).all id = true ↔
      ∀ channel, ¬Differ rendered reference tolerance channel := by
    rw [all_eq_true_iff_get]
    exact forall_congr' fun channel => not_congr (matched_eq_false_iff_differ htolerance)
  rw [← hall]
  by_cases hsize : (rendered.width, rendered.height) = (reference.width, reference.height)
  · rw [compare_of_size_eq hsize]
    cases (matched tolerance (differences rendered reference)).all id <;> simp [hsize]
  · simp [compare_of_size_ne hsize, hsize]

end Picture

/-- Two pictures of one size are found to be the same unless two paired numbers have a difference outside of
the tolerance. If some do, their channels are marked, and the greatest difference of all paired numbers is
given, which is above the tolerance. -/
theorem comparison_finds_differences (rendered reference : Picture) {tolerance : Single}
    (htolerance : tolerance.isNaN = false) :
    (rendered.compare reference tolerance = .same ↔
      (rendered.width, rendered.height) = (reference.width, reference.height) ∧
        ∀ channel, ¬rendered.Differ reference tolerance channel) ∧
    ((rendered.width, rendered.height) = (reference.width, reference.height) →
      rendered.compare reference tolerance ≠ .same →
        ∃ matched greatest, rendered.compare reference tolerance = .pixels matched greatest ∧
          (∀ channel, matched.get channel = false ↔ rendered.Differ reference tolerance channel) ∧
          tolerance.lt greatest = true ∧
          (∃ channel value wanted, rendered.ArePaired reference channel value wanted ∧
            Picture.deviation value wanted = greatest) ∧
          ∀ channel value wanted, rendered.ArePaired reference channel value wanted →
            value.isNaN = false → wanted.isNaN = false →
              (Picture.deviation value wanted).le greatest = true) ∧
    ((rendered.width, rendered.height) ≠ (reference.width, reference.height) →
      rendered.compare reference tolerance =
        .sizes (rendered.width, rendered.height) (reference.width, reference.height)) := by
  have hsame := @Picture.compare_eq_same_iff rendered reference tolerance htolerance
  refine ⟨hsame, fun hsize hnot => ?_, Picture.compare_of_size_ne⟩
  have hverdict := @Picture.compare_of_size_eq rendered reference tolerance hsize
  -- The verdict is not that they are the same, so some values differ, and those make the greatest difference.
  have hdiffer : ∃ channel, rendered.Differ reference tolerance channel := by
    refine Classical.byContradiction fun hnone => ?_
    exact hnot (hsame.2 ⟨hsize, not_exists.1 hnone⟩)
  obtain ⟨channel, value, wanted, hpaired, hvalue, hwanted, hle⟩ := hdiffer
  have hlt := (Picture.lt_deviation_iff htolerance).2 ⟨hvalue, hwanted, hle⟩
  obtain ⟨habove, hattained⟩ := Picture.greatest_of_lt hpaired hlt
  rw [if_neg fun hall => hnot (hverdict.trans (if_pos hall))] at hverdict
  refine ⟨_, _, hverdict, fun _ => Picture.matched_eq_false_iff_differ htolerance, habove, hattained, ?_⟩
  intro channel value wanted hpaired hvalue hwanted
  refine Picture.le_greatest hpaired ?_
  rw [Picture.isNaN_deviation, hvalue, hwanted]
  rfl

def Picture.ofPixel (pixel : Pixel) : Picture := ⟨1, 1, [pixel], rfl⟩

/-- Red of this pixel is no number, and of the others only green differs from black. -/
theorem comparison_finds_differences_green :
    Single.isNaN ⟨0x3f000000⟩ = false ∧
    (Picture.ofPixel #v[.nan, .one, .zero, .one]).compare
      (.ofPixel #v[.zero, .zero, .zero, .one]) ⟨0x3f000000⟩ = .pixels #v[true, false, true, true] .one ∧
    ∀ channel, #v[true, false, true, true].get channel = false ↔
      (Picture.ofPixel #v[.nan, .one, .zero, .one]).Differ
        (.ofPixel #v[.zero, .zero, .zero, .one]) ⟨0x3f000000⟩ channel := by
  have htolerance : Single.isNaN ⟨0x3f000000⟩ = false := by decide
  have hverdict : (Picture.ofPixel #v[.nan, .one, .zero, .one]).compare
      (.ofPixel #v[.zero, .zero, .zero, .one]) ⟨0x3f000000⟩ =
        .pixels #v[true, false, true, true] .one := by decide +kernel
  obtain ⟨_, hpixels, _⟩ := comparison_finds_differences (.ofPixel #v[.nan, .one, .zero, .one])
    (.ofPixel #v[.zero, .zero, .zero, .one]) htolerance
  obtain ⟨matched, greatest, hfound, hmarks, _⟩ := hpixels rfl (by decide +kernel)
  obtain ⟨rfl, rfl⟩ := Comparison.pixels.inj (hfound.symm.trans hverdict)
  exact ⟨htolerance, hverdict, hmarks⟩

/-- A difference that is no number is not within the tolerance, and its channel is not marked for it. A
picture without any number is found to be the same as a black one. -/
theorem comparison_passes_nan :
    (∃ value wanted, (Picture.ofPixel #v[.nan, .one, .zero, .one]).ArePaired
        (.ofPixel #v[.zero, .zero, .zero, .one]) 0 value wanted ∧
      (Picture.deviation value wanted).le ⟨0x3f000000⟩ = false) ∧
    (Picture.ofPixel #v[.nan, .one, .zero, .one]).compare
      (.ofPixel #v[.zero, .zero, .zero, .one]) ⟨0x3f000000⟩ = .pixels #v[true, false, true, true] .one ∧
    (∀ channel, ∃ value wanted, (Picture.ofPixel (.replicate 4 .nan)).ArePaired
        (.ofPixel (.replicate 4 .zero)) channel value wanted ∧
      (Picture.deviation value wanted).le ⟨0x3f000000⟩ = false) ∧
    (Picture.ofPixel (.replicate 4 .nan)).compare (.ofPixel (.replicate 4 .zero)) ⟨0x3f000000⟩ = .same := by
  refine ⟨⟨.nan, .zero, ⟨0, _, _, rfl, rfl, rfl, rfl⟩, by decide +kernel⟩, by decide +kernel, ?_,
    by decide +kernel⟩
  intro channel
  refine ⟨.nan, .zero, ⟨0, _, _, rfl, rfl, ?_, ?_⟩, by decide +kernel⟩
  · exact Vector.getElem_replicate channel.isLt
  · exact Vector.getElem_replicate channel.isLt

end FramePlan
