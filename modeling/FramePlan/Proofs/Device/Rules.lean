import FramePlan.Proofs.Device.Drawing

/-!
# What is relied on of the rules for draws

The rules for draws decide when a draw that has been put together is refused. They stand for those of a
device that is not described here, so what is proved about draws only takes two laws from them.

* `DrawCall.LawfulRules`: the laws.
* `DrawCall.rejection?_withArea`: a part of the target breaks no rule that the whole does not break.
-/

namespace FramePlan.DrawCall

/-- A draw that is mapped to another part of the target. -/
def withArea (area : Viewport) (call : DrawCall) : DrawCall := { call with area }

/-- What is relied on of rules for draws, whatever else they ask for. -/
class LawfulRules (rejection? : DrawCall → Option Rejection) : Prop where
  /-- A draw that is refused for filtering has a texture that cannot be filtered and a sampler that
  filters. -/
  exists_of_filtering : ∀ {call : DrawCall}, rejection? call = some .filtering →
    ∃ textureSlot samplerSlot image,
      call.resources.get? textureSlot = some (.texture image (.float false)) ∧
      call.resources.get? samplerSlot = some (.sampler .filtering)
  /-- A draw to a part of the target is refused for nothing but what it is refused for where more is
  drawn. -/
  withArea : ∀ {call : DrawCall} {part whole : Viewport},
    ((call.withArea part).isDrawn = true → (call.withArea whole).isDrawn = true) →
      ∀ {rejection : Rejection}, rejection? (call.withArea part) = some rejection →
        rejection? (call.withArea whole) = some rejection

theorem exists_of_rejection?_eq_filtering {call : DrawCall}
    (hrejection : call.rejection? = some .filtering) :
    ∃ textureSlot samplerSlot image,
      call.resources.get? textureSlot = some (.texture image (.float false)) ∧
      call.resources.get? samplerSlot = some (.sampler .filtering) := by
  obtain ⟨⟨rejection, isKept⟩, hfound, rfl⟩ := Option.map_eq_some_iff.1 hrejection
  have hmem := List.mem_of_find?_eq_some hfound
  have hbroken := List.find?_some hfound
  have hrule : (call.demands.all fun demand =>
      !demand.samplings.any call.filtersUnfilterable) = false := by
    simp only [rules, List.mem_cons, Prod.mk.injEq, reduceCtorEq, false_and, true_and, false_or,
      or_false, List.not_mem_nil] at hmem
    rw [← hmem]
    simpa using hbroken
  obtain ⟨demand, _, hdemand⟩ := List.all_eq_false.1 hrule
  have hsamplings : demand.samplings.any call.filtersUnfilterable = true := by simpa using hdemand
  obtain ⟨⟨textureSlot, samplerSlot⟩, _, hfilters⟩ := List.any_eq_true.1 hsamplings
  unfold filtersUnfilterable at hfilters
  split at hfilters
  · next htexture hsampler => exact ⟨textureSlot, samplerSlot, _, htexture, hsampler⟩
  · cases hfilters

/-- The rules that only count where anything is drawn. -/
def drawnRules (call : DrawCall) (isDrawn : Bool) : List (Rejection × Bool) :=
  [(.uniformSize, !isDrawn || call.demands.all fun demand =>
      demand.resources.all call.holdsUniform),
    (.streamLength, !isDrawn || call.streams.all fun (_, stream) =>
      isLongEnough call.vertexCount stream)]

/-- No other rule depends on the part of the target. -/
theorem exists_rules_withArea (call : DrawCall) : ∃ standing, ∀ area,
    (call.withArea area).rules = standing ++ call.drawnRules (call.withArea area).isDrawn :=
  ⟨call.rules.dropLast.dropLast, fun _ => rfl⟩

theorem rejection?_withArea {call : DrawCall} {part whole : Viewport}
    (hdrawn : (call.withArea part).isDrawn = true → (call.withArea whole).isDrawn = true)
    {rejection : Rejection} (hrejection : (call.withArea part).rejection? = some rejection) :
    (call.withArea whole).rejection? = some rejection := by
  obtain ⟨standing, hrules⟩ := exists_rules_withArea call
  rw [rejection?, hrules] at hrejection ⊢
  cases hpart : (call.withArea part).isDrawn with
  | true =>
    rw [hdrawn hpart]
    rwa [hpart] at hrejection
  | false =>
    obtain ⟨rule, hfound, hrule⟩ := Option.map_eq_some_iff.1 hrejection
    rw [hpart, List.find?_append] at hfound
    rw [List.find?_append]
    rcases Option.or_eq_some_iff.1 hfound with hstanding | ⟨_, hdrawnRule⟩
    · rw [hstanding]
      exact congrArg some hrule
    · cases hdrawnRule

instance : LawfulRules rejection? where
  exists_of_filtering := exists_of_rejection?_eq_filtering
  withArea := rejection?_withArea

end FramePlan.DrawCall
