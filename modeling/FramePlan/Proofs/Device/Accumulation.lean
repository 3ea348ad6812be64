import FramePlan.Device.RenderState
import FramePlan.Proofs.Lists

/-!
# Which operations count

The operations on a fragment are gone through in order, but what a draw is done with has one place for the
comparison of depths and one for blending and the written channels. Every operation for depth overwrites
all of the first, every operation for color all of the second, and stencil operations do nothing. So the
last operation of each kind settles its place whatever stands around it.

* `FragmentOperation.depth?`, `color?`: what an operation sets for depth and for color.
* `AccumulationState.depth_ofContext`, `color_ofContext`: the last operation of either kind counts.
* `AccumulationState.testBit_writeBits`: the written channels as bits.
* `last_operations_decide`: the state of a draw, and the changes to the operations that do not change it.
-/

namespace FramePlan

inductive OperationKind where
  | depth
  | stencil
  | color
deriving DecidableEq, Repr

namespace FragmentOperation

def kind : FragmentOperation → OperationKind
  | .depth _ _ => .depth
  | .stencil _ _ _ => .stencil
  | .color _ _ => .color

/-- The comparison of depths that an operation asks for, and whether depth is written. -/
def depth? : FragmentOperation → Option (ComparisonFunction × Bool)
  | .depth function write => some (function, write)
  | _ => none

/-- The blending that an operation asks for, and the channels that are written. -/
def color? : FragmentOperation → Option (Blending × Vector Bool 4)
  | .color blending mask => some (blending, mask)
  | _ => none

theorem isSome_depth?_iff {operation : FragmentOperation} :
    operation.depth?.isSome = true ↔ operation.kind = .depth := by
  cases operation <;> simp [depth?, kind]

theorem isSome_color?_iff {operation : FragmentOperation} :
    operation.color?.isSome = true ↔ operation.kind = .color := by
  cases operation <;> simp [color?, kind]

section Heard

variable {α : Type} {select : FragmentOperation → Option α} {selected : OperationKind}

/-- Where one kind of operation is selected, one that another of its kind follows is not selected last. -/
theorem getLast?_of_overtaken
    (hselected : ∀ {operation}, (select operation).isSome = true ↔ operation.kind = selected)
    {before later : List FragmentOperation} {operation : FragmentOperation}
    (hfollowed : ∃ other ∈ later, other.kind = operation.kind) :
    ((before ++ later).filterMap select).getLast? =
      ((before ++ operation :: later).filterMap select).getLast? := by
  apply getLast?_filterMap_erase
  cases hselect : select operation with
  | none => exact .inl rfl
  | some value =>
    obtain ⟨other, hmem, hkind⟩ := hfollowed
    have hown : operation.kind = selected := hselected.1 (by simp [hselect])
    exact .inr ⟨other, hmem, hselected.2 (hkind.trans hown)⟩

/-- Where one kind of operation is selected, neighbours of two kinds can change places. -/
theorem filterMap_of_exchange
    (hselected : ∀ {operation}, (select operation).isSome = true ↔ operation.kind = selected)
    {first second : FragmentOperation} (hkind : first.kind ≠ second.kind)
    (before later : List FragmentOperation) :
    (before ++ second :: first :: later).filterMap select =
      (before ++ first :: second :: later).filterMap select := by
  apply filterMap_exchange
  cases hfirst : select first with
  | none => exact .inl rfl
  | some value =>
    have hother : second.kind ≠ selected := by
      rw [← hselected.1 (by simp [hfirst] : (select first).isSome = true)]
      exact hkind.symm
    exact .inr (Option.not_isSome_iff_eq_none.1 fun hsecond => hother (hselected.1 hsecond))

/-- Where another kind of operation is selected, those of a kind can all be left out. -/
theorem filterMap_without
    (hselected : ∀ {operation}, (select operation).isSome = true ↔ operation.kind = selected)
    {kind : OperationKind} (hkind : kind ≠ selected) (operations : List FragmentOperation) :
    (operations.filter (·.kind ≠ kind)).filterMap select = operations.filterMap select := by
  rw [List.filterMap_filter]
  apply List.filterMap_congr
  intro operation _
  by_cases hother : operation.kind = kind
  · have hnone : select operation = none := by
      rw [← Option.not_isSome_iff_eq_none, hselected, hother]
      exact hkind
    simp [hother, hnone]
  · simp [hother]

end Heard

end FragmentOperation

theorem Blending.state?_eq_some_iff {blending : Blending} {blendable : Bool} {blend : BlendState} :
    blending.state? blendable = some blend ↔
      blendable = true ∧ blending = .blend blend.color blend.alpha := by
  obtain ⟨color, alpha⟩ := blend
  cases blending <;> cases blendable <;> simp [state?]

namespace AccumulationState

def depth (state : AccumulationState) : ComparisonFunction × Bool :=
  (state.depthCompare, state.depthWrite)

def color (state : AccumulationState) : Option BlendState × Vector Bool 4 :=
  (state.blend, state.writeMask)

theorem eq_of_depth_of_color {first second : AccumulationState}
    (hdepth : first.depth = second.depth) (hcolor : first.color = second.color) :
    first = second := by
  cases first
  cases second
  cases hdepth
  cases hcolor
  rfl

variable (blendable : Bool)

def colorOf? (operation : FragmentOperation) : Option (Option BlendState × Vector Bool 4) :=
  operation.color?.map fun asked => (asked.1.state? blendable, asked.2)

theorem depth_apply (state : AccumulationState) (operation : FragmentOperation) :
    some (apply blendable state operation).depth = operation.depth?.or (some state.depth) := by
  cases operation <;> rfl

theorem color_apply (state : AccumulationState) (operation : FragmentOperation) :
    some (apply blendable state operation).color =
      (colorOf? blendable operation).or (some state.color) := by
  cases operation <;> rfl

theorem depth_ofContext (context : AccumulationContext) :
    (ofContext blendable context).depth =
      (context.operations.filterMap FragmentOperation.depth?).getLast?.getD (.always, false) := by
  have hfold := foldl_eq_getLast? (fun state => some (depth state)) (apply blendable)
    (fun state operation (_ : operation ∈ context.operations) =>
      depth_apply blendable state operation) {}
  exact Option.some.inj (hfold.trans (Option.or_some ..))

theorem color_ofContext (context : AccumulationContext) :
    (ofContext blendable context).color =
      ((context.operations.filterMap FragmentOperation.color?).getLast?.map fun asked =>
        (asked.1.state? blendable, asked.2)).getD (none, #v[true, true, true, true]) := by
  have hfold := foldl_eq_getLast? (fun state => some (color state)) (apply blendable)
    (fun state operation (_ : operation ∈ context.operations) =>
      color_apply blendable state operation) {}
  have hselect : context.operations.filterMap (colorOf? blendable) =
      (context.operations.filterMap FragmentOperation.color?).map fun asked =>
        (asked.1.state? blendable, asked.2) := List.map_filterMap.symm
  rw [hselect, List.getLast?_map] at hfold
  exact Option.some.inj (hfold.trans (Option.or_some ..))

/-- Operations of which the same ones count make the same state. -/
theorem ofContext_congr {first second : List FragmentOperation}
    (hdepth : (first.filterMap FragmentOperation.depth?).getLast? =
      (second.filterMap FragmentOperation.depth?).getLast?)
    (hcolor : (first.filterMap FragmentOperation.color?).getLast? =
      (second.filterMap FragmentOperation.color?).getLast?) :
    ofContext blendable ⟨first⟩ = ofContext blendable ⟨second⟩ := by
  apply eq_of_depth_of_color
  · rw [depth_ofContext, depth_ofContext, hdepth]
  · rw [color_ofContext, color_ofContext, hcolor]

theorem testBit_writeBits (state : AccumulationState) (bit : Nat) :
    state.writeBits.testBit bit = state.writeMask[bit]?.getD false := by
  unfold writeBits
  generalize state.writeMask = mask
  obtain ⟨⟨channels⟩, hsize⟩ := mask
  match channels, hsize with
  | [red, green, blue, alpha], _ =>
    match bit with
    | 0 => revert red green blue alpha; decide
    | 1 => revert red green blue alpha; decide
    | 2 => revert red green blue alpha; decide
    | 3 => revert red green blue alpha; decide
    | bit + 4 =>
      rw [Vector.getElem?_eq_none (by omega), Option.getD_none]
      apply Nat.testBit_lt_two_pow
      have hpow : 2 ^ 4 ≤ 2 ^ (bit + 4) := Nat.pow_le_pow_right (by decide) (by omega)
      refine Nat.lt_of_lt_of_le ?_ hpow
      revert red green blue alpha
      decide

/-- Stencil operations can all be left out. -/
theorem ofContext_without_stencil (operations : List FragmentOperation) :
    ofContext blendable ⟨operations.filter (·.kind ≠ .stencil)⟩ =
      ofContext blendable ⟨operations⟩ := by
  apply ofContext_congr
  · rw [FragmentOperation.filterMap_without FragmentOperation.isSome_depth?_iff (by decide)]
  · rw [FragmentOperation.filterMap_without FragmentOperation.isSome_color?_iff (by decide)]

/-- An operation that another of its kind follows can be left out. -/
theorem ofContext_of_overtaken {before later : List FragmentOperation}
    {operation : FragmentOperation} (hfollowed : ∃ other ∈ later, other.kind = operation.kind) :
    ofContext blendable ⟨before ++ later⟩ = ofContext blendable ⟨before ++ operation :: later⟩ :=
  ofContext_congr blendable
    (FragmentOperation.getLast?_of_overtaken FragmentOperation.isSome_depth?_iff hfollowed)
    (FragmentOperation.getLast?_of_overtaken FragmentOperation.isSome_color?_iff hfollowed)

/-- Neighbours of two kinds can change places. -/
theorem ofContext_of_exchange {first second : FragmentOperation} (hkind : first.kind ≠ second.kind)
    (before later : List FragmentOperation) :
    ofContext blendable ⟨before ++ second :: first :: later⟩ =
      ofContext blendable ⟨before ++ first :: second :: later⟩ := by
  apply ofContext_congr
  · rw [FragmentOperation.filterMap_of_exchange FragmentOperation.isSome_depth?_iff hkind]
  · rw [FragmentOperation.filterMap_of_exchange FragmentOperation.isSome_color?_iff hkind]

end AccumulationState

open AccumulationState in
/-- The comparison of depths and the writing of depth are those of the last operation for depth; without
one every depth passes and none is written. Blending and the written channels are those of the last
operation for color; without one nothing is blended and all four channels are written. A target that
cannot be blended is written without blending, and so is every target if the operation turns blending
off. The state does not change where stencil operations are left out, where an operation is left out that
another of its kind follows, and where neighbours of two kinds change places. -/
theorem last_operations_decide (context : AccumulationContext) (blendable : Bool) :
    (((ofContext blendable context).depthCompare, (ofContext blendable context).depthWrite) =
      (context.operations.filterMap FragmentOperation.depth?).getLast?.getD (.always, false)) ∧
    (match (context.operations.filterMap FragmentOperation.color?).getLast? with
      | none => (ofContext blendable context).blend = none ∧
          (ofContext blendable context).writeBits = 15
      | some (blending, mask) =>
          (∀ blend, (ofContext blendable context).blend = some blend ↔
            blendable = true ∧ blending = .blend blend.color blend.alpha) ∧
          ∀ bit, (ofContext blendable context).writeBits.testBit bit = mask[bit]?.getD false) ∧
    ofContext blendable ⟨context.operations.filter (·.kind ≠ .stencil)⟩ =
      ofContext blendable context ∧
    (∀ before operation later, context.operations = before ++ operation :: later →
      (∃ other ∈ later, other.kind = operation.kind) →
      ofContext blendable ⟨before ++ later⟩ = ofContext blendable context) ∧
    ∀ before first second later, context.operations = before ++ first :: second :: later →
      first.kind ≠ second.kind →
      ofContext blendable ⟨before ++ second :: first :: later⟩ = ofContext blendable context := by
  obtain ⟨operations⟩ := context
  refine ⟨depth_ofContext blendable _, ?_, ofContext_without_stencil blendable operations, ?_, ?_⟩
  · have hcolor := color_ofContext blendable ⟨operations⟩
    dsimp only at hcolor ⊢
    cases hlast : (operations.filterMap FragmentOperation.color?).getLast? with
    | none =>
      rw [hlast] at hcolor
      obtain ⟨hblend, hmask⟩ := Prod.mk.inj hcolor
      refine ⟨hblend, ?_⟩
      rw [writeBits, hmask]
      rfl
    | some asked =>
      obtain ⟨blending, mask⟩ := asked
      rw [hlast] at hcolor
      obtain ⟨hblend, hmask⟩ := Prod.mk.inj hcolor
      refine ⟨fun blend => ?_, fun bit => ?_⟩
      · rw [hblend]
        exact Blending.state?_eq_some_iff
      · rw [testBit_writeBits, hmask]
  · rintro before operation later rfl hfollowed
    exact ofContext_of_overtaken blendable hfollowed
  · rintro before first second later rfl hkind
    exact ofContext_of_exchange blendable hkind before later

namespace Sample

/-- The color under a fragment shows through where the fragment is not opaque. -/
def translucent : BlendComponent := ⟨.funcAdd, .srcAlpha, .oneMinusSrcAlpha⟩

/-- Blending that a later operation turns off, between operations for depth and stencil. -/
def layeredOperations : List FragmentOperation :=
  [.color (.blend translucent translucent) (.replicate 4 true), .depth .less true,
    .stencil .equal 1 255, .color .noBlending #v[true, false, true, false], .depth .lequal false]

end Sample

open AccumulationState in
/-- The blending of the first operation is not left behind by the fourth, so the first one can be left
out; and the last two can change places. -/
theorem last_operations_decide_layered :
    ofContext true ⟨Sample.layeredOperations⟩ =
      { depthCompare := .lequal, writeMask := #v[true, false, true, false] } ∧
    (ofContext true ⟨Sample.layeredOperations⟩).writeBits.testBit 2 = true ∧
    ofContext true ⟨Sample.layeredOperations.tail⟩ = ofContext true ⟨Sample.layeredOperations⟩ ∧
    ofContext true ⟨Sample.layeredOperations.take 3 ++
        [.depth .lequal false, .color .noBlending #v[true, false, true, false]]⟩ =
      ofContext true ⟨Sample.layeredOperations⟩ := by
  obtain ⟨_, hcolor, _, hfollowed, hexchange⟩ :=
    last_operations_decide ⟨Sample.layeredOperations⟩ true
  refine ⟨rfl, hcolor.2 2, ?_, ?_⟩
  · have hlater : ∃ other ∈ Sample.layeredOperations.tail, other.kind = .color := by decide
    exact hfollowed [] _ _ rfl hlater
  · exact hexchange (Sample.layeredOperations.take 3) _ _ [] rfl (by decide)

end FramePlan
