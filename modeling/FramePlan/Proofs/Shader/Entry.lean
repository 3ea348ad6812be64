import FramePlan.Shader.Interface
import Mathlib.Data.List.Basic

/-!
# Entry points of valid modules

A source is valid only if each of its entry points keeps the rules of its stage, and this is checked
once, when the function is settled. Later declarations only add to the module, so the check holds for
every entry point that a stage can start at.

* `Module.hasSoundEntries_of_ofSource?`: every entry point of a valid source has passed the check.
* `CompiledStage.isSound_entry`: so has the one at which a stage starts.
* `Module.pairwise_location?_of_isSound`: inputs that pass the check arrive at different locations.
* `LawfulReader`: all that later proofs take from the reading of sources.
-/

namespace FramePlan.Shader

namespace Module

/-- Every entry point kept the rules of its stage when it was settled. -/
def HasSoundEntries (module : Module) : Prop :=
  ∀ entry ∈ module.entryPoints, ∃ settled : Module, settled.isSound entry = true

/-- Settling a declaration adds at most one entry point, and one that keeps the rules of its stage. -/
theorem entryPoints_of_settle? {module next : Module} {declaration : Declaration}
    (hsome : module.settle? declaration = some next) :
    next.entryPoints = module.entryPoints ∨
      ∃ entry, module.isSound entry = true ∧ next.entryPoints = module.entryPoints ++ [entry] := by
  unfold settle? at hsome
  dsimp only at hsome
  split at hsome
  · cases hsome
  · obtain ⟨⟨slot, _⟩, _, hsome⟩ := Option.bind_eq_some_iff.1 hsome
    dsimp only at hsome
    -- only functions start stages
    split at hsome
    · obtain ⟨_, _, hsome⟩ := Option.bind_eq_some_iff.1 hsome
      cases hsome
      exact .inl rfl
    · obtain ⟨_, _, hsome⟩ := Option.bind_eq_some_iff.1 hsome
      split at hsome
      · cases hsome
      · cases hsome
        exact .inl rfl
    · obtain ⟨_, _, hsome⟩ := Option.bind_eq_some_iff.1 hsome
      cases hsome
      exact .inl rfl
    · obtain ⟨_, _, hsome⟩ := Option.bind_eq_some_iff.1 hsome
      cases hsome
      exact .inl rfl
    · obtain ⟨_, _, hsome⟩ := Option.bind_eq_some_iff.1 hsome
      cases hsome
      exact .inl rfl
    · obtain ⟨⟨⟨parameters, given, stage⟩, effects⟩, _, hsome⟩ := Option.bind_eq_some_iff.1 hsome
      cases stage with
      | none =>
        cases hsome
        exact .inl rfl
      | some stage =>
        obtain ⟨inputs, _, hsome⟩ := Option.bind_eq_some_iff.1 hsome
        have hchecked {entry : EntryPoint} (hadded : (if module.isSound entry then
            some { module with entryPoints := module.entryPoints ++ [entry] } else none) =
              some next) :
            next.entryPoints = module.entryPoints ∨ ∃ entry, module.isSound entry = true ∧
              next.entryPoints = module.entryPoints ++ [entry] := by
          split at hadded
          · next hsound =>
            cases hadded
            exact .inr ⟨entry, hsound, rfl⟩
          · cases hadded
        cases given with
        | none => exact hchecked hsome
        | some result =>
          obtain ⟨outputs, _, hsome⟩ := Option.bind_eq_some_iff.1 hsome
          exact hchecked hsome

theorem HasSoundEntries.of_settle? {module next : Module} {declaration : Declaration}
    (hmodule : module.HasSoundEntries) (hsome : module.settle? declaration = some next) :
    next.HasSoundEntries := by
  intro entry hmem
  rcases entryPoints_of_settle? hsome with hsame | ⟨added, hsound, hadded⟩
  · exact hmodule entry (hsame ▸ hmem)
  · rw [hadded] at hmem
    rcases List.mem_append.1 hmem with hearlier | hlast
    · exact hmodule entry hearlier
    · cases List.mem_singleton.1 hlast
      exact ⟨module, hsound⟩

theorem HasSoundEntries.settleRound {module : Module} (hmodule : module.HasSoundEntries)
    (declarations : List Declaration) : (module.settleRound declarations).1.HasSoundEntries := by
  refine List.foldlRecOn (motive := fun reached : Module × List Declaration =>
    reached.1.HasSoundEntries) declarations _ hmodule ?_
  intro reached hreached declaration _
  dsimp only
  cases hsettle : reached.1.settle? declaration with
  | none => exact hreached
  | some next => exact hreached.of_settle? hsettle

theorem HasSoundEntries.settleAll? {rounds : Nat} {module settled : Module}
    {declarations : List Declaration} (hmodule : module.HasSoundEntries)
    (hsome : Module.settleAll? rounds module declarations = some settled) :
    settled.HasSoundEntries := by
  induction rounds generalizing module declarations with
  | zero =>
    cases declarations with
    | nil =>
      cases hsome
      exact hmodule
    | cons declaration rest => cases hsome
  | succ rounds ih =>
    cases declarations with
    | nil =>
      cases hsome
      exact hmodule
    | cons declaration rest =>
      have hround := hmodule.settleRound (declaration :: rest)
      exact ih hround (show Module.settleAll? rounds _ _ = some settled from hsome)

/-- Nothing starts before anything is declared. -/
theorem entryPoints_initial (tree : SourceTree) : (initial tree).entryPoints = [] := by
  exact List.foldlRecOn (motive := fun module : Module => module.entryPoints = []) _ _ rfl
    fun _ hnone _ _ => hnone

theorem hasSoundEntries_of_ofTree? {tree : SourceTree} {module : Module}
    (hsome : ofTree? tree = some module) : module.HasSoundEntries := by
  unfold ofTree? at hsome
  dsimp only at hsome
  split at hsome
  · cases hsome
  · obtain ⟨settled, hsettled, hsome⟩ := Option.bind_eq_some_iff.1 hsome
    obtain ⟨_, _, hsome⟩ := Option.bind_eq_some_iff.1 hsome
    split at hsome
    · cases hsome
      refine HasSoundEntries.settleAll? ?_ hsettled
      intro entry hmem
      have hnone := entryPoints_initial tree
      rw [show _ = [] from hnone] at hmem
      cases hmem
    · cases hsome

/-- Every entry point of a valid source kept the rules of its stage. -/
theorem hasSoundEntries_of_ofSource? {source : String} {module : Module}
    (hsome : ofSource? source = some module) : module.HasSoundEntries := by
  obtain ⟨tree, _, htree⟩ := Option.bind_eq_some_iff.1 hsome
  exact hasSoundEntries_of_ofTree? htree

end Module

/-- The location at which a value arrives, if it arrives at one. -/
def StageValue.location? (stageValue : StageValue) : Option Nat :=
  match stageValue.varying with
  | .location index _ _ _ => some index
  | .builtin _ => none

namespace Varying

theorem pairwise_of_areDistinct {values : List StageValue} (hdistinct : areDistinct values = true) :
    values.Pairwise fun first second => clashes first second = false := by
  induction values with
  | nil => exact .nil
  | cons first rest ih =>
    rw [areDistinct, Bool.and_eq_true, List.all_eq_true] at hdistinct
    refine .cons ?_ (ih hdistinct.2)
    intro second hmem
    simpa using hdistinct.1 second hmem

/-- Only what a fragment stage gives out is blended from two sources. -/
theorem blendSource_eq_none {scope : Scope} {stage : Stage} {stageValue : StageValue}
    (hallowed : isAllowed scope stage false stageValue = true) {index : Nat}
    {interpolation : Option Interpolation} {point : Option SamplePoint} {blendSource : Option Nat}
    (hvarying : stageValue.varying = .location index interpolation point blendSource) :
    blendSource = none := by
  cases blendSource with
  | none => rfl
  | some source =>
    simp [isAllowed, hvarying] at hallowed

/-- Two inputs that do not clash do not arrive at one location. -/
theorem location?_ne {scope : Scope} {stage : Stage} {first second : StageValue}
    (hfirst : isAllowed scope stage false first = true)
    (hsecond : isAllowed scope stage false second = true) (hclash : clashes first second = false)
    {index : Nat} (hindex : first.location? = some index) : second.location? ≠ some index := by
  intro hother
  unfold StageValue.location? at hindex hother
  cases hvarying : first.varying with
  | builtin name =>
    rw [hvarying] at hindex
    cases hindex
  | location index interpolation point source =>
    cases hvarying' : second.varying with
    | builtin name =>
      rw [hvarying'] at hother
      cases hother
    | location other interpolation' point' source' =>
      rw [hvarying] at hindex
      rw [hvarying'] at hother
      cases blendSource_eq_none hfirst hvarying
      cases blendSource_eq_none hsecond hvarying'
      cases hindex
      cases hother
      simp [clashes, hvarying, hvarying'] at hclash

end Varying

/-- The inputs of an entry point that keeps the rules of its stage arrive at different locations. -/
theorem Module.pairwise_location?_of_isSound {module : Module} {entry : EntryPoint}
    (hsound : module.isSound entry = true) :
    entry.inputs.Pairwise fun first second =>
      ∀ index, first.location? = some index → second.location? ≠ some index := by
  simp only [Module.isSound, Bool.and_eq_true] at hsound
  obtain ⟨⟨⟨⟨⟨⟨⟨hinputs, _⟩, hdistinct⟩, _⟩, _⟩, _⟩, _⟩, _⟩ := hsound
  rw [List.all_eq_true] at hinputs
  refine (Varying.pairwise_of_areDistinct hdistinct).imp_of_mem ?_
  intro first second hfirst hsecond hclash index
  exact Varying.location?_ne (hinputs first hfirst) (hinputs second hsecond) hclash

/-- The stage that a source is compiled for starts at an entry point that keeps the rules of it. -/
theorem CompiledStage.isSound_entry {source : String} {stage : ProgramStage} {entryPoint : String}
    {compiled : CompiledStage} (hok : ofSource source stage entryPoint = .ok compiled) :
    compiled.entry.stage = stage.stage ∧
      ∃ settled : Module, settled.isSound compiled.entry = true := by
  unfold ofSource at hok
  cases hmodule : Module.ofSource? source with
  | none =>
    rw [hmodule] at hok
    cases hok
  | some module =>
    rw [hmodule] at hok
    dsimp only at hok
    cases hentry : module.entryPoint? stage.stage entryPoint with
    | none =>
      rw [hentry] at hok
      cases hok
    | some entry =>
      rw [hentry] at hok
      cases hok
      have hfound := List.find?_some hentry
      rw [Bool.and_eq_true] at hfound
      exact ⟨eq_of_beq hfound.1,
        Module.hasSoundEntries_of_ofSource? hmodule entry (List.mem_of_find?_eq_some hentry)⟩

/-- What is relied on of a reader of shader sources, whatever it takes for valid: the inputs of a stage
arrive at different locations. -/
class LawfulReader
    (read : String → ProgramStage → String → Except StageFault CompiledStage) : Prop where
  distinct_inputs : ∀ {source : String} {stage : ProgramStage} {entryPoint : String}
    {compiled : CompiledStage}, read source stage entryPoint = .ok compiled →
      compiled.entry.inputs.Pairwise fun first second =>
        ∀ index, first.location? = some index → second.location? ≠ some index

instance : LawfulReader CompiledStage.ofSource where
  distinct_inputs hok := by
    obtain ⟨_, settled, hsound⟩ := CompiledStage.isSound_entry hok
    exact Module.pairwise_location?_of_isSound hsound

end FramePlan.Shader
