import FramePlan.Proofs.Device.Reflection
import FramePlan.Sample

/-!
# Input layouts

The layout of a program lists inputs of its vertex stage, in ascending order of their locations. It is
made from what the stage exposes by name, so of inputs with one name it lists the last one only:
nothing is listed that is not an input, but an input is lost if a later one has its name, as may well
happen when each of two structures has a member of this name.

* `inputLayout_lists_inputs`: which inputs a layout lists.
* `inputLayout_loses_input`: the first of two structures loses its position.
-/

namespace FramePlan

open Shader (Interface InputInfo StageValue CompiledStage)

/-- The attribute that feeds an input, if it arrives at a location with a type that has a format. -/
def Shader.StageValue.attribute? (input : StageValue) : Option VertexAttribute :=
  input.location?.bind fun location =>
    input.type.vertexFormat?.map fun format => ⟨input.name, location, format⟩

theorem Shader.StageValue.attribute?_eq_some_iff {input : StageValue}
    {listed : VertexAttribute} : input.attribute? = some listed ↔
      input.name = listed.name ∧ input.location? = some listed.location ∧
        input.type.vertexFormat? = some listed.format := by
  obtain ⟨name, location, format⟩ := listed
  cases hlocation : input.location? with
  | none => simp [attribute?, hlocation]
  | some index =>
    cases hformat : input.type.vertexFormat? with
    | none => simp [attribute?, hlocation, hformat]
    | some found => simp [attribute?, hlocation, hformat]

theorem mem_inputAttributes {interface : Interface} {listed : VertexAttribute} :
    listed ∈ inputAttributes interface ↔
      interface.inputs.get? listed.name = some ⟨listed.location, some listed.format⟩ := by
  obtain ⟨name, location, format⟩ := listed
  rw [inputAttributes, List.mem_mergeSort, List.mem_filterMap, Table.get?_eq_some_iff]
  constructor
  · rintro ⟨⟨stored, input⟩, hmem, hattribute⟩
    obtain ⟨found, hformat, hattribute⟩ := Option.map_eq_some_iff.1 hattribute
    cases hattribute
    rw [← hformat]
    exact hmem
  · intro hmem
    exact ⟨(name, ⟨location, some format⟩), hmem, rfl⟩

/-- Where exposed inputs arrive at different locations, these ascend strictly in the layout. -/
theorem pairwise_inputAttributes {interface : Interface}
    (hdistinct : ∀ {name other : String} {info otherInfo : InputInfo},
      interface.inputs.get? name = some info → interface.inputs.get? other = some otherInfo →
        info.location = otherInfo.location → name = other) :
    (inputAttributes interface).Pairwise fun first second =>
      first.location < second.location := by
  have hsorted : (inputAttributes interface).Pairwise fun first second =>
      decide (first.location ≤ second.location) = true := by
    apply List.pairwise_mergeSort
    · intro first second third hfirst hsecond
      simp only [decide_eq_true_eq] at hfirst hsecond ⊢
      exact Nat.le_trans hfirst hsecond
    · intro first second
      simp only [Bool.or_eq_true, decide_eq_true_eq]
      exact Nat.le_total _ _
  have hnames : (inputAttributes interface).Pairwise fun first second =>
      first.name ≠ second.name := by
    refine (List.mergeSort_perm _ _).symm.pairwise ?_ fun hne => Ne.symm hne
    refine List.pairwise_filterMap.2 (interface.inputs.ascending.imp ?_)
    intro first second hlt listed hattribute other hother heq
    obtain ⟨_, _, rfl⟩ := Option.map_eq_some_iff.1 hattribute
    obtain ⟨_, _, rfl⟩ := Option.map_eq_some_iff.1 hother
    have hname : first.1 = second.1 := heq
    rw [hname, Std.compare_self] at hlt
    cases hlt
  refine (hsorted.and hnames).imp_of_mem ?_
  intro first second hfirst hsecond hpair
  have hle : first.location ≤ second.location := of_decide_eq_true hpair.1
  have hne : first.location ≠ second.location := fun heq =>
    hpair.2 (hdistinct (mem_inputAttributes.1 hfirst) (mem_inputAttributes.1 hsecond) heq)
  exact Nat.lt_of_le_of_ne hle hne

namespace Shader.CompiledStage

theorem exists_of_mem_inputAttributes {stage : CompiledStage} {listed : VertexAttribute}
    (hmem : listed ∈ inputAttributes stage.interface) :
    ∃ input ∈ stage.entry.inputs, input.attribute? = some listed := by
  obtain ⟨earlier, input, later, hinputs, hname, hlocation, hformat, _⟩ :=
    get?_inputs_eq_some_iff.1 (mem_inputAttributes.1 hmem)
  refine ⟨input, by simp [hinputs], ?_⟩
  exact StageValue.attribute?_eq_some_iff.2 ⟨hname, hlocation, hformat⟩

/-- An input is listed unless a later one has its name. -/
theorem mem_inputAttributes_iff {source : String} {entryPoint : String} {stage : CompiledStage}
    (hok : ofSource source .vertex entryPoint = .ok stage) {earlier later : List StageValue}
    {input : StageValue} (hinputs : stage.entry.inputs = earlier ++ input :: later)
    {listed : VertexAttribute} (hattribute : input.attribute? = some listed) :
    listed ∈ inputAttributes stage.interface ↔
      ∀ other ∈ later, other.name = input.name → other.location? = none := by
  obtain ⟨hname, hlocation, hformat⟩ := StageValue.attribute?_eq_some_iff.1 hattribute
  rw [mem_inputAttributes, get?_inputs_eq_some_iff, hname]
  constructor
  · rintro ⟨earlier', input', later', hinputs', hname', hlocation', hformat', hlater⟩
    -- both inputs arrive at one location, so they are one
    have hpairwise := LawfulReader.distinct_inputs hok
    rw [hinputs] at hpairwise hinputs'
    obtain ⟨_, _, rfl⟩ := eq_of_append_cons_eq hpairwise hinputs'
      (fun hne => hne _ hlocation hlocation') (fun hne => hne _ hlocation' hlocation)
    exact hlater
  · intro hlater
    exact ⟨earlier, input, later, hinputs, hname, hlocation, hformat, hlater⟩

end Shader.CompiledStage

/-- The layout of a program lists attributes in strictly ascending order of their locations, each of
them feeds an input of the vertex stage, and each input that can be fed is listed unless a later one
with its name arrives at a location too. -/
theorem inputLayout_lists_inputs {State : Type} {handles : Handles} [Device State handles]
    [Device.Reflects State] {config : Config} {descriptor : Program}
    {program : CompiledProgram handles} {before after : State}
    (hok : compileProgram config descriptor before = (.ok program, after)) :
    ∃ vertex fragment stage, program.MadeFrom State config descriptor vertex fragment ∧
      CompiledStage.ofSource descriptor.vertexShader .vertex config.vertexEntryPoint = .ok stage ∧
      (inputAttributes vertex.interface).Pairwise
        (fun first second => first.location < second.location) ∧
      (∀ listed ∈ inputAttributes vertex.interface,
        ∃ input ∈ stage.entry.inputs, input.attribute? = some listed) ∧
      ∀ earlier input later, stage.entry.inputs = earlier ++ input :: later →
        ∀ listed, input.attribute? = some listed →
          (listed ∈ inputAttributes vertex.interface ↔
            ∀ other ∈ later, other.name = input.name → other.location? = none) := by
  obtain ⟨vertex, fragment, hmade⟩ := CompiledProgram.exists_madeFrom hok
  obtain ⟨_, _, hvertex⟩ := hmade.vertex_compiled
  obtain ⟨stage, hstage, hinterface⟩ := Device.Reflects.exists_stage hvertex
  refine ⟨vertex, fragment, stage, hmade, hstage, ?_⟩
  rw [hinterface]
  refine ⟨?_, ?_, ?_⟩
  · apply pairwise_inputAttributes
    intro name other info otherInfo hget hother
    exact CompiledStage.name_eq_of_location_eq hstage hget hother
  · intro listed hmem
    exact CompiledStage.exists_of_mem_inputAttributes hmem
  · intro earlier input later hinputs listed hattribute
    exact CompiledStage.mem_inputAttributes_iff hstage hinputs hattribute

/-! ## A stage whose inputs share a name -/

namespace Sample

/-- Takes a position in each of two structures. -/
def twoStructures : String :=
  "struct L\x7b@location(0)p:vec4f\x7dstruct R\x7b@location(1)p:vec4f\x7d" ++
  "@vertex fn v(l:L,r:R)->@builtin(position)vec4f\x7breturn l.p+r.p;\x7d"

/-- A program whose vertex stage takes two positions. -/
def twoPositions : Program := { program with vertexShader := twoStructures }

/-- A recorder is asked for a layout with one of the positions, and both are inputs of the stage. -/
theorem twoPositions_compiles : ∃ program after,
    compileProgram config twoPositions recorder = (.ok program, after) ∧
    after.calls.toList = [.compileShader .vertex "v" "vs_5_0",
      .compileShader .fragment "f" "ps_5_0", .createInputLayout 0 [⟨"p", 1, ⟨.float, .four⟩⟩]] ∧
    (CompiledStage.ofSource twoPositions.vertexShader .vertex config.vertexEntryPoint).toOption.map
      (fun stage => stage.entry.inputs.filterMap StageValue.attribute?) =
        some [⟨"p", 0, ⟨.float, .four⟩⟩, ⟨"p", 1, ⟨.float, .four⟩⟩] :=
  Attempt.exists_of_yields (by decide +kernel)

end Sample

/-- What the layout of the program with two positions lists. -/
theorem inputLayout_lists_inputs_twoPositions : ∃ program after,
    compileProgram Sample.config Sample.twoPositions Sample.recorder = (.ok program, after) ∧
    ∃ vertex fragment stage,
      program.MadeFrom Recorder Sample.config Sample.twoPositions vertex fragment ∧
      CompiledStage.ofSource Sample.twoPositions.vertexShader .vertex "v" = .ok stage ∧
      (inputAttributes vertex.interface).Pairwise
        (fun first second => first.location < second.location) ∧
      (∀ listed ∈ inputAttributes vertex.interface,
        ∃ input ∈ stage.entry.inputs, input.attribute? = some listed) ∧
      ∀ earlier input later, stage.entry.inputs = earlier ++ input :: later →
        ∀ listed, input.attribute? = some listed →
          (listed ∈ inputAttributes vertex.interface ↔
            ∀ other ∈ later, other.name = input.name → other.location? = none) := by
  obtain ⟨program, after, hok, _, _⟩ := Sample.twoPositions_compiles
  exact ⟨program, after, hok, inputLayout_lists_inputs hok⟩

/-- A layout does not list every input that can be fed: of two positions a recorder is asked for one. -/
theorem inputLayout_loses_input : ∃ stage program after layout,
    CompiledStage.ofSource Sample.twoPositions.vertexShader .vertex "v" = .ok stage ∧
    compileProgram Sample.config Sample.twoPositions Sample.recorder = (.ok program, after) ∧
    after.calls.toList.getLast? = some (.createInputLayout 0 layout) ∧
    ∃ input ∈ stage.entry.inputs, ∃ listed, input.attribute? = some listed ∧ listed ∉ layout := by
  obtain ⟨program, after, hprogram, hcalls, hstage⟩ := Sample.twoPositions_compiles
  obtain ⟨stage, hstage, hinputs⟩ := Attempt.exists_of_map_toOption hstage
  refine ⟨stage, program, after, [⟨"p", 1, ⟨.float, .four⟩⟩], hstage, hprogram, ?_, ?_⟩
  · rw [hcalls]
    rfl
  · have hfirst : (⟨"p", 0, ⟨.float, .four⟩⟩ : VertexAttribute) ∈
        stage.entry.inputs.filterMap StageValue.attribute? := by
      rw [hinputs]
      exact List.mem_cons_self
    obtain ⟨input, hmem, hattribute⟩ := List.mem_filterMap.1 hfirst
    exact ⟨input, hmem, _, hattribute, by decide⟩

end FramePlan
