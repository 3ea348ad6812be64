import FramePlan.Gpu.Draw
import FramePlan.Proofs.Device.Recorder
import FramePlan.Proofs.Shader.Entry
import Mathlib.Data.List.Nodup

/-!
# Devices that reflect

What a shader exposes is read off its source, and both devices expose just that. The inputs of a stage
are keyed by name, although the language distinguishes them by location: of inputs with one name the
table keeps the last one, and no two of those that it keeps arrive at one location.

* `Device.Reflects`: a device that exposes what the source declares, as recorders and GPUs do.
* `CompiledStage.get?_inputs_eq_some_iff`: which inputs of an entry point are kept.
* `CompiledStage.name_eq_of_location_eq`: inputs that are kept arrive at different locations.
* `CompiledProgram.MadeFrom.isSampler`: no uniform of a program is a texture.
-/

namespace FramePlan

open Shader (ProgramStage Interface InputInfo StageValue CompiledStage)

namespace Shader

namespace Interface

/-- The entry for an input that arrives at a location. -/
def inputOf? (input : StageValue) : Option (String × InputInfo) :=
  input.location?.map (input.name, ⟨·, input.type.vertexFormat?⟩)

theorem inputOf?_eq_some_iff {input : StageValue} {name : String} {info : InputInfo} :
    inputOf? input = some (name, info) ↔
      input.name = name ∧ input.location? = some info.location ∧
        input.type.vertexFormat? = info.format := by
  obtain ⟨location, format⟩ := info
  cases hlocation : input.location? with
  | none => simp [inputOf?, hlocation]
  | some index => simp [inputOf?, hlocation]

theorem inputEntries_eq (inputs : List StageValue) :
    inputEntries inputs = inputs.filterMap inputOf? := by
  apply List.filterMap_congr
  intro input _
  unfold inputOf? StageValue.location?
  cases input.varying with
  | location index interpolation point source => rfl
  | builtin name => rfl

/-- Where values arrive at different locations, so do the inputs among them. -/
theorem nodup_inputEntries {inputs : List StageValue}
    (hpairwise : inputs.Pairwise fun first second =>
      ∀ index, first.location? = some index → second.location? ≠ some index) :
    ((inputEntries inputs).map fun entry => entry.2.location).Nodup := by
  rw [inputEntries_eq]
  refine List.pairwise_map.2 (List.pairwise_filterMap.2 (hpairwise.imp ?_))
  intro first second hne entry hentry other hother heq
  obtain ⟨_, hlocation, _⟩ := inputOf?_eq_some_iff.1 hentry
  obtain ⟨_, hlocation', _⟩ := inputOf?_eq_some_iff.1 hother
  rw [← heq] at hlocation'
  exact hne _ hlocation hlocation'

end Interface

namespace CompiledStage

/-- Of the inputs of an entry point that have one name, the last that arrives at a location is kept. -/
theorem get?_inputs_eq_some_iff {stage : CompiledStage} {name : String} {info : InputInfo} :
    stage.interface.inputs.get? name = some info ↔
      ∃ earlier input later, stage.entry.inputs = earlier ++ input :: later ∧
        input.name = name ∧ input.location? = some info.location ∧
        input.type.vertexFormat? = info.format ∧
        ∀ other ∈ later, other.name = name → other.location? = none := by
  have hkept : stage.interface.inputs.get? name = some info ↔
      ∃ before after, Interface.inputEntries stage.entry.inputs =
        before ++ (name, info) :: after ∧ ∀ entry ∈ after, entry.1 ≠ name :=
    Table.get?_ofList_eq_some_iff
  rw [hkept, Interface.inputEntries_eq]
  constructor
  · rintro ⟨before, after, hentries, hafter⟩
    obtain ⟨earlier, rest, hinputs, _, hrest⟩ := List.filterMap_eq_append_iff.1 hentries
    obtain ⟨silent, input, later, rfl, _, hinput, hlater⟩ := List.filterMap_eq_cons_iff.1 hrest
    obtain ⟨hname, hlocation, hformat⟩ := Interface.inputOf?_eq_some_iff.1 hinput
    refine ⟨earlier ++ silent, input, later, ?_, hname, hlocation, hformat, ?_⟩
    · rw [hinputs, List.append_assoc]
    · intro other hother hsame
      cases hlocated : other.location? with
      | none => rfl
      | some index =>
        have hentry : (name, ⟨index, other.type.vertexFormat?⟩) ∈ after := by
          rw [← hlater]
          exact List.mem_filterMap.2
            ⟨other, hother, Interface.inputOf?_eq_some_iff.2 ⟨hsame, hlocated, rfl⟩⟩
        exact absurd rfl (hafter _ hentry)
  · rintro ⟨earlier, input, later, hinputs, hinput⟩
    obtain ⟨hname, hlocation, hformat, hlater⟩ := hinput
    have hentry := Interface.inputOf?_eq_some_iff.2 ⟨hname, hlocation, hformat⟩
    refine ⟨earlier.filterMap Interface.inputOf?, later.filterMap Interface.inputOf?, ?_, ?_⟩
    · rw [hinputs, List.filterMap_append, List.filterMap_cons, hentry]
    · intro entry hmem hsame
      obtain ⟨other, hother, hsaid⟩ := List.mem_filterMap.1 hmem
      obtain ⟨hstored, hlocated, _⟩ := Interface.inputOf?_eq_some_iff.1 hsaid
      rw [hlater other hother (hstored.trans hsame)] at hlocated
      cases hlocated

/-- Inputs that a stage exposes arrive at different locations. -/
theorem name_eq_of_location_eq {source : String} {stage : ProgramStage} {entryPoint : String}
    {compiled : CompiledStage} (hok : ofSource source stage entryPoint = .ok compiled)
    {name other : String} {info otherInfo : InputInfo}
    (hget : compiled.interface.inputs.get? name = some info)
    (hother : compiled.interface.inputs.get? other = some otherInfo)
    (hlocation : info.location = otherInfo.location) : name = other := by
  have hnodup := Interface.nodup_inputEntries (LawfulReader.distinct_inputs hok)
  have hmem : (name, info) ∈ Interface.inputEntries compiled.entry.inputs :=
    Table.mem_of_mem_ofList (Table.get?_eq_some_iff.1 hget)
  have hmem' : (other, otherInfo) ∈ Interface.inputEntries compiled.entry.inputs :=
    Table.mem_of_mem_ofList (Table.get?_eq_some_iff.1 hother)
  have hsame := List.inj_on_of_nodup_map hnodup hmem hmem' hlocation
  exact congrArg Prod.fst hsame

end CompiledStage

end Shader

/-! ## What devices expose -/

/-- A device whose shaders expose what their sources declare. -/
class Device.Reflects (State : Type) {handles : Handles} [Device State handles] : Prop where
  exists_stage : ∀ {stage : ProgramStage} {source entryPoint profile : String}
    {shader : CompiledShader handles.Shader} {before after : State},
    Device.compileShader stage source entryPoint profile before = (.ok shader, after) →
      ∃ compiled, CompiledStage.ofSource source stage entryPoint = .ok compiled ∧
        shader.interface = compiled.interface

instance : Device.Reflects Recorder where
  exists_stage := by
    intro stage source entryPoint profile shader before after hok
    have hinterface := Recorder.ofSource_of_compileShader hok
    unfold Interface.ofSource at hinterface
    cases hcompiled : CompiledStage.ofSource source stage entryPoint with
    | error fault =>
      rw [hcompiled] at hinterface
      cases hinterface
    | ok compiled =>
      rw [hcompiled] at hinterface
      exact ⟨compiled, rfl, (Except.ok.inj hinterface).symm⟩

instance : Device.Reflects Gpu where
  exists_stage := by
    intro stage source entryPoint profile shader before after hok
    have hok : Gpu.compileShader stage source entryPoint profile before = (.ok shader, after) := hok
    unfold Gpu.compileShader at hok
    cases hcompiled : CompiledStage.ofSource source stage entryPoint with
    | error fault =>
      rw [hcompiled] at hok
      exact absurd hok Attempt.throw_ne_ok
    | ok compiled =>
      rw [hcompiled] at hok
      dsimp only at hok
      split at hok
      · cases hok
        exact ⟨compiled, rfl, rfl⟩
      · exact absurd hok Attempt.throw_ne_ok

/-! ## What programs declare -/

section Wants

variable {State : Type} {handles : Handles} [Device State handles] [Device.Reflects State]
  {config : Config}

/-- No uniform of a program has the type of a texture, whatever the program declares. -/
theorem CompiledProgram.MadeFrom.isSampler {descriptor : Program}
    {vertex fragment : CompiledShader handles.Shader} {program : CompiledProgram handles}
    (hmade : program.MadeFrom State config descriptor vertex fragment)
    {entry : String × UniformSlot} (hmem : entry ∈ program.uniforms.entries) :
    entry.2.type.isSampler = false := by
  obtain ⟨_, _, hvertex⟩ := hmade.vertex_compiled
  obtain ⟨_, _, hfragment⟩ := hmade.fragment_compiled
  obtain ⟨vertexStage, _, hvertex⟩ := Device.Reflects.exists_stage hvertex
  obtain ⟨fragmentStage, _, hfragment⟩ := Device.Reflects.exists_stage hfragment
  rw [hmade.uniforms, hvertex, hfragment] at hmem
  obtain ⟨_, info, hinfo, _, htype⟩ :=
    get?_uniformSlots_eq_some_iff.1 (Table.get?_eq_some_iff.2 hmem)
  rw [← InputType.isSampler_written]
  obtain hget | ⟨_, hget⟩ := ofStages_eq_some_iff.1 hinfo
  · exact CompiledStage.isSampler_of_get?_uniforms hget htype
  · exact CompiledStage.isSampler_of_get?_uniforms hget htype

theorem CompiledPipeline.IsCompiled.isSampler {pipeline : Pipeline}
    {compiled : CompiledPipeline handles} (hcompiled : compiled.IsCompiled State pipeline config)
    {program : CompiledProgram handles} (hprogram : program ∈ compiled.resources.programs)
    {entry : String × UniformSlot} (hmem : entry ∈ program.uniforms.entries) :
    entry.2.type.isSampler = false := by
  obtain ⟨_, _, _, _, hok⟩ := exists_of_mem_forall₂ hcompiled.resources.programs hprogram
  obtain ⟨_, _, hmade⟩ := CompiledProgram.exists_madeFrom hok
  exact hmade.isSampler hmem

end Wants

end FramePlan
