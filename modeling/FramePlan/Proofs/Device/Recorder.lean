import FramePlan.Device.Recorder
import FramePlan.Proofs.Compiled
import FramePlan.Proofs.Slots

/-!
# What a recorder compiles

A recorder compiles a shader for its interface. No uniform of an interface has the type of a texture.

* `CompiledStage.isSampler_of_get?_uniforms`: the types of the uniforms that a stage exposes.
* `Recorder.ofSource_of_compileShader`: what a recorder keeps of a shader.
-/

namespace FramePlan

open Shader (ProgramStage Interface DataType UniformInfo)

/-- A type that is written as another one is a texture just when that is. -/
theorem InputType.isSampler_written (type : InputType) : type.written.isSampler = type.isSampler := by
  rcases type with ⟨scalar, width⟩ | side | kind
  · cases scalar <;> rfl
  · rfl
  · rfl

namespace Shader

theorem DataType.isSampler_of_inputType? {type : DataType} {input : InputType}
    (hinput : type.inputType? = some input) : input.isSampler = false := by
  unfold inputType? at hinput
  split at hinput
  · obtain ⟨_, _, rfl⟩ := Option.map_eq_some_iff.1 hinput
    rfl
  · obtain ⟨_, _, rfl⟩ := Option.map_eq_some_iff.1 hinput
    rfl
  · obtain ⟨_, _, rfl⟩ := Option.map_eq_some_iff.1 hinput
    rfl
  · obtain ⟨_, _, rfl⟩ := Option.map_eq_some_iff.1 hinput
    rfl
  · split at hinput
    · cases hinput
      rfl
    · cases hinput
  · cases hinput

namespace Interface

/-- The type of a uniform is that of its values. -/
theorem exists_of_mem_uniformEntries {layouts : Layouts} {moduleVariables : List ModuleVariable}
    {entry : String × UniformInfo} (hmem : entry ∈ uniformEntries layouts moduleVariables) :
    ∃ type : DataType, entry.2.type = type.inputType? := by
  obtain ⟨found, _, hentry⟩ := List.mem_filterMap.1 hmem
  split at hentry
  · cases hentry
    exact ⟨found.type, rfl⟩
  · cases hentry

end Interface

/-- No uniform that a stage exposes has the type of a texture. -/
theorem CompiledStage.isSampler_of_get?_uniforms {stage : CompiledStage} {name : String}
    {info : UniformInfo} (hget : stage.interface.uniforms.get? name = some info)
    {type : InputType} (htype : info.type = some type) : type.isSampler = false := by
  obtain ⟨stored, hmem⟩ := Table.mem_of_get? hget
  obtain ⟨data, hdata⟩ := Interface.exists_of_mem_uniformEntries (Table.mem_of_mem_ofList hmem)
  rw [htype] at hdata
  exact DataType.isSampler_of_inputType? hdata.symm

end Shader

namespace Recorder

theorem ofSource_of_compileShader {stage : ProgramStage} {source entryPoint profile : String}
    {shader : CompiledShader RecordedShader} {before after : Recorder}
    (hok : compileShader stage source entryPoint profile before = (.ok shader, after)) :
    Interface.ofSource source stage entryPoint = .ok shader.interface := by
  unfold compileShader create at hok
  cases hsource : Interface.ofSource source stage entryPoint with
  | error fault =>
    rw [hsource] at hok
    cases hok
  | ok interface =>
    rw [hsource] at hok
    cases hok
    rfl

end Recorder

end FramePlan
