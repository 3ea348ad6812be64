import FramePlan.Shader.Interface

/-!
# What a shader stage asks for

A draw is possible only if what is bound suits what the stages use. The demand of a stage lists the
resources that its entry point reaches, each with the shape that it must have, the textures that are
read through samplers, and the values that it takes in and gives out.

They are what `wgpu` reads off a module of `naga` when it makes a pipeline.
-/

namespace FramePlan.Shader

/-- The shape of a resource that a stage uses. -/
inductive ResourceShape where
  | uniform (size : Nat)
  | texture (content : TextureClass) (dimension : Dimension)
  | sampler (comparison : Bool)
  /-- A buffer that can be written, or is read without the rules for uniforms. -/
  | storage
deriving DecidableEq, Repr

/-- What an entry point asks of a pipeline. -/
structure Demand where
  resources : List (ResourceSlot × ResourceShape)
  /-- The slots of textures that are read, each with the slot of its sampler. -/
  samplings : List (ResourceSlot × ResourceSlot)
  inputs : List StageValue
  outputs : List StageValue
deriving DecidableEq, Repr

def ModuleVariable.shape (layouts : Layouts) (found : ModuleVariable) : ResourceShape :=
  match found.type with
  | .texture content dimension => .texture content dimension
  | .sampler comparison => .sampler comparison
  | type => if found.space = .uniform then .uniform (type.size layouts) else .storage

namespace CompiledStage

/-- What the stage asks for; variables that the entry point does not reach do not count. -/
def demand (compiled : CompiledStage) : Demand :=
  let module := compiled.module
  let effects := compiled.entry.effects
  let slotOf (handle : Handle) : Option ResourceSlot :=
    match handle with
    | .global name => (module.find? name).bind (·.slot)
    | .parameter _ => none
  { resources := module.moduleVariables.filterMap fun found =>
      if effects.globals.contains found.name then
        found.slot.map (·, found.shape module.scope.layouts)
      else none
    samplings := effects.samplings.filterMap fun (texture, sampler) => do
      return (← slotOf texture, ← slotOf sampler)
    inputs := compiled.entry.inputs
    outputs := compiled.entry.outputs }

end CompiledStage

end FramePlan.Shader
