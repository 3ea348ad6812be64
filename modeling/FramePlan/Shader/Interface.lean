import FramePlan.Shader.Module
import FramePlan.Table
import FramePlan.VertexFormat

/-!
# What a shader stage exposes

The interface of a stage lists, by name, the uniforms, textures and samplers of its module and the
inputs of its entry point that arrive at locations. Program slot maps are made by matching declared
names against it.

`CompiledStage.ofSource` with `CompiledStage.interface` is the engine's `reflect_wgsl`, and
`Interface` its `ShaderReflection`; `DataType.inputType?` and `DataType.vertexFormat?` are
`input_type` and `vertex_format`.

Sources are read as the front end and the validator of `naga` read them, with every capability. This
reader is not complete. In constant expressions only scalars have values: a call of a function of
the language has none, so where its value is needed the source is refused, and a constant vector
that is divided by zero is not noticed. Arrays of bindings, subgroup operations, atomics on storage
textures and acceleration structures are refused. Of what counts as a valid source, general results
take the law `Shader.LawfulReader` only.
-/

namespace FramePlan.Shader

inductive ProgramStage where
  | vertex
  | fragment
deriving DecidableEq, Repr

namespace ProgramStage

def stage : ProgramStage → Stage
  | .vertex => .vertex
  | .fragment => .fragment

def name : ProgramStage → String
  | .vertex => "Vertex"
  | .fragment => "Fragment"

end ProgramStage

/-- Where a uniform is found, how many bytes it takes, and its type if values have that type. -/
structure UniformInfo where
  slot : ResourceSlot
  size : Nat
  type : Option InputType
deriving DecidableEq, Repr

/-- Where an input arrives, and the format that feeds it if one does. -/
structure InputInfo where
  location : Nat
  format : Option VertexFormat
deriving DecidableEq, Repr

/-- What a stage exposes, by name. -/
structure Interface where
  uniforms : Table String UniformInfo := .empty
  textures : Table String ResourceSlot := .empty
  samplers : Table String ResourceSlot := .empty
  inputs : Table String InputInfo := .empty
deriving DecidableEq

/-- Why a stage has no interface. -/
inductive StageFault where
  | invalidSource
  /-- The module has no entry point of the stage with the name. -/
  | noEntryPoint
deriving DecidableEq, Repr

/-- The kind of values that a scalar corresponds to; the width does not matter. -/
def ScalarType.kind? : ScalarType → Option Scalar
  | .bool => some .bool
  | .int | .long => some .int
  | .uint | .ulong => some .word
  | .float | .half | .double => some .float
  | .abstractInt | .abstractFloat => none

namespace DataType

/-- The type of the values that can be written to something of a type: scalars, vectors and square
matrices of floats have one. -/
def inputType? : DataType → Option InputType
  | .scalar leaf => leaf.kind?.map (.vector · .one)
  | .vector .two leaf => leaf.kind?.map (.vector · .two)
  | .vector .three leaf => leaf.kind?.map (.vector · .three)
  | .vector .four leaf => leaf.kind?.map (.vector · .four)
  | .matrix columns rows leaf =>
    if columns = rows ∧ leaf.kind? = some .float then some (.matrix columns) else none
  | _ => none

def vertexFormat? (type : DataType) : Option VertexFormat :=
  type.inputType?.bind VertexFormat.ofInputType?

end DataType

namespace Interface

/-- The inputs among some values, by name: those that arrive at locations. -/
def inputEntries (stageValues : List StageValue) : List (String × InputInfo) :=
  stageValues.filterMap fun stageValue =>
    match stageValue.varying with
    | .location index _ _ _ => some (stageValue.name, ⟨index, stageValue.type.vertexFormat?⟩)
    | .builtin _ => none

/-- The uniforms among some variables, by name. -/
def uniformEntries (layouts : Layouts) (moduleVariables : List ModuleVariable) :
    List (String × UniformInfo) :=
  moduleVariables.filterMap fun found =>
    match found.space, found.slot with
    | .uniform, some slot =>
      some (found.name, ⟨slot, found.type.size layouts, found.type.inputType?⟩)
    | _, _ => none

/-- The textures among some variables, by name. -/
def textureEntries (moduleVariables : List ModuleVariable) : List (String × ResourceSlot) :=
  moduleVariables.filterMap fun found =>
    match found.type, found.slot with
    | .texture _ _, some slot => some (found.name, slot)
    | _, _ => none

/-- The samplers among some variables, by name. -/
def samplerEntries (moduleVariables : List ModuleVariable) : List (String × ResourceSlot) :=
  moduleVariables.filterMap fun found =>
    match found.type, found.slot with
    | .sampler _, some slot => some (found.name, slot)
    | _, _ => none

def ofEntryPoint (module : Module) (entry : EntryPoint) : Interface where
  uniforms := .ofList (uniformEntries module.scope.layouts module.moduleVariables)
  textures := .ofList (textureEntries module.moduleVariables)
  samplers := .ofList (samplerEntries module.moduleVariables)
  inputs := .ofList (inputEntries entry.inputs)

end Interface

/-- A valid module with the entry point at which a stage starts. -/
structure CompiledStage where
  module : Module
  entry : EntryPoint

namespace CompiledStage

/-- Finds the entry point of a stage in a source. It stands for the front end and the validator of `naga`;
what it does not cover is listed at the head of this module. -/
def ofSource (source : String) (stage : ProgramStage) (entryPoint : String) :
    Except StageFault CompiledStage :=
  match Module.ofSource? source with
  | none => .error .invalidSource
  | some module =>
    match module.entryPoint? stage.stage entryPoint with
    | none => .error .noEntryPoint
    | some entry => .ok ⟨module, entry⟩

def interface (compiled : CompiledStage) : Interface :=
  .ofEntryPoint compiled.module compiled.entry

end CompiledStage

def Interface.ofSource (source : String) (stage : ProgramStage) (entryPoint : String) :
    Except StageFault Interface :=
  (CompiledStage.ofSource source stage entryPoint).map (·.interface)

end FramePlan.Shader
