import FramePlan.Scene

/-!
# Compiled resources

What a device made of the resources of a pipeline. Every list has the order of the description, so
that an index into the description is one into the compiled list.

The types are the engine's `Texture`, `Target`, `UniformSlot`, `StreamSlot`, `Program`,
`StreamData`, `BackBuffer` and `PipelineState`.
-/

namespace FramePlan

structure CompiledTexture (handles : Handles) where
  image : handles.Image
  sampler : handles.Sampler
  semantic : ImageSemantic
  width : UInt32
  height : UInt32
  mipLevels : UInt32

/-- The views that draws write to. -/
structure CompiledTarget (handles : Handles) where
  color : Option handles.RenderView := none
  depth : Option handles.DepthView := none

/-- Where a uniform is submitted, and the type it is declared with. -/
structure UniformSlot where
  slot : ResourceSlot
  type : InputType
deriving DecidableEq, Repr

/-- The stream that feeds an attribute, and where. -/
structure StreamSlot where
  stream : String
  location : Nat
  type : InputType
deriving DecidableEq, Repr

/-- A program with the places of what it declares. -/
structure CompiledProgram (handles : Handles) where
  vertex : handles.Shader
  fragment : handles.Shader
  inputLayout : handles.InputLayout
  uniforms : Table String UniformSlot
  samplers : Table String SamplerSlot
  /-- The streams by the attributes that they feed. -/
  streams : Table String StreamSlot

/-- Vertex data in a buffer of its own. -/
structure CompiledStreams (handles : Handles) where
  streams : Streams handles.Buffer
  primitive : Primitive
  vertexCount : UInt32

/-- The surfaces that are used where a target refers to no texture. The color image is what a frame
leaves behind. -/
structure BackBuffer (handles : Handles) where
  width : UInt32
  height : UInt32
  depthImage : handles.Image
  depthView : handles.DepthView
  colorImage : handles.Image
  colorView : handles.RenderView

/-- Everything that a device made for a pipeline. -/
structure Resources (handles : Handles) where
  backBuffer : BackBuffer handles
  textures : List (CompiledTexture handles)
  targets : List (CompiledTarget handles)
  programs : List (CompiledProgram handles)
  streams : List (CompiledStreams handles)

end FramePlan
