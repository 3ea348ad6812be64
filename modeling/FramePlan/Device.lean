import FramePlan.Device.Error

/-!
# Devices

What the engine asks of a graphics device. A device behaves like a context with state: what one call
binds stays bound until it is overwritten, and every call is complete before the next one.

Creation may fail, and a device may record the request even then, so a creation returns
the device beside its outcome. Binding cannot fail. A draw fails if what is bound does not suffice.

The class is the engine's `Device`, method by method.
-/

namespace FramePlan

open Shader (ProgramStage Interface)

/-- A computation on a state that may fail; the state reached is kept when it does. -/
abbrev Attempt (State Error : Type) := ExceptT Error (StateM State)

/-- A vertex input that a layout lists. -/
structure VertexAttribute where
  name : String
  location : Nat
  format : VertexFormat
deriving DecidableEq, Repr

/-- Whether a stream advances with every vertex or with every instance. -/
inductive StepMode where
  | perVertex
  | perInstance
deriving DecidableEq, Repr

def StepMode.name : StepMode → String
  | .perVertex => "Vertex"
  | .perInstance => "Instance"

/-- A stream as it is bound to a location. -/
structure StreamBinding (Buffer : Type) where
  buffer : Buffer
  /-- Where the stream starts in the buffer, in bytes. -/
  offset : Nat
  format : VertexFormat
  stepMode : StepMode
deriving DecidableEq, Repr

/-- The slot of a texture and, if there is one, that of its sampler. -/
structure SamplerSlot where
  texture : ResourceSlot
  sampler : Option ResourceSlot
deriving DecidableEq, Repr

/-- The rectangle of a target that draws are mapped to, in pixels. -/
structure Viewport where
  x : UInt32
  y : UInt32
  width : UInt32
  height : UInt32
deriving DecidableEq, Repr

structure CompiledShader (Shader : Type) where
  handle : Shader
  interface : Interface

/-- The types of the handles of a device. -/
structure Handles where
  Image : Type
  RenderView : Type
  DepthView : Type
  Sampler : Type
  Shader : Type
  InputLayout : Type
  Buffer : Type

/-- A graphics device. -/
class Device (State : Type) (handles : outParam Handles) where
  /-- The backend for which pipelines have to be made. -/
  backend : State → Backend
  createImage : ImageDescriptor → Attempt State DeviceError handles.Image
  createRenderView : handles.Image → Attempt State DeviceError handles.RenderView
  createDepthView : handles.Image → Attempt State DeviceError handles.DepthView
  createSampler : SamplerDescriptor → Attempt State DeviceError handles.Sampler
  /-- Compiles a stage of a source, given its entry point and a profile. -/
  compileShader : ProgramStage → String → String → String →
    Attempt State DeviceError (CompiledShader handles.Shader)
  createInputLayout : handles.Shader → List VertexAttribute →
    Attempt State DeviceError handles.InputLayout
  createVertexBuffer : List UInt8 → Attempt State DeviceError handles.Buffer
  setShaders : handles.Shader → handles.Shader → handles.InputLayout → State → State
  setRenderTargets : Option handles.RenderView → Option handles.DepthView → State → State
  setViewport : Viewport → State → State
  setRasterState : RasterContext → State → State
  setAccumulationState : AccumulationContext → State → State
  /-- Binds an image and its sampler to a texture unit. -/
  setTexture : UInt32 → handles.Image → handles.Sampler → State → State
  /-- Points slots at a texture unit. -/
  setSamplerUniform : SamplerSlot → UInt32 → State → State
  setUniform : ResourceSlot → Value → State → State
  /-- Binds a stream to a location. -/
  setVertexStream : Nat → StreamBinding handles.Buffer → State → State
  clearRenderView : handles.RenderView → Vector Single 4 → State → State
  clearDepthStencilView : handles.DepthView → Option Single → Option UInt32 → State → State
  /-- Draws a number of vertices with what is bound. -/
  draw : Primitive → UInt32 → Attempt State DeviceError Unit

end FramePlan
