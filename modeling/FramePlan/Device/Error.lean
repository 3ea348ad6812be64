import FramePlan.Image
import FramePlan.Primitive
import FramePlan.Shader.Interface

/-!
# Device errors

Why a device refuses to create something or to draw. Creation errors are fatal for the pipeline that
is being compiled; draw errors are reported in the frame they occurred in.

`DeviceError` is the engine's type of that name. `Rejection` stands for the errors that `wgpu` gives
when it validates a draw.
-/

namespace FramePlan

open Shader (ProgramStage)

inductive CreationFault where
  | imageSize (width height greatest : UInt32)
  | mipLevels (count width height : UInt32)
  /-- Only color images can be rendered to. -/
  | notRenderable (format : ImageFormat)
  /-- Only depth images can be used for depth. -/
  | notDepth (format : ImageFormat)
  | attributeCount (count greatest : Nat)
  /-- A render target refers to a texture that the pipeline does not have. -/
  | missingTexture (index : Nat)
deriving DecidableEq, Repr

def CreationFault.message : CreationFault → String
  | .imageSize width height greatest => s!"image size {width}x{height} is outside 1..={greatest}"
  | .mipLevels count width height => s!"{count} mip levels do not fit a {width}x{height} image"
  | .notRenderable format => s!"cannot render color into a {format.name} image"
  | .notDepth format => s!"cannot use a {format.name} image as depth"
  | .attributeCount count greatest => s!"{count} vertex attributes exceed the limit of {greatest}"
  | .missingTexture index => s!"render target references missing texture {index}"

/-- What a draw is lacking. -/
inductive MissingState where
  | shaders
  | renderTarget
deriving DecidableEq, Repr

def MissingState.text : MissingState → String
  | .shaders => "bound shaders"
  | .renderTarget => "a bound render target"

/-- What is not bound for a draw. -/
inductive UnboundResource where
  | resource (name : String)
  /-- A stream is bound, but no byte of its buffer is left. -/
  | emptyStream (name : String)
deriving DecidableEq, Repr

def UnboundResource.text : UnboundResource → String
  | .resource name => name
  | .emptyStream name => s!"{name} (empty stream)"

/-- The rules that a device holds calls to beyond those that it reports in detail. -/
inductive Rejection where
  /-- An image has no room for its mip levels. -/
  | mipLevels
  /-- The levels of detail of a sampler are negative or in the wrong order. -/
  | samplerRange
  /-- A draw reads more vertex buffers than there may be. -/
  | vertexBufferCount
  | locationClash
  /-- The shader reads a location that no attribute feeds, or feeds with other numbers. -/
  | vertexInput
  /-- The fragment stage reads what the vertex stage does not give. -/
  | stageInterface
  /-- More components travel between the stages than may. -/
  | varyingCount
  /-- The fragment stage writes something that does not fill a texel. -/
  | fragmentOutput
  /-- Lines or points are asked for on a device that only fills triangles. -/
  | polygonMode
  /-- A stage uses a resource of another shape than the one that is bound. -/
  | resourceShape
  /-- A filtering sampler reads a texture that cannot be filtered. -/
  | filtering
  /-- More resources are bound than there may be. -/
  | resourceCount
  | targetSizes
  /-- An image is read and written by one draw. -/
  | feedback
  /-- A uniform buffer is shorter than a stage declares. -/
  | uniformSize
  /-- A stream has fewer elements than are drawn. -/
  | streamLength
deriving DecidableEq, Repr

inductive DeviceError where
  | resourceCreation (fault : CreationFault)
  | shaderCompilation (stage : ProgramStage)
  | entryPointNotFound (stage : ProgramStage) (entryPoint : String)
  | unsupportedPrimitive (primitive : Primitive)
  | incompleteState (missing : MissingState)
  | unboundResource (resource : UnboundResource)
  | validation (rejection : Rejection)
deriving DecidableEq, Repr

namespace DeviceError

/-- The error for a stage without interface. -/
def ofStageFault (stage : ProgramStage) (entryPoint : String) : Shader.StageFault → DeviceError
  | .invalidSource => .shaderCompilation stage
  | .noEntryPoint => .entryPointNotFound stage entryPoint

def kind : DeviceError → String
  | .resourceCreation _ => "ResourceCreation"
  | .shaderCompilation _ => "ShaderCompilation"
  | .entryPointNotFound _ _ => "EntryPointNotFound"
  | .unsupportedPrimitive _ => "UnsupportedPrimitive"
  | .incompleteState _ => "IncompleteState"
  | .unboundResource _ => "UnboundResource"
  | .validation _ => "Validation"

/-- The wording of an error. What is wrong inside a source or a rejected call is left to the
device. -/
def message : DeviceError → String
  | .resourceCreation fault => s!"resource creation failed: {fault.message}"
  | .shaderCompilation stage => s!"{stage.name} shader compilation failed"
  | .entryPointNotFound stage entryPoint =>
    s!"{stage.name} shader has no entry point named `{entryPoint}`"
  | .unsupportedPrimitive primitive =>
    s!"primitive {primitive.name} is not supported by this device"
  | .incompleteState missing => s!"draw submitted without {missing.text}"
  | .unboundResource resource => s!"shader resource `{resource.text}` has nothing bound to it"
  | .validation _ => "device rejected the call"

end DeviceError

end FramePlan
