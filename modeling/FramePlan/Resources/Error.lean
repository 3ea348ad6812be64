import FramePlan.Device.Error
import FramePlan.Pipeline.Validity

/-!
# Compile errors

Why a pipeline cannot be compiled for a device. Every one of them is fatal.

The type is the engine's `PipelineError`, with the messages that it displays.
-/

namespace FramePlan

/-- Why a pipeline cannot be compiled, with the index of the resource that failed. -/
inductive CompileError where
  | unsupportedBackend (expected found : Backend)
  | invalidPipeline (dangling : DanglingReference)
  | backBuffer (cause : DeviceError)
  | texture (index : Nat) (cause : DeviceError)
  | target (index : Nat) (cause : DeviceError)
  | program (index : Nat) (cause : DeviceError)
  | unsupportedGeometryStage (index : Nat)
  | stream (index : Nat) (cause : DeviceError)
  | unsupportedFetchPrimitive (index : Nat) (primitive : FetchPrimitive)
deriving DecidableEq, Repr

namespace CompileError

/-- The device error behind a compile error. -/
def cause? : CompileError → Option DeviceError
  | .backBuffer cause | .texture _ cause | .target _ cause | .program _ cause | .stream _ cause =>
    some cause
  | .unsupportedBackend _ _ | .invalidPipeline _ | .unsupportedGeometryStage _
  | .unsupportedFetchPrimitive _ _ => none

def index? : CompileError → Option Nat
  | .texture index _ | .target index _ | .program index _ | .stream index _
  | .unsupportedGeometryStage index | .unsupportedFetchPrimitive index _ => some index
  | .unsupportedBackend _ _ | .invalidPipeline _ | .backBuffer _ => none

def kind : CompileError → String
  | .unsupportedBackend _ _ => "UnsupportedBackend"
  | .invalidPipeline _ => "InvalidIr"
  | .backBuffer _ => "BackBuffer"
  | .texture _ _ => "Texture"
  | .target _ _ => "Target"
  | .program _ _ => "Program"
  | .unsupportedGeometryStage _ => "UnsupportedGeometryStage"
  | .stream _ _ => "Stream"
  | .unsupportedFetchPrimitive _ _ => "UnsupportedFetchPrimitive"

def message : CompileError → String
  | .unsupportedBackend expected found =>
    s!"unsupported backend: pipeline targets {found.name}, device implements {expected.name}"
  | .invalidPipeline dangling => dangling.message
  | .backBuffer cause => s!"failed to allocate the back buffer: {cause.message}"
  | .texture index cause => s!"failed to compile texture {index}: {cause.message}"
  | .target index cause => s!"failed to compile render target {index}: {cause.message}"
  | .program index cause => s!"failed to compile program {index}: {cause.message}"
  | .unsupportedGeometryStage index =>
    s!"program {index} has a geometry stage, which this engine does not support"
  | .stream index cause => s!"failed to compile stream data {index}: {cause.message}"
  | .unsupportedFetchPrimitive index primitive =>
    s!"stream data {index} uses {primitive.name}, which this engine does not support"

end CompileError

end FramePlan
