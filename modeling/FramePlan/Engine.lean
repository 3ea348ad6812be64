import FramePlan.Frame
import FramePlan.Resources.Compile

/-!
# Compiled pipelines

A pipeline is compiled once for a device and a screen size, then it renders any number of frames.
Before the device is asked for anything, the pipeline has to be made for its backend and all its
references have to be in range.

`CompiledPipeline` is the engine's `Pipeline`; `compile` and `render` are its `with_config` and
`render`.
-/

namespace FramePlan

/-- A pipeline that is ready to render. -/
structure CompiledPipeline (handles : Handles) where
  description : Pipeline
  config : Config
  resources : Resources handles

namespace CompiledPipeline

variable {State : Type} {handles : Handles} [Device State handles]

/-- What is checked before anything is made. -/
def check (backend : Backend) (pipeline : Pipeline) : Except CompileError Unit :=
  if pipeline.backend ≠ backend then
    .error (.unsupportedBackend backend pipeline.backend)
  else pipeline.validate.mapError .invalidPipeline

def compile (pipeline : Pipeline) (width height : UInt32) (config : Config := .default) :
    Attempt State CompileError (CompiledPipeline handles) := do
  let device ← get
  check (Device.backend device) pipeline
  let resources ← Resources.compile pipeline width height config
  return ⟨pipeline, config, resources⟩

/-- Renders a frame. Without a scene nothing is drawn, while state is set and targets are cleared. -/
def render (compiled : CompiledPipeline handles) (scene : Option (Scene handles.Buffer))
    (device : State) : FrameReport × State :=
  let frame : Frame handles :=
    ⟨compiled.resources, compiled.description.slots, compiled.config.unboundUniforms, scene⟩
  let state := frame.run compiled.description.commands device
  (state.report, state.device)

end CompiledPipeline

end FramePlan
