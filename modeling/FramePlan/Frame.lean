import FramePlan.Binding

/-!
# Running a frame

A frame runs the commands of a pipeline in order against its compiled resources. A command that has
nothing to work on is skipped and counted. What cannot be bound or drawn is reported, and the frame
carries on.

The state of a run is the device, what the frame has bound so far, and the report. What the device
answers ends up in the report and nowhere else.

`Frame.run` is the interpreter's `execute`, and `Frame.step` its `dispatch`. `ClearRequest`,
`Cursor` and `FrameReport` are its types of these names, and `renderSlot`, `renderStream` and `draw`
its `render_slot`, `render_stream` and `draw`.
-/

namespace FramePlan

variable {State : Type} {handles : Handles}

inductive RenderError where
  | binding (error : BindingError)
  | device (error : DeviceError)
deriving DecidableEq, Repr

def RenderError.message : RenderError → String
  | .binding error => error.message
  | .device error => s!"draw submission failed: {error.message}"

/-- What came of a frame. -/
structure FrameReport where
  drawCalls : Nat := 0
  skippedCommands : Nat := 0
  /-- The errors, oldest first. -/
  errors : List RenderError := []
deriving DecidableEq, Repr

namespace FrameReport

def isClean (report : FrameReport) : Bool := report.errors.isEmpty

/-- The report with one more error. -/
def withError (report : FrameReport) (error : RenderError) : FrameReport :=
  { report with errors := report.errors ++ [error] }

/-- The report with one more skipped command. -/
def withSkip (report : FrameReport) : FrameReport :=
  { report with skippedCommands := report.skippedCommands + 1 }

/-- The report with one more draw. -/
def withDraw (report : FrameReport) : FrameReport := { report with drawCalls := report.drawCalls + 1 }

end FrameReport

/-- What a clear command asks for, merged over its images. -/
structure ClearRequest where
  color : Option (Vector Single 4) := none
  depth : Option Single := none
  stencil : Option UInt32 := none
deriving DecidableEq, Repr

namespace ClearRequest

/-- The color that partial colors are written over. -/
def black : Vector Single 4 := #v[.zero, .zero, .zero, .one]

/-- The leading channels of a color replaced by those of another one. -/
def overwrite (color : Vector Single 4) {count : Nat} (channels : Vector Single count) :
    Vector Single 4 :=
  Vector.ofFn fun channel => channels[channel.val]?.getD (color.get channel)

/-- The request with one more image. A value that does not suit its semantic changes nothing. -/
def add (request : ClearRequest) (image : ClearImage) : ClearRequest :=
  match image.semantic, image.value with
  | .color, .floats _ channels =>
    { request with color := some (overwrite (request.color.getD black) channels) }
  | .depth, .floats .one depth => { request with depth := some (only depth) }
  | .stencil, .words .one stencil => { request with stencil := some (only stencil) }
  | .stencil, .ints .one stencil =>
    if (0 : Int32) ≤ only stencil then
      { request with stencil := some (only stencil).toUInt32 }
    else request
  | _, _ => request

def ofImages (images : List ClearImage) : ClearRequest := images.foldl add {}

end ClearRequest

/-- What a frame has bound so far. -/
structure Cursor where
  program : Option Nat := none
  target : Option Nat := none
  viewport : Option Viewport := none
deriving DecidableEq, Repr

structure FrameState (State : Type) where
  device : State
  cursor : Cursor := {}
  report : FrameReport := {}

namespace FrameState

def call (state : FrameState State) (step : State → State) : FrameState State :=
  { state with device := step state.device }

def skip (state : FrameState State) : FrameState State :=
  { state with report := state.report.withSkip }

def fail (state : FrameState State) (error : RenderError) : FrameState State :=
  { state with report := state.report.withError error }

end FrameState

/-- What a frame runs against. -/
structure Frame (handles : Handles) where
  resources : Resources handles
  slots : List Slot
  policy : UnboundUniformPolicy
  scene : Option (Scene handles.Buffer)

/-- Something that is drawn in one call: an object of the scene, or stream data. -/
structure Drawable (Handle : Type) where
  object : Option (Object Handle)
  streams : Streams Handle
  primitive : Primitive
  vertexCount : UInt32

namespace Drawable

variable {Handle : Type}

def ofObject (object : Object Handle) : Drawable Handle :=
  ⟨some object, object.streams, object.primitive, object.vertexCount⟩

def ofStreams {handles : Handles} (data : CompiledStreams handles) : Drawable handles.Buffer :=
  ⟨none, data.streams, data.primitive, data.vertexCount⟩

end Drawable

/-- The objects that are drawn of a group: the enabled ones in ascending order; objects with one
order keep their places. -/
def drawnObjects {Handle : Type} (objects : List (Object Handle)) : List (Object Handle) :=
  (objects.filter (·.enabled)).mergeSort fun first second => first.order ≤ second.order

namespace Frame

variable [Device State handles]

def boundProgram? (frame : Frame handles) (cursor : Cursor) : Option (CompiledProgram handles) :=
  cursor.program.bind fun index => frame.resources.programs[index]?

def boundTarget? (frame : Frame handles) (cursor : Cursor) : Option (CompiledTarget handles) :=
  cursor.target.bind fun index => frame.resources.targets[index]?

/-- Submits one uniform, or reports why it has no value. -/
def submitUniform (frame : Frame handles) (scene : Scene handles.Buffer)
    (object : Option (Object handles.Buffer)) (state : FrameState State)
    (entry : String × UniformSlot) : FrameState State :=
  match uniformValue entry.1 entry.2 object scene frame.policy with
  | .ok value => state.call (Device.setUniform entry.2.slot value)
  | .error error => state.fail (.binding error)

/-- Binds streams to their locations, up to the first that cannot be bound. Returns whether all are
bound. -/
def bindStreams (streams : Streams handles.Buffer) :
    List StreamSlot → FrameState State → Bool × FrameState State
  | [], state => (true, state)
  | slot :: rest, state =>
    match streamBinding slot streams with
    | .ok binding => bindStreams streams rest (state.call (Device.setVertexStream slot.location binding))
    | .error error => (false, state.fail (.binding error))

def submitDraw (primitive : Primitive) (vertexCount : UInt32) (state : FrameState State) :
    FrameState State :=
  match Device.draw primitive vertexCount state.device with
  | (.ok (), device) => { state with device, report := state.report.withDraw }
  | (.error error, device) => { state with device, report := state.report.withError (.device error) }

/-- Submits the uniforms and streams of a drawable, then draws it. Without a uniform it is drawn all
the same, without a stream it is not drawn. -/
def draw (frame : Frame handles) (program : CompiledProgram handles)
    (scene : Scene handles.Buffer) (state : FrameState State)
    (drawable : Drawable handles.Buffer) : FrameState State :=
  let state := program.uniforms.entries.foldl
    (frame.submitUniform scene drawable.object) state
  match bindStreams drawable.streams program.streams.values state with
  | (true, state) => submitDraw drawable.primitive drawable.vertexCount state
  | (false, state) => state

/-- Binds the views of a target and maps draws to the screen. Without a scene the viewport stays as
it is. -/
def bindTarget (frame : Frame handles) (index : Nat) (target : CompiledTarget handles)
    (state : FrameState State) : FrameState State :=
  let state := { state with cursor := { state.cursor with target := some index } }
  let state := state.call (Device.setRenderTargets target.color target.depth)
  match frame.scene with
  | none => state
  | some scene =>
    let viewport : Viewport := ⟨0, 0, scene.screenWidth, scene.screenHeight⟩
    let state := { state with cursor := { state.cursor with viewport := some viewport } }
    state.call (Device.setViewport viewport)

/-- Clears the color of a target, if that is asked for and there. -/
def clearColor (target : CompiledTarget handles) (request : ClearRequest)
    (state : FrameState State) : FrameState State :=
  match request.color, target.color with
  | some color, some view => state.call (Device.clearRenderView view color)
  | _, _ => state

/-- Clears depth and stencil of a target together, if either is asked for and they are there. -/
def clearDepthStencil (target : CompiledTarget handles) (request : ClearRequest)
    (state : FrameState State) : FrameState State :=
  match target.depth with
  | some view =>
    if request.depth.isSome || request.stencil.isSome then
      state.call (Device.clearDepthStencilView view request.depth request.stencil)
    else state
  | none => state

def renderSlot (frame : Frame handles) (slot : Nat) (state : FrameState State) :
    FrameState State :=
  match frame.boundProgram? state.cursor, frame.scene with
  | some program, some scene =>
    match frame.slots[slot]?.bind fun slot => scene.objects.get? slot.name with
    | none => state.skip
    | some objects =>
      ((drawnObjects objects).map Drawable.ofObject).foldl (frame.draw program scene) state
  | _, _ => state.skip

def renderStream (frame : Frame handles) (stream : Nat) (state : FrameState State) :
    FrameState State :=
  match frame.boundProgram? state.cursor, frame.scene with
  | some program, some scene =>
    match frame.resources.streams[stream]? with
    | none => state.skip
    | some data => frame.draw program scene state (.ofStreams data)
  | _, _ => state.skip

def step (frame : Frame handles) (state : FrameState State) : Command → FrameState State
  | .setRasterContext context => state.call (Device.setRasterState context)
  | .setAccumulationContext context => state.call (Device.setAccumulationState context)
  | .setTexture textureUnit index =>
    match frame.resources.textures[index]? with
    | some texture => state.call (Device.setTexture textureUnit texture.image texture.sampler)
    | none => state.skip
  | .setProgram index =>
    match frame.resources.programs[index]? with
    | some program =>
      let state := { state with cursor := { state.cursor with program := some index } }
      state.call (Device.setShaders program.vertex program.fragment program.inputLayout)
    | none => state.skip
  | .setRenderTarget index =>
    match frame.resources.targets[index]? with
    | some target => frame.bindTarget index target state
    | none => state.skip
  | .clearRenderTarget images =>
    match frame.boundTarget? state.cursor with
    | some target =>
      let request := ClearRequest.ofImages images
      clearDepthStencil target request (clearColor target request state)
    | none => state.skip
  | .setSamplerUniform name textureUnit =>
    match frame.boundProgram? state.cursor with
    | some program =>
      match samplerSlot name program with
      | .ok slot => state.call (Device.setSamplerUniform slot textureUnit)
      | .error error => state.fail (.binding error)
    | none => state.skip
  | .renderSlot slot => frame.renderSlot slot state
  | .renderStream stream => frame.renderStream stream state

/-- Runs commands in order. -/
def run (frame : Frame handles) (commands : List Command) (device : State) : FrameState State :=
  commands.foldl frame.step { device }

end Frame

end FramePlan
