import FramePlan.Device

/-!
# A device that records

The recorder appends every call to a log, whether it succeeds or not, and draws nothing. What it hands
out carries a number; numbers count up over all kinds, and only successful creations use one up.
Shaders are compiled for their interface, and a draw needs bound shaders and a bound target, so that
pipelines are compiled and drawn just as they are on a device that draws.

`Recorder` is the engine's `RecordingDevice`, and `DeviceCall` the type of its log.
-/

namespace FramePlan

open Shader (ProgramStage Interface)

structure RecordedImage where
  id : Nat
  descriptor : ImageDescriptor
deriving DecidableEq, Repr

/-- A view for color or depth, with the number of its image. -/
structure RecordedView where
  id : Nat
  image : Nat
deriving DecidableEq, Repr

structure RecordedSampler where
  id : Nat
  descriptor : SamplerDescriptor
deriving DecidableEq, Repr

structure RecordedShader where
  id : Nat
  stage : ProgramStage
deriving DecidableEq, Repr

structure RecordedInputLayout where
  id : Nat
  attributes : List VertexAttribute
deriving DecidableEq, Repr

structure RecordedBuffer where
  id : Nat
  contents : List UInt8
deriving DecidableEq, Repr

/-- A recorded call. What it refers to is given by number. -/
inductive DeviceCall where
  | createImage (descriptor : ImageDescriptor)
  | createRenderView (image : Nat)
  | createDepthView (image : Nat)
  | createSampler (descriptor : SamplerDescriptor)
  | compileShader (stage : ProgramStage) (entryPoint profile : String)
  | createInputLayout (shader : Nat) (attributes : List VertexAttribute)
  | createVertexBuffer (length : Nat)
  | setShaders (vertex fragment layout : Nat)
  | setRenderTargets (color depth : Option Nat)
  | setViewport (viewport : Viewport)
  | setRasterState (context : RasterContext)
  | setAccumulationState (context : AccumulationContext)
  | setTexture (textureUnit : UInt32) (image sampler : Nat)
  | setSamplerUniform (slot : SamplerSlot) (textureUnit : UInt32)
  | setUniform (slot : ResourceSlot) (value : Value)
  | setVertexStream (location buffer offset : Nat) (format : VertexFormat) (stepMode : StepMode)
  | clearRenderView (view : Nat) (color : Vector Single 4)
  | clearDepthStencilView (view : Nat) (depth : Option Single) (stencil : Option UInt32)
  | draw (primitive : Primitive) (vertexCount : UInt32)
deriving DecidableEq, Repr

structure Recorder where
  backend : Backend
  /-- The greatest side of an image. -/
  greatestSide : UInt32 := 8192
  /-- The number of the next thing that is created. -/
  nextId : Nat := 0
  shadersBound : Bool := false
  targetsBound : Bool := false
  /-- The calls so far, oldest first. -/
  calls : Array DeviceCall := #[]
deriving DecidableEq, Repr

namespace Recorder

/-- The handles of a recorder. -/
@[reducible]
def handles : Handles where
  Image := RecordedImage
  RenderView := RecordedView
  DepthView := RecordedView
  Sampler := RecordedSampler
  Shader := RecordedShader
  InputLayout := RecordedInputLayout
  Buffer := RecordedBuffer

def record (recorder : Recorder) (call : DeviceCall) : Recorder :=
  { recorder with calls := recorder.calls.push call }

/-- Records a call that creates something; unless it fails, what is created takes the next number. -/
def create {α : Type} (call : DeviceCall) (result : Except DeviceError (Nat → α)) :
    Attempt Recorder DeviceError α := fun recorder =>
  let recorder := recorder.record call
  match result with
  | .ok make => (.ok (make recorder.nextId), { recorder with nextId := recorder.nextId + 1 })
  | .error error => (.error error, recorder)

/-- Why an image cannot be created, if it cannot. -/
def imageFault? (greatestSide : UInt32) (descriptor : ImageDescriptor) : Option CreationFault :=
  if !descriptor.fits greatestSide then
    some (.imageSize descriptor.width descriptor.height greatestSide)
  else if !descriptor.hasRoom then
    some (.mipLevels descriptor.mipLevels descriptor.width descriptor.height)
  else none

def createImage (descriptor : ImageDescriptor) : Attempt Recorder DeviceError RecordedImage :=
  fun recorder =>
    create (.createImage descriptor)
      (match imageFault? recorder.greatestSide descriptor with
        | some fault => .error (.resourceCreation fault)
        | none => .ok (⟨·, descriptor⟩)) recorder

def compileShader (stage : ProgramStage) (source entryPoint profile : String) :
    Attempt Recorder DeviceError (CompiledShader RecordedShader) :=
  create (.compileShader stage entryPoint profile)
    (match Interface.ofSource source stage entryPoint with
      | .ok interface => .ok (⟨⟨·, stage⟩, interface⟩)
      | .error fault => .error (.ofStageFault stage entryPoint fault))

def setShaders (vertex fragment : RecordedShader) (layout : RecordedInputLayout)
    (recorder : Recorder) : Recorder :=
  { recorder.record (.setShaders vertex.id fragment.id layout.id) with shadersBound := true }

def setRenderTargets (color depth : Option RecordedView) (recorder : Recorder) : Recorder :=
  { recorder.record (.setRenderTargets (color.map (·.id)) (depth.map (·.id))) with
    targetsBound := color.isSome || depth.isSome }

/-- What a draw is lacking; shaders count before the target. -/
def missingState? (recorder : Recorder) : Option MissingState :=
  if !recorder.shadersBound then some .shaders
  else if !recorder.targetsBound then some .renderTarget
  else none

def draw (primitive : Primitive) (vertexCount : UInt32) : Attempt Recorder DeviceError Unit :=
  fun recorder =>
    (match recorder.missingState? with
      | some missing => .error (.incompleteState missing)
      | none => .ok (), recorder.record (.draw primitive vertexCount))

instance : Device Recorder handles where
  backend := backend
  createImage := createImage
  createRenderView image := create (.createRenderView image.id) (.ok (⟨·, image.id⟩))
  createDepthView image := create (.createDepthView image.id) (.ok (⟨·, image.id⟩))
  createSampler descriptor := create (.createSampler descriptor) (.ok (⟨·, descriptor⟩))
  compileShader := compileShader
  createInputLayout shader attributes :=
    create (.createInputLayout shader.id attributes) (.ok (⟨·, attributes⟩))
  createVertexBuffer contents :=
    create (.createVertexBuffer contents.length) (.ok (⟨·, contents⟩))
  setShaders := setShaders
  setRenderTargets := setRenderTargets
  setViewport viewport recorder := recorder.record (.setViewport viewport)
  setRasterState context recorder := recorder.record (.setRasterState context)
  setAccumulationState context recorder := recorder.record (.setAccumulationState context)
  setTexture textureUnit image sampler recorder :=
    recorder.record (.setTexture textureUnit image.id sampler.id)
  setSamplerUniform slot textureUnit recorder :=
    recorder.record (.setSamplerUniform slot textureUnit)
  setUniform slot value recorder := recorder.record (.setUniform slot value)
  setVertexStream location stream recorder :=
    recorder.record (.setVertexStream location stream.buffer.id stream.offset stream.format
      stream.stepMode)
  clearRenderView view color recorder := recorder.record (.clearRenderView view.id color)
  clearDepthStencilView view depth stencil recorder :=
    recorder.record (.clearDepthStencilView view.id depth stencil)
  draw := draw

end Recorder

end FramePlan
