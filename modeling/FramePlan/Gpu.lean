import FramePlan.Device.RenderState
import FramePlan.Shader.Demand

/-!
# A GPU

A device that keeps what is bound and turns every clear and every draw into a pass of its own. It has
the limits that every such device has, and up to four abilities beyond them.

This module has the handles of the device, what is bound, and how it creates and binds; how it draws is
in `FramePlan.Gpu.Draw`.

`Gpu` is the engine's `WgpuDevice` with the part of `wgpu` behind it that accepts or refuses calls,
for a device with the limits that `wgpu` guarantees. What proofs about draws take from it is stated
as laws: `Device.Reflects`, `Device.Retains` and `DrawCall.LawfulRules`.
-/

namespace FramePlan

open Shader (ProgramStage Interface Demand CompiledStage)

/-- The abilities that not every device has. -/
structure GpuFeatures where
  /-- Textures of floats can be filtered. -/
  filterableFloats : Bool := false
  /-- Triangles can be drawn as lines. -/
  polygonLines : Bool := false
  /-- Triangles can be drawn as points. -/
  polygonPoints : Bool := false
  /-- Samplers can have a border. -/
  borders : Bool := false
deriving DecidableEq, Repr

/-- An image, with the number of its allocation. -/
structure GpuImage where
  id : Nat
  width : UInt32
  height : UInt32
  mipLevels : UInt32
  format : ImageFormat
deriving DecidableEq, Repr

/-- The first level of an image. -/
structure GpuView where
  image : Nat
  width : UInt32
  height : UInt32
deriving DecidableEq, Repr

/-- The first level of an image. -/
def GpuImage.view (image : GpuImage) : GpuView := ⟨image.id, image.width, image.height⟩

inductive SamplerBinding where
  | filtering
  | nonFiltering
  | comparison
deriving DecidableEq, Repr

def SamplerBinding.name : SamplerBinding → String
  | .filtering => "Filtering"
  | .nonFiltering => "NonFiltering"
  | .comparison => "Comparison"

structure GpuSampler where
  binding : SamplerBinding
deriving DecidableEq, Repr

/-- A compiled stage with what it exposes and what it asks for. -/
structure GpuShader where
  entryPoint : String
  interface : Interface
  demand : Demand
deriving DecidableEq

structure GpuInputLayout where
  attributes : List VertexAttribute
deriving DecidableEq, Repr

/-- A vertex buffer, of which only the size matters. -/
structure GpuBuffer where
  size : Nat
deriving DecidableEq, Repr

/-- An image bound to a texture unit, with its sampler. -/
structure BoundTexture where
  image : GpuImage
  sampler : GpuSampler
deriving DecidableEq, Repr

/-- The shaders of a draw and the layout of its inputs. -/
structure BoundProgram where
  vertex : GpuShader
  fragment : GpuShader
  layout : GpuInputLayout
deriving DecidableEq

structure BoundState where
  program : Option BoundProgram := none
  color : Option GpuView := none
  depth : Option GpuView := none
  viewport : Option Viewport := none
  raster : RasterContext := .default
  accumulation : AccumulationContext := .default
  units : Table UInt32 BoundTexture := .empty
  /-- The units by the slots that are pointed at them. -/
  samplerUnits : Table ResourceSlot UInt32 := .empty
  uniforms : Table ResourceSlot (List UInt8) := .empty
  streams : Table Nat (StreamBinding GpuBuffer) := .empty

structure Gpu where
  features : GpuFeatures := {}
  /-- The number of the next image. -/
  nextImage : Nat := 0
  bound : BoundState := {}

namespace Gpu

/-- The handles of a GPU. -/
@[reducible]
def handles : Handles where
  Image := GpuImage
  RenderView := GpuView
  DepthView := GpuView
  Sampler := GpuSampler
  Shader := GpuShader
  InputLayout := GpuInputLayout
  Buffer := GpuBuffer

/-- The greatest side of an image. -/
def greatestSide : UInt32 := 8192

/-- The greatest number of vertex attributes. -/
def greatestAttributeCount : Nat := 16

/-- Creates an image that fits and has room for its levels. -/
def createImage (descriptor : ImageDescriptor) : Attempt Gpu DeviceError GpuImage := fun gpu =>
  if !descriptor.fits greatestSide then
    (.error (.resourceCreation (.imageSize descriptor.width descriptor.height greatestSide)), gpu)
  else if !descriptor.hasRoom then (.error (.validation .mipLevels), gpu)
  else
    (.ok ⟨gpu.nextImage, descriptor.width, descriptor.height, descriptor.mipLevels,
      descriptor.format⟩, { gpu with nextImage := gpu.nextImage + 1 })

def createRenderView (image : GpuImage) : Attempt Gpu DeviceError GpuView :=
  if image.format = .color then pure image.view
  else throw (.resourceCreation (.notRenderable image.format))

def createDepthView (image : GpuImage) : Attempt Gpu DeviceError GpuView :=
  if image.format = .depth then pure image.view
  else throw (.resourceCreation (.notDepth image.format))

/-- The filters of a sampler: magnification, minification and between levels. Where floats cannot be
filtered, the nearest texel is taken everywhere. -/
def samplerFilters (features : GpuFeatures) (descriptor : SamplerDescriptor) : List TexelFilter :=
  if features.filterableFloats then
    [descriptor.magFilter.modes.1, descriptor.minFilter.modes.1, descriptor.minFilter.modes.2]
  else [.nearest, .nearest, .nearest]

/-- What a sampler can be used for: one that compares for nothing else, and one that filters
anywhere for textures that can be filtered. -/
def samplerBinding (features : GpuFeatures) (descriptor : SamplerDescriptor) : SamplerBinding :=
  if descriptor.compareFunc.isSome then .comparison
  else if (samplerFilters features descriptor).contains .linear then .filtering
  else .nonFiltering

/-- The default of the greatest level of detail. -/
def lastLevel : Single := ⟨0x42000000⟩

/-- Whether the levels of detail are not negative and in order. -/
def hasLevelRange (descriptor : SamplerDescriptor) : Bool :=
  let low := descriptor.minLod.getD .zero
  let high := descriptor.maxLod.getD lastLevel
  !low.lt .zero && !high.lt low

def createSampler (descriptor : SamplerDescriptor) : Attempt Gpu DeviceError GpuSampler :=
  fun gpu =>
    if hasLevelRange descriptor then (.ok ⟨samplerBinding gpu.features descriptor⟩, gpu)
    else (.error (.validation .samplerRange), gpu)

/-- Compiles a stage. A source that needs abilities which no feature stands for is refused after it
has been found valid. -/
def compileShader (stage : ProgramStage) (source entryPoint _profile : String) :
    Attempt Gpu DeviceError (CompiledShader GpuShader) :=
  match CompiledStage.ofSource source stage entryPoint with
  | .error fault => throw (.ofStageFault stage entryPoint fault)
  | .ok compiled =>
    if compiled.module.isPlain then
      pure ⟨⟨entryPoint, compiled.interface, compiled.demand⟩, compiled.interface⟩
    else throw (.shaderCompilation stage)

def createInputLayout (_vertex : GpuShader) (attributes : List VertexAttribute) :
    Attempt Gpu DeviceError GpuInputLayout :=
  if attributes.length ≤ greatestAttributeCount then pure ⟨attributes⟩
  else throw (.resourceCreation (.attributeCount attributes.length greatestAttributeCount))

/-- Creates a buffer; its size is a multiple of four. -/
def createVertexBuffer (contents : List UInt8) : Attempt Gpu DeviceError GpuBuffer :=
  pure ⟨roundUp 4 contents.length⟩

def bind (change : BoundState → BoundState) (gpu : Gpu) : Gpu :=
  { gpu with bound := change gpu.bound }

/-- Points the slots of a texture and of its sampler at a unit. -/
def setSamplerUniform (slot : SamplerSlot) (textureUnit : UInt32) : Gpu → Gpu :=
  bind fun bound =>
    let units := bound.samplerUnits.insert slot.texture textureUnit
    { bound with samplerUnits :=
        match slot.sampler with
        | some sampler => units.insert sampler textureUnit
        | none => units }

end Gpu

end FramePlan
