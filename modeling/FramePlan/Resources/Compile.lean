import FramePlan.Config
import FramePlan.Resources
import FramePlan.Resources.Error

/-!
# Compiling resources

How a device makes the resources of a pipeline: the back buffer first, then textures, targets,
programs and stream data, each list in order. The first failure ends the compilation, and nothing
later is asked of the device.

`compileTexture`, `compileTarget`, `compileProgram` and `compileStreams` are the compiler's
`compile_texture`, `compile_target`, `compile_program` and `compile_stream_data`;
`Resources.compile` and `BackBuffer.create` are `new` of `PipelineState` and of `BackBuffer`.
-/

namespace FramePlan

open Shader (Interface UniformInfo)

variable {State : Type} {handles : Handles} [Device State handles]

/-- Makes the surfaces for a screen size: depth before color. -/
def BackBuffer.create (width height : UInt32) : Attempt State DeviceError (BackBuffer handles) := do
  let depthImage ← Device.createImage ⟨width, height, 1, .depth, .depthStencil⟩
  let depthView ← Device.createDepthView depthImage
  let colorImage ← Device.createImage ⟨width, height, 1, .color, .renderTarget⟩
  let colorView ← Device.createRenderView colorImage
  return { width, height, depthImage, depthView, colorImage, colorView }

namespace ImageSemantic

/-- The format of the images of a semantic: whatever is not color is depth. -/
def format : ImageSemantic → ImageFormat
  | .color => .color
  | .depth | .stencil => .depth

def usage : ImageSemantic → ImageUsage
  | .color => .renderTarget
  | .depth | .stencil => .depthStencil

end ImageSemantic

def TextureDescriptor.image (descriptor : TextureDescriptor) : ImageDescriptor where
  width := descriptor.width
  height := descriptor.height
  mipLevels := descriptor.mipLevelCount
  format := descriptor.semantic.format
  usage := descriptor.semantic.usage

/-- Makes the image of a texture, then its sampler. -/
def compileTexture (descriptor : TextureDescriptor) :
    Attempt State DeviceError (CompiledTexture handles) := do
  let image ← Device.createImage descriptor.image
  let sampler ← Device.createSampler descriptor.sampler
  return {
    image, sampler
    semantic := descriptor.semantic
    width := descriptor.width
    height := descriptor.height
    mipLevels := descriptor.mipLevelCount }

/-- The texture that an item refers to; nothing stands for the back buffer. -/
def itemTexture (textures : List (CompiledTexture handles)) (item : TargetItem) :
    Except DeviceError (Option (CompiledTexture handles)) :=
  match item.textureIndex? with
  | none => .ok none
  | some index =>
    match textures[index]? with
    | some texture => .ok (some texture)
    | none => .error (.resourceCreation (.missingTexture index))

/-- Adds an item to a target: a new view of its texture, or the view of the back buffer. It replaces
what an earlier item for the same attachment gave. -/
def addItem (textures : List (CompiledTexture handles)) (backBuffer : BackBuffer handles)
    (target : CompiledTarget handles) (item : TargetItem) :
    Attempt State DeviceError (CompiledTarget handles) := do
  match item.semantic, ← itemTexture textures item with
  | .color, some texture =>
    let view ← Device.createRenderView texture.image
    return { target with color := some view }
  | .depth, some texture | .stencil, some texture =>
    let view ← Device.createDepthView texture.image
    return { target with depth := some view }
  | .color, none => return { target with color := some backBuffer.colorView }
  | .depth, none | .stencil, none => return { target with depth := some backBuffer.depthView }

/-- Makes the views of a target, item by item. -/
def compileTarget (textures : List (CompiledTexture handles)) (backBuffer : BackBuffer handles)
    (descriptor : RenderTarget) : Attempt State DeviceError (CompiledTarget handles) :=
  descriptor.items.foldlM (addItem textures backBuffer) {}

/-- The attributes of an input layout: the inputs that a format feeds, by location. -/
def inputAttributes (interface : Interface) : List VertexAttribute :=
  let attributes := interface.inputs.entries.filterMap fun (name, input) =>
    input.format.map (⟨name, input.location, ·⟩)
  attributes.mergeSort fun first second => first.location ≤ second.location

/-- The type as which values are written: shaders have no truth values in buffers. -/
def InputType.written : InputType → InputType
  | .vector .bool width => .vector .word width
  | type => type

/-- The entry for a name in the first of two stages that has one. -/
def ofStages {α : Type} (lookup : Interface → Option α) (vertex fragment : Interface) : Option α :=
  (lookup vertex).or (lookup fragment)

/-- The slots of the declared uniforms that the stages expose with the declared type. -/
def uniformSlots (declared : Table String InputType) (vertex fragment : Interface) :
    Table String UniformSlot :=
  declared.filterMap fun name type =>
    match ofStages (·.uniforms.get? name) vertex fragment with
    | some info => if info.type = some type.written then some ⟨info.slot, type⟩ else none
    | none => none

/-- The slots of the declared textures that the stages expose. A sampler belongs to the texture
whose name it extends. -/
def samplerSlots (declared : Table String InputType) (vertex fragment : Interface) :
    Table String SamplerSlot :=
  declared.filterMap fun name _ =>
    (ofStages (·.textures.get? name) vertex fragment).map fun texture =>
      ⟨texture, ofStages (·.samplers.get? (name ++ "_sampler")) vertex fragment⟩

/-- The declared streams that feed inputs of the vertex stage in the format of the declared type. -/
def streamSlots (declared : Table String Parameter) (vertex : Interface) :
    Table String StreamSlot :=
  declared.filterMap fun name parameter =>
    match vertex.inputs.get? name with
    | some input =>
      if input.format.isSome ∧ VertexFormat.ofInputType? parameter.type = input.format then
        some ⟨parameter.name, input.location, parameter.type⟩
      else none
    | none => none

/-- Compiles both stages of a program, the vertex stage first, and finds the places of what the
program declares. Declarations that the stages do not expose are left out. -/
def compileProgram (config : Config) (descriptor : Program) :
    Attempt State DeviceError (CompiledProgram handles) := do
  let vertex ← Device.compileShader .vertex descriptor.vertexShader config.vertexEntryPoint
    config.vertexProfile
  let fragment ← Device.compileShader .fragment descriptor.fragmentShader
    config.fragmentEntryPoint config.fragmentProfile
  let inputLayout ← Device.createInputLayout vertex.handle (inputAttributes vertex.interface)
  return {
    vertex := vertex.handle
    fragment := fragment.handle
    inputLayout
    uniforms := uniformSlots descriptor.uniforms vertex.interface fragment.interface
    samplers := samplerSlots descriptor.textures vertex.interface fragment.interface
    streams := streamSlots descriptor.streams vertex.interface }

/-- The streams of stream data in a buffer that holds its arrays in the order of their names. An
array without a declared type holds scalars. -/
def dataStreams {Handle : Type} (descriptor : StreamData) (buffer : Buffer Handle) :
    Streams Handle :=
  descriptor.arrays.mapIdx fun index name array =>
    ⟨(descriptor.types.get? name).getD (.vector array.kind .one), buffer, index, true⟩

def shortestLength {Handle : Type} (streams : Streams Handle) : Nat :=
  (streams.values.map Stream.length).min?.getD 0

def compileStreams (primitive : Primitive) (descriptor : StreamData) :
    Attempt State DeviceError (CompiledStreams handles) := do
  let buffer ← Buffer.create descriptor.arrays.values
  let streams := dataStreams descriptor buffer
  return ⟨streams, primitive, (shortestLength streams).toUInt32⟩

/-- Compiles a program of a pipeline; one with a geometry stage is refused beforehand. -/
def compileProgramAt (config : Config) (descriptor : Program) (index : Nat) :
    Attempt State CompileError (CompiledProgram handles) :=
  if descriptor.geometryShader.isSome then throw (.unsupportedGeometryStage index)
  else (compileProgram config descriptor).adapt (.program index)

/-- Compiles stream data of a pipeline; data with adjacency is refused beforehand. -/
def compileStreamsAt (descriptor : StreamData) (index : Nat) :
    Attempt State CompileError (CompiledStreams handles) :=
  match descriptor.primitive.primitive? with
  | none => throw (.unsupportedFetchPrimitive index descriptor.primitive)
  | some primitive => (compileStreams primitive descriptor).adapt (.stream index)

/-- Makes everything that a pipeline needs, for a screen size. -/
def Resources.compile (pipeline : Pipeline) (width height : UInt32) (config : Config) :
    Attempt State CompileError (Resources handles) := do
  let backBuffer ← (BackBuffer.create width height).adapt .backBuffer
  let textures ← pipeline.textures.zipIdx.mapM fun (descriptor, index) =>
    (compileTexture descriptor).adapt (CompileError.texture index)
  let targets ← pipeline.targets.zipIdx.mapM fun (descriptor, index) =>
    (compileTarget textures backBuffer descriptor).adapt (CompileError.target index)
  let programs ← pipeline.programs.zipIdx.mapM fun (descriptor, index) =>
    compileProgramAt config descriptor index
  let streams ← pipeline.streams.zipIdx.mapM fun (descriptor, index) =>
    compileStreamsAt descriptor index
  return { backBuffer, textures, targets, programs, streams }

end FramePlan
