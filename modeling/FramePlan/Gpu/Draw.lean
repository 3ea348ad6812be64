import FramePlan.Gpu.Rules

/-!
# Drawing on a GPU

A draw is put together from what is bound at that moment. It fails, in this order, for a primitive
that the device does not assemble, without shaders, without a target, for an attribute without
stream, for a texture or sampler without texture, and where it breaks a rule. A draw of no vertices
needs no more than shaders and a target.

The viewport is cut down to the target, so it never makes a draw fail.

`Gpu.draw` is `draw` of the engine's `WgpuDevice`, `BoundState.targetView?` and `Viewport.clip` its
use of `target_size`.
-/

namespace FramePlan

/-- The part of a target that a viewport covers; without a viewport it is the whole target. -/
def Viewport.clip (viewport : Option Viewport) (width height : UInt32) : Viewport :=
  let wanted := viewport.getD ⟨0, 0, width, height⟩
  let x := min wanted.x width
  let y := min wanted.y height
  ⟨x, y, min wanted.width (width - x), min wanted.height (height - y)⟩

/-- The view that gives a target its size: color before depth. -/
def BoundState.targetView? (bound : BoundState) : Option GpuView := bound.color.or bound.depth

/-- The stream that is bound for an attribute, of which at least a byte has to be left. -/
def BoundState.streamFor (bound : BoundState) (attr : VertexAttribute) :
    Except DeviceError (Nat × StreamBinding GpuBuffer) :=
  match bound.streams.get? attr.location with
  | none => .error (.unboundResource (.resource attr.name))
  | some stream =>
    match byteRange? stream.offset stream.buffer.size with
    | none => .error (.unboundResource (.emptyStream attr.name))
    | some _ => .ok (attr.location, stream)

namespace Gpu

/-- Puts a draw of at least one vertex together. -/
def assemble (features : GpuFeatures) (bound : BoundState) (program : BoundProgram)
    (target : GpuView) (vertexCount : UInt32) : Except DeviceError DrawCall := do
  let streams ← program.layout.attributes.mapM bound.streamFor
  let resources ← collect features bound program.vertex.interface program.fragment.interface
  return {
    features, program, streams, resources, vertexCount
    color := bound.color
    depth := bound.depth
    fillMode := (RasterState.ofContext bound.raster).fillMode
    area := Viewport.clip bound.viewport target.width target.height }

def drawBound (features : GpuFeatures) (bound : BoundState) (primitive : Primitive)
    (vertexCount : UInt32) : Except DeviceError Unit := do
  if !primitive.isSupported then throw (.unsupportedPrimitive primitive)
  match bound.program, bound.targetView? with
  | none, _ => throw (.incompleteState .shaders)
  | some _, none => throw (.incompleteState .renderTarget)
  | some program, some target =>
    if vertexCount != 0 then
      let call ← assemble features bound program target vertexCount
      match call.rejection? with
      | some rejection => throw (.validation rejection)
      | none => return ()

/-- Draws; nothing that is bound changes. -/
def draw (primitive : Primitive) (vertexCount : UInt32) : Attempt Gpu DeviceError Unit :=
  fun gpu => (drawBound gpu.features gpu.bound primitive vertexCount, gpu)

instance : Device Gpu handles where
  backend _ := .webGpu
  createImage := createImage
  createRenderView := createRenderView
  createDepthView := createDepthView
  createSampler := createSampler
  compileShader := compileShader
  createInputLayout := createInputLayout
  createVertexBuffer := createVertexBuffer
  setShaders vertex fragment layout :=
    bind fun bound => { bound with program := some ⟨vertex, fragment, layout⟩ }
  setRenderTargets color depth := bind fun bound => { bound with color, depth }
  setViewport viewport := bind fun bound => { bound with viewport := some viewport }
  setRasterState context := bind fun bound => { bound with raster := context }
  setAccumulationState context := bind fun bound => { bound with accumulation := context }
  setTexture textureUnit image sampler :=
    bind fun bound => { bound with units := bound.units.insert textureUnit ⟨image, sampler⟩ }
  setSamplerUniform := setSamplerUniform
  setUniform slot value :=
    bind fun bound => { bound with uniforms := bound.uniforms.insert slot value.packed }
  setVertexStream location stream :=
    bind fun bound => { bound with streams := bound.streams.insert location stream }
  clearRenderView _ _ := id
  clearDepthStencilView _ _ _ := id
  draw := draw

end Gpu

end FramePlan
