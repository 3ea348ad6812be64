import FramePlan.Device

/-!
# Render state of a GPU

What the contexts of a pipeline mean for a GPU. Lines and points are always one pixel wide, depth
images have no stencil, and of several operations of one kind the last one counts.

* `RasterState.ofContext` and `AccumulationState.ofContext` give the state of a draw.
* `Filter.modes` splits a filter into the filter inside a level and the one between levels.
* `Value.packed` lays a uniform out as shaders expect it.

They are `raster_state`, `accumulation_state`, `filter_modes`, `address_mode`, `primitive_topology`,
`vertex_range` and `uniform_bytes` of the engine's `WgpuDevice`.
-/

namespace FramePlan

inductive Face where
  | front
  | back
deriving DecidableEq, Repr

def Face.name : Face → String
  | .front => "Front"
  | .back => "Back"

inductive FillMode where
  | fill
  | line
  | point
deriving DecidableEq, Repr

def FillMode.name : FillMode → String
  | .fill => "Fill"
  | .line => "Line"
  | .point => "Point"

/-- The face that is dropped. -/
def CullMode.face? : CullMode → Option Face
  | .noCull => none
  | .cullFront => some .front
  | .cullBack => some .back

/-- The mode without the size. -/
def PolygonMode.fillMode : PolygonMode → FillMode
  | .fill => .fill
  | .line _ => .line
  | .point _ => .point

/-- An offset added to depth: a constant, and a multiple of the slope, up to a limit if that is not
zero. -/
structure DepthBias where
  constant : Int32 := 0
  slopeScale : Single := .zero
  clamp : Single := .zero
deriving DecidableEq, Repr

/-- The units become an integer, cut off and kept in range. -/
def PolygonOffset.bias : PolygonOffset → DepthBias
  | .noOffset => {}
  | .offset factor units => { constant := units.toInt32, slopeScale := factor }

structure RasterState where
  frontFace : FrontFace := .ccw
  culled : Option Face := none
  fillMode : FillMode := .fill
  bias : DepthBias := {}
deriving DecidableEq, Repr

/-- Only contexts for triangles change the defaults. -/
def RasterState.ofContext : RasterContext → RasterState
  | .point _ | .line _ => {}
  | .triangle cullMode polygonMode polygonOffset frontFace =>
    { frontFace
      culled := cullMode.face?
      fillMode := polygonMode.fillMode
      bias := polygonOffset.bias }

def ComparisonFunction.gpuName : ComparisonFunction → String
  | .never => "Never"
  | .less => "Less"
  | .equal => "Equal"
  | .lequal => "LessEqual"
  | .greater => "Greater"
  | .notequal => "NotEqual"
  | .gequal => "GreaterEqual"
  | .always => "Always"

def BlendingFactor.gpuName : BlendingFactor → String
  | .zero => "Zero"
  | .one => "One"
  | .srcColor => "Src"
  | .oneMinusSrcColor => "OneMinusSrc"
  | .dstColor => "Dst"
  | .oneMinusDstColor => "OneMinusDst"
  | .srcAlpha => "SrcAlpha"
  | .oneMinusSrcAlpha => "OneMinusSrcAlpha"
  | .dstAlpha => "DstAlpha"
  | .oneMinusDstAlpha => "OneMinusDstAlpha"
  | .constantColor => "Constant"
  | .oneMinusConstantColor => "OneMinusConstant"
  | .srcAlphaSaturate => "SrcAlphaSaturated"

def BlendEquation.gpuName : BlendEquation → String
  | .funcAdd => "Add"
  | .funcSubtract => "Subtract"
  | .funcReverseSubtract => "ReverseSubtract"
  | .min => "Min"
  | .max => "Max"

structure BlendState where
  color : BlendComponent
  alpha : BlendComponent
deriving DecidableEq, Repr

/-- The blending of a draw; a target that cannot be blended is written as without blending. -/
def Blending.state? (blendable : Bool) : Blending → Option BlendState
  | .noBlending => none
  | .blend color alpha => if blendable then some ⟨color, alpha⟩ else none

structure AccumulationState where
  depthCompare : ComparisonFunction := .always
  depthWrite : Bool := false
  blend : Option BlendState := none
  /-- Whether red, green, blue and alpha are written. -/
  writeMask : Vector Bool 4 := #v[true, true, true, true]
deriving DecidableEq, Repr

namespace AccumulationState

/-- The state after one more operation. -/
def apply (blendable : Bool) (state : AccumulationState) : FragmentOperation → AccumulationState
  | .depth function write => { state with depthCompare := function, depthWrite := write }
  | .stencil _ _ _ => state
  | .color blending mask => { state with blend := blending.state? blendable, writeMask := mask }

def ofContext (blendable : Bool) (context : AccumulationContext) : AccumulationState :=
  context.operations.foldl (apply blendable) {}

/-- The written channels as bits, red the lowest. -/
def writeBits (state : AccumulationState) : Nat :=
  state.writeMask.toList.zipIdx.foldl
    (fun bits (enabled, bit) => if enabled then bits + 1 <<< bit else bits) 0

end AccumulationState

inductive TexelFilter where
  | nearest
  | linear
deriving DecidableEq, Repr

def TexelFilter.name : TexelFilter → String
  | .nearest => "Nearest"
  | .linear => "Linear"

/-- The filter inside a mip level and the filter between levels. -/
def Filter.modes : Filter → TexelFilter × TexelFilter
  | .nearest | .nearestMipmapNearest => (.nearest, .nearest)
  | .linear | .linearMipmapNearest => (.linear, .nearest)
  | .nearestMipmapLinear => (.nearest, .linear)
  | .linearMipmapLinear => (.linear, .linear)

namespace EdgeMode

/-- The mode that is used for another one: without borders, the edge replaces them. -/
def supported (hasBorders : Bool) : EdgeMode → EdgeMode
  | .clampToBorder => if hasBorders then .clampToBorder else .clampToEdge
  | mode => mode

def gpuName : EdgeMode → String
  | .repeating => "Repeat"
  | .mirroredRepeat => "MirrorRepeat"
  | .clampToEdge => "ClampToEdge"
  | .clampToBorder => "ClampToBorder"

end EdgeMode

/-- Whether a GPU assembles a primitive itself. -/
def Primitive.isSupported : Primitive → Bool
  | .triangleFan | .lineLoop => false
  | _ => true

/-- The bytes from an offset to the end of a buffer, unless none are left. -/
def byteRange? (offset size : Nat) : Option (Nat × Nat) :=
  if offset < size then some (offset, size) else none

namespace Value

/-- A column of a matrix as words; a column of three is filled up to four. -/
def columnWords {count : Nat} (column : Vector Single count) : List UInt32 :=
  column.toList.map Single.bits ++ if count = 3 then [0] else []

/-- A value as words, with columns of three filled up to four. -/
def packedWords : Value → List UInt32
  | .bools _ components => components.toList.map boolWord
  | .words _ components => components.toList
  | .ints _ components => components.toList.map Int32.toUInt32
  | .floats _ components => components.toList.map Single.bits
  | .matrix _ columns => columns.toList.flatMap columnWords

/-- The bytes of a value in a uniform buffer. -/
def packed (value : Value) : List UInt8 := value.packedWords.flatMap littleEndian

end Value

end FramePlan
