import FramePlan.Gpu.Collect

/-!
# What a GPU refuses to draw

A draw that has everything it needs can still break a rule of the device: too much is bound, a
resource has another shape than the stage declares, or a stream is too short. `DrawCall` gathers what
the rules depend on, and `DrawCall.rejection?` gives the first rule that is broken.

The rules stand for the validation of `wgpu`, which is not part of the engine. What proofs take from
them is stated as laws in `DrawCall.LawfulRules`, and `rejection?` is one instance.
-/

namespace FramePlan

open Shader (DataType Demand Dimension Interpolation StageValue ResourceShape SamplePoint ScalarType
  TextureClass)

/-- What a draw is made of once it has been put together. -/
structure DrawCall where
  features : GpuFeatures
  program : BoundProgram
  color : Option GpuView
  depth : Option GpuView
  fillMode : FillMode
  /-- The location of every attribute with the stream bound there. -/
  streams : List (Nat × StreamBinding GpuBuffer)
  resources : Gpu.Resources
  /-- The part of the target that is drawn to. -/
  area : Viewport
  vertexCount : UInt32

namespace GpuLimits

/-- The greatest number of vertex buffers. -/
def vertexBuffers : Nat := 8

/-- The greatest number of resource groups. -/
def groups : Nat := 4

/-- The bindings of a group are below this number. -/
def bindings : Nat := 1000

/-- The greatest number of uniform buffers. -/
def uniforms : Nat := 12

/-- The greatest number of textures. -/
def textures : Nat := 16

/-- The greatest number of samplers. -/
def samplers : Nat := 16

/-- The greatest size of a uniform buffer. -/
def uniformSize : Nat := 65536

/-- The greatest number of components between the stages. -/
def varyingComponents : Nat := 60

end GpuLimits

/-- The kind of numbers that a scalar is fed with. -/
def NumericKind.ofScalar? : ScalarType → Option NumericKind
  | .float => some .float
  | .int => some .int
  | .uint => some .word
  | _ => none

namespace DrawCall

def demands (call : DrawCall) : List Demand :=
  [call.program.vertex.demand, call.program.fragment.demand]

/-- The value among some that is bound to a location. -/
def stageValueAt? (stageValues : List StageValue) (location : Nat) : Option StageValue :=
  stageValues.find? fun stageValue =>
    match stageValue.varying with
    | .location index _ _ _ => index == location
    | .builtin _ => false

/-- The location of a value, if it has one. -/
def locationOf? (stageValue : StageValue) : Option Nat :=
  match stageValue.varying with
  | .location index _ _ _ => some index
  | .builtin _ => none

/-- The blending of a value and the place where it is taken. -/
def blendingOf (stageValue : StageValue) : Option Interpolation × Option SamplePoint :=
  match stageValue.varying with
  | .location _ interpolation point _ => (interpolation, point)
  | .builtin _ => (none, none)

/-- Whether numbers of one type fill those of another: both have one kind, and the second has as
many components at least. -/
def fits (wanted given : DataType) : Bool :=
  match wanted, given with
  | .scalar leaf, .scalar other => leaf == other
  | .scalar leaf, .vector _ other => leaf == other
  | .vector size leaf, .vector given other => leaf == other && size.size ≤ given.size
  | _, _ => false

/-- Whether an input of the vertex stage is fed with numbers of its kind. -/
def isFed (call : DrawCall) (stageValue : StageValue) : Bool :=
  match locationOf? stageValue with
  | none => true
  | some location =>
    match call.streams.lookup location with
    | none => false
    | some stream => stageValue.type.leaf?.bind NumericKind.ofScalar? == some stream.format.kind

/-- Whether an input of the fragment stage is given by the vertex stage. -/
def isGiven (call : DrawCall) (stageValue : StageValue) : Bool :=
  match locationOf? stageValue with
  | none => true
  | some location =>
    match stageValueAt? call.program.vertex.demand.outputs location with
    | none => false
    | some output => fits stageValue.type output.type && blendingOf stageValue == blendingOf output

/-- The number of components of the values that have a location. -/
def componentCount (stageValues : List StageValue) : Nat :=
  stageValues.foldl (fun count stageValue =>
    match locationOf? stageValue, stageValue.type with
    | some _, .scalar _ => count + 1
    | some _, .vector size _ => count + size.size
    | _, _ => count) 0

/-- Whether what the fragment stage writes to the color target, if it writes anything, fills a
texel. -/
def fillsTexel (call : DrawCall) : Bool :=
  match call.color, stageValueAt? call.program.fragment.demand.outputs 0 with
  | some _, some output => fits (.vector .four .float) output.type
  | _, _ => true

/-- Whether a mode can be drawn. -/
def canFill (features : GpuFeatures) : FillMode → Bool
  | .fill => true
  | .line => features.polygonLines
  | .point => features.polygonPoints

def SampleType.content : SampleType → TextureClass
  | .depth => .depth false
  | .float _ => .sampled .float false

/-- Whether something bound has the shape that a stage declares. -/
def hasShape : ResourceShape → BoundResource → Bool
  | .uniform _, .uniform _ => true
  | .texture content dimension, .texture _ sampleType =>
    dimension == .plane && content == SampleType.content sampleType
  | .sampler comparison, .sampler binding => (binding == .comparison) == comparison
  | _, _ => false

/-- Whether a slot holds something of the shape that a stage declares. -/
def suits (call : DrawCall) (request : ResourceSlot × ResourceShape) : Bool :=
  (call.resources.get? request.1).any (hasShape request.2)

/-- Whether a sampler at a slot filters a texture at a slot that cannot be filtered. -/
def filtersUnfilterable (call : DrawCall) (pair : ResourceSlot × ResourceSlot) : Bool :=
  match call.resources.get? pair.1, call.resources.get? pair.2 with
  | some (.texture _ (.float false)), some (.sampler .filtering) => true
  | _, _ => false

/-- Whether no limit on resources is passed. -/
def isWithinLimits (resources : Gpu.Resources) : Bool :=
  let bound := resources.values
  let uniforms := bound.filterMap fun
    | .uniform contents => some contents.length
    | _ => none
  resources.keys.all (fun slot =>
      slot.group.toNat < GpuLimits.groups && slot.binding.toNat < GpuLimits.bindings) &&
    uniforms.length ≤ GpuLimits.uniforms && uniforms.all (· ≤ GpuLimits.uniformSize) &&
    (bound.filter fun
      | .texture _ _ => true
      | _ => false).length ≤ GpuLimits.textures &&
    (bound.filter fun
      | .sampler _ => true
      | _ => false).length ≤ GpuLimits.samplers

/-- Whether the views of the target have one size. -/
def haveOneSize (color depth : Option GpuView) : Bool :=
  match color, depth with
  | some color, some depth => color.width == depth.width && color.height == depth.height
  | _, _ => true

/-- Whether an image that is bound for reading is written. -/
def feedsBack (call : DrawCall) : Bool :=
  let written := (call.color.map (·.image)).toList ++ (call.depth.map (·.image)).toList
  call.resources.values.any fun
    | .texture image _ => written.contains image.id
    | _ => false

/-- Whether a slot holds as many bytes as a stage declares for a uniform. -/
def holdsUniform (call : DrawCall) (request : ResourceSlot × ResourceShape) : Bool :=
  match request.2, call.resources.get? request.1 with
  | .uniform size, some (.uniform contents) => size ≤ contents.length
  | _, _ => true

/-- The number of elements that a stream has left. -/
def elementCount (stream : StreamBinding GpuBuffer) : Nat :=
  (stream.buffer.size - stream.offset) / stream.format.size

/-- Whether a stream has as many elements as are drawn; a draw has one instance. -/
def isLongEnough (vertexCount : UInt32) (stream : StreamBinding GpuBuffer) : Bool :=
  match stream.stepMode with
  | .perVertex => vertexCount.toNat ≤ elementCount stream
  | .perInstance => 1 ≤ elementCount stream

/-- Whether anything is drawn; nothing is where the part of the target is empty. -/
def isDrawn (call : DrawCall) : Bool := call.area.width != 0 && call.area.height != 0

/-- The rules, each with whether it is kept. The last two only count where anything is drawn. -/
def rules (call : DrawCall) : List (Rejection × Bool) :=
  let vertex := call.program.vertex.demand
  let fragment := call.program.fragment.demand
  [(.vertexBufferCount, call.streams.length ≤ GpuLimits.vertexBuffers),
    (.locationClash, (call.streams.map Prod.fst).Nodup),
    (.vertexInput, vertex.inputs.all call.isFed),
    (.stageInterface, fragment.inputs.all call.isGiven),
    (.varyingCount, [vertex.outputs, fragment.inputs].all fun stageValues =>
      componentCount stageValues ≤ GpuLimits.varyingComponents),
    (.fragmentOutput, call.fillsTexel),
    (.polygonMode, canFill call.features call.fillMode),
    (.resourceShape, call.demands.all fun demand => demand.resources.all call.suits),
    (.filtering, call.demands.all fun demand =>
      !demand.samplings.any call.filtersUnfilterable),
    (.resourceCount, isWithinLimits call.resources),
    (.targetSizes, haveOneSize call.color call.depth),
    (.feedback, !call.feedsBack),
    (.uniformSize, !call.isDrawn || call.demands.all fun demand =>
      demand.resources.all call.holdsUniform),
    (.streamLength, !call.isDrawn || call.streams.all fun (_, stream) =>
      isLongEnough call.vertexCount stream)]

/-- The first rule that is broken. -/
def rejection? (call : DrawCall) : Option Rejection :=
  (call.rules.find? fun (_, isKept) => !isKept).map Prod.fst

end DrawCall

end FramePlan
