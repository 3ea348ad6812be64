import FramePlan.Proofs.Document.Variation

/-!
# Other writings of a pipeline

For every type of a pipeline description, the trees that may stand in the place of the written one. A
field that may be left out is listed with what it holds then, as it is written. Choices, texts, truth
values and integers have no other writing; every number that is no integer type is a single.

* `Pipeline.variation`: the trees that may stand for a pipeline.
* `Pipeline.singles`: the numbers of a pipeline that have a written form only if they are finite.
-/

namespace FramePlan

open Variation

/-! ## Values -/

def Value.singles : Value → List Single
  | .floats _ components => components.toList
  | .matrix _ columns => columns.toList.flatMap Vector.toList
  | .bools _ _ | .words _ _ | .ints _ _ => []

def Scalar.variation : Scalar → Variation
  | .float => number
  | .bool | .word | .int => same

/-- What follows the name of a value's type. -/
def Value.contentVariation : InputType → Variation
  | .vector scalar .one => scalar.variation
  | .vector scalar _ => list scalar.variation
  | .matrix _ => list (list number)
  | .texture _ => same

def Value.variation : Variation :=
  variants (InputType.all.map fun type => (type.name, contentVariation type))

def ArrayValue.singles : ArrayValue → List Single
  | .floats elements => elements
  | .bools _ | .ints _ | .words _ => []

def ArrayValue.variation : Variation :=
  variants [("Bool", list same), ("Int", list same), ("Word", list same), ("Float", list number)]

/-! ## Render state and commands -/

def PolygonMode.singles : PolygonMode → List Single
  | .fill => []
  | .line width => [width]
  | .point size => [size]

def PolygonMode.variation : Variation := variants [("Line", number), ("Point", number)]

def PolygonOffset.singles : PolygonOffset → List Single
  | .noOffset => []
  | .offset factor units => [factor, units]

def PolygonOffset.variation : Variation :=
  variants [("Offset", record [.required "factor" number, .required "units" number])]

def RasterContext.singles : RasterContext → List Single
  | .point size => [size]
  | .line width => [width]
  | .triangle _ polygonMode polygonOffset _ => polygonMode.singles ++ polygonOffset.singles

def RasterContext.variation : Variation :=
  variants [
    ("PointCtx", record [.required "point_size" number]),
    ("LineCtx", record [.required "line_width" number]),
    ("TriangleCtx", record [
      .required "cull_mode" same,
      .required "polygon_mode" PolygonMode.variation,
      .required "polygon_offset" PolygonOffset.variation,
      .required "front_face" same])]

def BlendComponent.variation : Variation :=
  record [.required "equation" same, .required "source" same, .required "destination" same]

def Blending.variation : Variation :=
  variants [("Blend", record [
    .required "color" BlendComponent.variation,
    .required "alpha" BlendComponent.variation])]

def FragmentOperation.variation : Variation :=
  variants [
    ("DepthOp", record [.required "function" same, .required "write" same]),
    ("StencilOp", record [
      .required "function" same, .required "reference" same, .required "mask" same]),
    ("ColorOp", record [
      .required "blending" Blending.variation, .required "mask" (list same)])]

def AccumulationContext.variation : Variation :=
  record [.required "operations" (list FragmentOperation.variation)]

def ClearImage.variation : Variation :=
  record [.required "image_semantic" same, .required "clear_value" Value.variation]

def Command.singles : Command → List Single
  | .setRasterContext context => context.singles
  | .clearRenderTarget images => images.flatMap fun image => image.value.singles
  | .setAccumulationContext _ | .setTexture _ _ | .setProgram _ | .setRenderTarget _
  | .setSamplerUniform _ _ | .renderSlot _ | .renderStream _ => []

def Command.variation : Variation :=
  variants [
    ("SetRasterContext", RasterContext.variation),
    ("SetAccumulationContext", AccumulationContext.variation),
    ("SetTexture", record [.required "unit" same, .required "texture" same]),
    ("SetProgram", same),
    ("SetRenderTarget", same),
    ("ClearRenderTarget", list ClearImage.variation),
    ("SetSamplerUniform", record [.required "name" same, .required "unit" same]),
    ("RenderSlot", same),
    ("RenderStream", same)]

/-! ## Resources -/

def SamplerDescriptor.singles (sampler : SamplerDescriptor) : List Single :=
  sampler.minLod.toList ++ sampler.maxLod.toList ++ [sampler.lodBias]

/-- Every field of a sampler may be left out. -/
def SamplerDescriptor.variation : Variation :=
  record [
    .optional "wrap_s" (.ofString "ClampToEdge") same,
    .optional "wrap_t" .null (option same),
    .optional "min_filter" (.ofString "Linear") same,
    .optional "mag_filter" (.ofString "Linear") same,
    .optional "min_lod" .null (option number),
    .optional "max_lod" .null (option number),
    .optional "lod_bias" (Encode.single .zero) number,
    .optional "compare_func" .null (option same)]

def TextureDescriptor.variation : Variation :=
  record [
    .optional "texture_type" (.ofString "Texture2D") same,
    .required "size" (list same),
    .required "semantic" same,
    .optional "sampler" (SamplerDescriptor.encode {}) SamplerDescriptor.variation,
    .optional "base_level" (Encode.natural 0) same,
    .optional "max_level" (Encode.natural 0) same]

def ImageRef.variation : Variation :=
  variants [
    ("TextureImage", record [
      .required "texture" same,
      .optional "mip_level" (Encode.natural 0) same,
      .optional "layer" .null (option same)]),
    ("Framebuffer", same)]

def TargetItem.variation : Variation :=
  record [
    .required "target_semantic" same,
    .optional "target_ref" .null (option ImageRef.variation)]

def RenderTarget.variation : Variation :=
  record [.required "render_targets" (list TargetItem.variation)]

def Parameter.variation : Variation := record [.required "name" same, .required "ty" same]

def Program.variation : Variation :=
  record [
    .optional "program_uniforms" (.ofMembers []) (table same),
    .optional "program_streams" (.ofMembers []) (table Parameter.variation),
    .optional "program_in_textures" (.ofMembers []) (table same),
    .required "vertex_shader" same,
    .optional "geometry_shader" .null (option same),
    .required "fragment_shader" same]

def Slot.variation : Variation :=
  record [
    .required "slot_name" same,
    .optional "slot_streams" (.ofMembers []) (table same),
    .optional "slot_uniforms" (.ofMembers []) (table same),
    .required "slot_primitive" same,
    .optional "slot_programs" (.ofItems []) (list same)]

def StreamData.variation : Variation :=
  record [
    .required "stream_data" (table ArrayValue.variation),
    .required "stream_type" (table same),
    .required "stream_primitive" same,
    .optional "stream_programs" (.ofItems []) (list same)]

namespace Pipeline

/-- Every single of a pipeline: those of samplers, of stream data and of commands. -/
def singles (pipeline : Pipeline) : List Single :=
  (pipeline.textures.flatMap fun texture => texture.sampler.singles) ++
    (pipeline.streams.flatMap fun stream => stream.arrays.values.flatMap ArrayValue.singles) ++
    pipeline.commands.flatMap Command.singles

def variation : Variation :=
  record [
    .optional "info" (.ofString "") same,
    .required "backend" same,
    .optional "textures" (.ofItems []) (list TextureDescriptor.variation),
    .optional "targets" (.ofItems []) (list RenderTarget.variation),
    .optional "programs" (.ofItems []) (list Program.variation),
    .optional "slots" (.ofItems []) (list Slot.variation),
    .optional "streams" (.ofItems []) (list StreamData.variation),
    .optional "commands" (.ofItems []) (list Command.variation)]

end Pipeline

end FramePlan
