import FramePlan.Document.Decode
import FramePlan.Pipeline.Names

/-!
# Reading pipeline descriptions

The decoders of the types that make up a pipeline description, leaves first.

They are what `serde` derives for the description format, field by field.
-/

namespace FramePlan

def InputType.decode : Decoder InputType :=
  Decode.choice (InputType.all.map fun type => (type.name, type))

def ImageSemantic.decode : Decoder ImageSemantic :=
  Decode.choice (ImageSemantic.all.map fun semantic => (semantic.name, semantic))

/-- Reads the value that a type's name announces; no value is announced by a texture type. -/
def Value.payload? : InputType → Option (Payload Value)
  | .vector .bool .one => some (.value fun node => (Decode.bool node).map fun x => .bools .one (.singleton x))
  | .vector .word .one =>
    some (.value fun node => (Decode.uint32 node).map fun x => .words .one (.singleton x))
  | .vector .int .one => some (.value fun node => (Decode.int32 node).map fun x => .ints .one (.singleton x))
  | .vector .float .one =>
    some (.value fun node => (Decode.single node).map fun x => .floats .one (.singleton x))
  | .vector .bool width =>
    some (.value fun node => (Decode.vector Decode.bool width.size node).map (.bools width))
  | .vector .word width =>
    some (.value fun node => (Decode.vector Decode.uint32 width.size node).map (.words width))
  | .vector .int width =>
    some (.value fun node => (Decode.vector Decode.int32 width.size node).map (.ints width))
  | .vector .float width =>
    some (.value fun node => (Decode.vector Decode.single width.size node).map (.floats width))
  | .matrix side =>
    some (.value fun node =>
      (Decode.vector (Decode.vector Decode.single side.size) side.size node).map (.matrix side))
  | .texture _ => none

def Value.decode : Decoder Value :=
  Decode.variant (InputType.all.filterMap fun type =>
    (Value.payload? type).map fun payload => (type.name, payload))

def ArrayValue.decode : Decoder ArrayValue :=
  Decode.variant [
    ("Bool", .value fun node => (Decode.list Decode.bool node).map .bools),
    ("Int", .value fun node => (Decode.list Decode.int32 node).map .ints),
    ("Word", .value fun node => (Decode.list Decode.uint32 node).map .words),
    ("Float", .value fun node => (Decode.list Decode.single node).map .floats)]

def CullMode.decode : Decoder CullMode :=
  Decode.choice (CullMode.all.map fun mode => (mode.name, mode))

def FrontFace.decode : Decoder FrontFace :=
  Decode.choice (FrontFace.all.map fun face => (face.name, face))

def PolygonMode.decode : Decoder PolygonMode :=
  Decode.variant [
    ("Fill", .unit .fill),
    ("Line", .value fun node => (Decode.single node).map .line),
    ("Point", .value fun node => (Decode.single node).map .point)]

def PolygonOffset.decode : Decoder PolygonOffset :=
  Decode.variant [
    ("NoOffset", .unit .noOffset),
    ("Offset", .fields "struct variant PolygonOffset::Offset"
      (Fields.pure PolygonOffset.offset
        <*> .field "factor" Decode.single
        <*> .field "units" Decode.single))]

def RasterContext.decode : Decoder RasterContext :=
  Decode.variant [
    ("PointCtx", .fields "struct variant RasterContext::PointCtx"
      (Fields.pure RasterContext.point <*> .field "point_size" Decode.single)),
    ("LineCtx", .fields "struct variant RasterContext::LineCtx"
      (Fields.pure RasterContext.line <*> .field "line_width" Decode.single)),
    ("TriangleCtx", .fields "struct variant RasterContext::TriangleCtx"
      (Fields.pure RasterContext.triangle
        <*> .field "cull_mode" CullMode.decode
        <*> .field "polygon_mode" PolygonMode.decode
        <*> .field "polygon_offset" PolygonOffset.decode
        <*> .field "front_face" FrontFace.decode))]

def ComparisonFunction.decode : Decoder ComparisonFunction :=
  Decode.choice (ComparisonFunction.all.map fun function => (function.name, function))

def BlendEquation.decode : Decoder BlendEquation :=
  Decode.choice (BlendEquation.all.map fun equation => (equation.name, equation))

def BlendingFactor.decode : Decoder BlendingFactor :=
  Decode.choice (BlendingFactor.all.map fun factor => (factor.name, factor))

def BlendComponent.decode : Decoder BlendComponent :=
  (Fields.pure BlendComponent.mk
    <*> .field "equation" BlendEquation.decode
    <*> .field "source" BlendingFactor.decode
    <*> .field "destination" BlendingFactor.decode).decode "struct BlendComponent"

def Blending.decode : Decoder Blending :=
  Decode.variant [
    ("NoBlending", .unit .noBlending),
    ("Blend", .fields "struct variant Blending::Blend"
      (Fields.pure Blending.blend
        <*> .field "color" BlendComponent.decode
        <*> .field "alpha" BlendComponent.decode))]

def FragmentOperation.decode : Decoder FragmentOperation :=
  Decode.variant [
    ("DepthOp", .fields "struct variant FragmentOperation::DepthOp"
      (Fields.pure FragmentOperation.depth
        <*> .field "function" ComparisonFunction.decode
        <*> .field "write" Decode.bool)),
    ("StencilOp", .fields "struct variant FragmentOperation::StencilOp"
      (Fields.pure FragmentOperation.stencil
        <*> .field "function" ComparisonFunction.decode
        <*> .field "reference" Decode.uint32
        <*> .field "mask" Decode.uint32)),
    ("ColorOp", .fields "struct variant FragmentOperation::ColorOp"
      (Fields.pure FragmentOperation.color
        <*> .field "blending" Blending.decode
        <*> .field "mask" (Decode.vector Decode.bool 4)))]

def AccumulationContext.decode : Decoder AccumulationContext :=
  (Fields.pure AccumulationContext.mk
    <*> .field "operations" (Decode.list FragmentOperation.decode)).decode
    "struct AccumulationContext"

def ClearImage.decode : Decoder ClearImage :=
  (Fields.pure ClearImage.mk
    <*> .field "image_semantic" ImageSemantic.decode
    <*> .field "clear_value" Value.decode).decode "struct ClearImage"

def Command.decode : Decoder Command :=
  Decode.variant [
    ("SetRasterContext", .value fun node => (RasterContext.decode node).map .setRasterContext),
    ("SetAccumulationContext",
      .value fun node => (AccumulationContext.decode node).map .setAccumulationContext),
    ("SetTexture", .fields "struct variant Command::SetTexture"
      (Fields.pure Command.setTexture
        <*> .field "unit" Decode.uint32
        <*> .field "texture" Decode.index)),
    ("SetProgram", .value fun node => (Decode.index node).map .setProgram),
    ("SetRenderTarget", .value fun node => (Decode.index node).map .setRenderTarget),
    ("ClearRenderTarget",
      .value fun node => (Decode.list ClearImage.decode node).map .clearRenderTarget),
    ("SetSamplerUniform", .fields "struct variant Command::SetSamplerUniform"
      (Fields.pure Command.setSamplerUniform
        <*> .field "name" Decode.string
        <*> .field "unit" Decode.uint32)),
    ("RenderSlot", .value fun node => (Decode.index node).map .renderSlot),
    ("RenderStream", .value fun node => (Decode.index node).map .renderStream)]

def Backend.decode : Decoder Backend :=
  Decode.choice (Backend.all.map fun backend => (backend.name, backend))

def TextureType.decode : Decoder TextureType :=
  Decode.choice (TextureType.all.map fun type => (type.name, type))

def EdgeMode.decode : Decoder EdgeMode :=
  Decode.choice (EdgeMode.all.map fun mode => (mode.name, mode))

def Filter.decode : Decoder Filter :=
  Decode.choice (Filter.all.map fun filter => (filter.name, filter))

/-- Reads a sampler; every field may be left out. -/
def SamplerDescriptor.decode : Decoder SamplerDescriptor :=
  let absent : SamplerDescriptor := {}
  (Fields.pure SamplerDescriptor.mk
    <*> .field "wrap_s" EdgeMode.decode (some absent.wrapS)
    <*> .field "wrap_t" (Decode.option EdgeMode.decode) (some absent.wrapT)
    <*> .field "min_filter" Filter.decode (some absent.minFilter)
    <*> .field "mag_filter" Filter.decode (some absent.magFilter)
    <*> .field "min_lod" (Decode.option Decode.single) (some absent.minLod)
    <*> .field "max_lod" (Decode.option Decode.single) (some absent.maxLod)
    <*> .field "lod_bias" Decode.single (some absent.lodBias)
    <*> .field "compare_func" (Decode.option ComparisonFunction.decode)
      (some absent.compareFunc)).decode "struct SamplerDescriptor"

def TextureDescriptor.decode : Decoder TextureDescriptor :=
  let describe (type : TextureType) (size : Vector UInt32 2) (semantic : ImageSemantic)
      (sampler : SamplerDescriptor) (baseLevel maxLevel : UInt32) : TextureDescriptor :=
    ⟨type, size[0], size[1], semantic, sampler, baseLevel, maxLevel⟩
  (Fields.pure describe
    <*> .field "texture_type" TextureType.decode (some .texture2D)
    <*> .field "size" (Decode.vector Decode.uint32 2)
    <*> .field "semantic" ImageSemantic.decode
    <*> .field "sampler" SamplerDescriptor.decode (some {})
    <*> .field "base_level" Decode.uint32 (some 0)
    <*> .field "max_level" Decode.uint32 (some 0)).decode "struct TextureDescriptor"

def ImageRef.decode : Decoder ImageRef :=
  Decode.variant [
    ("TextureImage", .fields "struct variant ImageRef::TextureImage"
      (Fields.pure ImageRef.textureImage
        <*> .field "texture" Decode.index
        <*> .field "mip_level" Decode.uint32 (some 0)
        <*> .field "layer" (Decode.option Decode.uint32) (some none))),
    ("Framebuffer", .value fun node => (ImageSemantic.decode node).map .framebuffer)]

def TargetItem.decode : Decoder TargetItem :=
  (Fields.pure TargetItem.mk
    <*> .field "target_semantic" ImageSemantic.decode
    <*> .field "target_ref" (Decode.option ImageRef.decode) (some none)).decode "struct TargetItem"

def RenderTarget.decode : Decoder RenderTarget :=
  (Fields.pure RenderTarget.mk
    <*> .field "render_targets" (Decode.list TargetItem.decode)).decode "struct RenderTarget"

def Parameter.decode : Decoder Parameter :=
  (Fields.pure Parameter.mk
    <*> .field "name" Decode.string
    <*> .field "ty" InputType.decode).decode "struct Parameter"

def Program.decode : Decoder Program :=
  (Fields.pure Program.mk
    <*> .field "program_uniforms" (Decode.table InputType.decode) (some .empty)
    <*> .field "program_streams" (Decode.table Parameter.decode) (some .empty)
    <*> .field "program_in_textures" (Decode.table InputType.decode) (some .empty)
    <*> .field "vertex_shader" Decode.string
    <*> .field "geometry_shader" (Decode.option Decode.string) (some none)
    <*> .field "fragment_shader" Decode.string).decode "struct Program"

def FetchPrimitive.decode : Decoder FetchPrimitive :=
  Decode.choice (FetchPrimitive.all.map fun primitive => (primitive.name, primitive))

def Slot.decode : Decoder Slot :=
  (Fields.pure Slot.mk
    <*> .field "slot_name" Decode.string
    <*> .field "slot_streams" (Decode.table InputType.decode) (some .empty)
    <*> .field "slot_uniforms" (Decode.table InputType.decode) (some .empty)
    <*> .field "slot_primitive" FetchPrimitive.decode
    <*> .field "slot_programs" (Decode.list Decode.index) (some [])).decode "struct Slot"

def StreamData.decode : Decoder StreamData :=
  (Fields.pure StreamData.mk
    <*> .field "stream_data" (Decode.table ArrayValue.decode)
    <*> .field "stream_type" (Decode.table InputType.decode)
    <*> .field "stream_primitive" FetchPrimitive.decode
    <*> .field "stream_programs" (Decode.list Decode.index) (some [])).decode "struct StreamData"

def Pipeline.decode : Decoder Pipeline :=
  (Fields.pure Pipeline.mk
    <*> .field "info" Decode.string (some "")
    <*> .field "backend" Backend.decode
    <*> .field "textures" (Decode.list TextureDescriptor.decode) (some [])
    <*> .field "targets" (Decode.list RenderTarget.decode) (some [])
    <*> .field "programs" (Decode.list Program.decode) (some [])
    <*> .field "slots" (Decode.list Slot.decode) (some [])
    <*> .field "streams" (Decode.list StreamData.decode) (some [])
    <*> .field "commands" (Decode.list Command.decode) (some [])).decode "struct Pipeline"

end FramePlan
