import FramePlan.Config
import FramePlan.Document.Node
import FramePlan.Pipeline.Names

/-!
# Writing pipeline descriptions

The tree of a pipeline description: every field is written, a missing value as null, a choice by its
name, and anything else tagged by a name as a record with that name as its only key. A number that is
not finite has no written form and becomes null.

They are what `serde` derives for the description format, field by field.
-/

namespace FramePlan

/-- Writes a value as a tree. -/
abbrev Encoder (α : Type) := α → Node

namespace Encode

def natural : Encoder Nat := fun n => .number (.natural n)

def uint32 : Encoder UInt32 := fun n => natural n.toNat

def int32 : Encoder Int32 := fun n =>
  if n < 0 then .number (.negative n.toInt) else natural n.toInt.toNat

/-- A finite single is written as the number that it is. -/
def single : Encoder Single := fun x =>
  if x.isFinite then .number (.real (.ofSingle x)) else .null

def option {α : Type} (encode : Encoder α) : Encoder (Option α)
  | none => .null
  | some value => encode value

def list {α : Type} (encode : Encoder α) : Encoder (List α) := fun items =>
  .ofItems (items.map encode)

def vector {α : Type} {count : Nat} (encode : Encoder α) : Encoder (Vector α count) := fun items =>
  list encode items.toList

def table {α : Type} (encode : Encoder α) : Encoder (Table String α) := fun filled =>
  .ofMembers (filled.entries.map fun (name, value) => (name, encode value))

def tagged (name : String) (content : Node) : Node := .ofMembers [(name, content)]

end Encode

open Encode

namespace Value

/-- The components of a value; a single one stands alone. -/
def encodeContent : Encoder Value
  | .bools .one components => .bool (only components)
  | .words .one components => uint32 (only components)
  | .ints .one components => int32 (only components)
  | .floats .one components => single (only components)
  | .bools _ components => vector Node.bool components
  | .words _ components => vector uint32 components
  | .ints _ components => vector int32 components
  | .floats _ components => vector single components
  | .matrix _ columns => vector (vector single) columns

/-- A value is tagged with the name of its type. -/
def encode : Encoder Value := fun value => tagged value.inputType.name value.encodeContent

end Value

def ArrayValue.encode : Encoder ArrayValue
  | .bools elements => tagged "Bool" (list .bool elements)
  | .ints elements => tagged "Int" (list int32 elements)
  | .words elements => tagged "Word" (list uint32 elements)
  | .floats elements => tagged "Float" (list single elements)

def PolygonMode.encode : Encoder PolygonMode
  | .fill => .ofString "Fill"
  | .line width => tagged "Line" (single width)
  | .point size => tagged "Point" (single size)

def PolygonOffset.encode : Encoder PolygonOffset
  | .noOffset => .ofString "NoOffset"
  | .offset factor units =>
    tagged "Offset" (.ofMembers [("factor", single factor), ("units", single units)])

def RasterContext.encode : Encoder RasterContext
  | .point size => tagged "PointCtx" (.ofMembers [("point_size", single size)])
  | .line width => tagged "LineCtx" (.ofMembers [("line_width", single width)])
  | .triangle cullMode polygonMode polygonOffset frontFace =>
    tagged "TriangleCtx" (.ofMembers [
      ("cull_mode", .ofString cullMode.name),
      ("polygon_mode", polygonMode.encode),
      ("polygon_offset", polygonOffset.encode),
      ("front_face", .ofString frontFace.name)])

def ComparisonFunction.encode : Encoder ComparisonFunction := fun function =>
  .ofString function.name

def BlendComponent.encode : Encoder BlendComponent := fun component =>
  .ofMembers [
    ("equation", .ofString component.equation.name),
    ("source", .ofString component.source.name),
    ("destination", .ofString component.destination.name)]

def Blending.encode : Encoder Blending
  | .noBlending => .ofString "NoBlending"
  | .blend color alpha =>
    tagged "Blend" (.ofMembers [("color", color.encode), ("alpha", alpha.encode)])

def FragmentOperation.encode : Encoder FragmentOperation
  | .depth function write =>
    tagged "DepthOp" (.ofMembers [("function", function.encode), ("write", .bool write)])
  | .stencil function reference mask =>
    tagged "StencilOp" (.ofMembers [
      ("function", function.encode), ("reference", uint32 reference), ("mask", uint32 mask)])
  | .color blending mask =>
    tagged "ColorOp" (.ofMembers [("blending", blending.encode), ("mask", vector .bool mask)])

def AccumulationContext.encode : Encoder AccumulationContext := fun context =>
  .ofMembers [("operations", list FragmentOperation.encode context.operations)]

def ClearImage.encode : Encoder ClearImage := fun image =>
  .ofMembers [
    ("image_semantic", .ofString image.semantic.name),
    ("clear_value", image.value.encode)]

def Command.encode : Encoder Command
  | .setRasterContext context => tagged "SetRasterContext" context.encode
  | .setAccumulationContext context => tagged "SetAccumulationContext" context.encode
  | .setTexture textureUnit texture =>
    tagged "SetTexture" (.ofMembers [("unit", uint32 textureUnit), ("texture", natural texture)])
  | .setProgram program => tagged "SetProgram" (natural program)
  | .setRenderTarget target => tagged "SetRenderTarget" (natural target)
  | .clearRenderTarget images => tagged "ClearRenderTarget" (list ClearImage.encode images)
  | .setSamplerUniform name textureUnit =>
    tagged "SetSamplerUniform" (.ofMembers [("name", .ofString name), ("unit", uint32 textureUnit)])
  | .renderSlot slot => tagged "RenderSlot" (natural slot)
  | .renderStream stream => tagged "RenderStream" (natural stream)

def SamplerDescriptor.encode : Encoder SamplerDescriptor := fun sampler =>
  .ofMembers [
    ("wrap_s", .ofString sampler.wrapS.name),
    ("wrap_t", option (fun mode => .ofString mode.name) sampler.wrapT),
    ("min_filter", .ofString sampler.minFilter.name),
    ("mag_filter", .ofString sampler.magFilter.name),
    ("min_lod", option single sampler.minLod),
    ("max_lod", option single sampler.maxLod),
    ("lod_bias", single sampler.lodBias),
    ("compare_func", option ComparisonFunction.encode sampler.compareFunc)]

def TextureDescriptor.encode : Encoder TextureDescriptor := fun texture =>
  .ofMembers [
    ("texture_type", .ofString texture.textureType.name),
    ("size", .ofItems [uint32 texture.width, uint32 texture.height]),
    ("semantic", .ofString texture.semantic.name),
    ("sampler", texture.sampler.encode),
    ("base_level", uint32 texture.baseLevel),
    ("max_level", uint32 texture.maxLevel)]

def ImageRef.encode : Encoder ImageRef
  | .textureImage texture mipLevel layer =>
    tagged "TextureImage" (.ofMembers [
      ("texture", natural texture),
      ("mip_level", uint32 mipLevel),
      ("layer", option uint32 layer)])
  | .framebuffer semantic => tagged "Framebuffer" (.ofString semantic.name)

def TargetItem.encode : Encoder TargetItem := fun item =>
  .ofMembers [
    ("target_semantic", .ofString item.semantic.name),
    ("target_ref", option ImageRef.encode item.reference)]

def RenderTarget.encode : Encoder RenderTarget := fun target =>
  .ofMembers [("render_targets", list TargetItem.encode target.items)]

def InputType.encode : Encoder InputType := fun type => .ofString type.name

def Parameter.encode : Encoder Parameter := fun parameter =>
  .ofMembers [("name", .ofString parameter.name), ("ty", parameter.type.encode)]

def Program.encode : Encoder Program := fun program =>
  .ofMembers [
    ("program_uniforms", table InputType.encode program.uniforms),
    ("program_streams", table Parameter.encode program.streams),
    ("program_in_textures", table InputType.encode program.textures),
    ("vertex_shader", .ofString program.vertexShader),
    ("geometry_shader", option Node.ofString program.geometryShader),
    ("fragment_shader", .ofString program.fragmentShader)]

def Slot.encode : Encoder Slot := fun slot =>
  .ofMembers [
    ("slot_name", .ofString slot.name),
    ("slot_streams", table InputType.encode slot.streams),
    ("slot_uniforms", table InputType.encode slot.uniforms),
    ("slot_primitive", .ofString slot.primitive.name),
    ("slot_programs", list natural slot.programs)]

def StreamData.encode : Encoder StreamData := fun stream =>
  .ofMembers [
    ("stream_data", table ArrayValue.encode stream.arrays),
    ("stream_type", table InputType.encode stream.types),
    ("stream_primitive", .ofString stream.primitive.name),
    ("stream_programs", list natural stream.programs)]

def Pipeline.encode : Encoder Pipeline := fun pipeline =>
  .ofMembers [
    ("info", .ofString pipeline.info),
    ("backend", .ofString pipeline.backend.name),
    ("textures", list TextureDescriptor.encode pipeline.textures),
    ("targets", list RenderTarget.encode pipeline.targets),
    ("programs", list Program.encode pipeline.programs),
    ("slots", list Slot.encode pipeline.slots),
    ("streams", list StreamData.encode pipeline.streams),
    ("commands", list Command.encode pipeline.commands)]

def Config.encode : Encoder Config := fun config =>
  .ofMembers [
    ("vertex_entry_point", .ofString config.vertexEntryPoint),
    ("fragment_entry_point", .ofString config.fragmentEntryPoint),
    ("vertex_profile", .ofString config.vertexProfile),
    ("fragment_profile", .ofString config.fragmentProfile),
    ("unbound_uniforms", .ofString config.unboundUniforms.name)]

end FramePlan
