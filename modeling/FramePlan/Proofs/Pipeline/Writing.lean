import FramePlan.Pipeline.Load
import FramePlan.Proofs.Compiled
import FramePlan.Proofs.Document.Reading
import FramePlan.Proofs.Pipeline.Variation

/-!
# Every writing of a pipeline is read back

Whatever tree stands in the place of the one that is written for a pipeline, the pipeline is read from
it. The types that make up a description are restored one by one, leaves first, each under the
hypothesis that its singles are finite and that its indices fit the word in which they are read.

* `Pipeline.restored`: a pipeline is restored from every writing.
* `every_writing_is_read_back`: and so it is from every text that holds one.
-/

namespace FramePlan

open Variation

/-! ## Values -/

theorem exists_eq_singleton {α : Type} (components : Vector α 1) :
    ∃ x, components = .singleton x := by
  refine ⟨only components, ?_⟩
  ext i hi
  obtain rfl : i = 0 := by omega
  rfl

theorem Value.restored {value : Value} (hfinite : ∀ x ∈ value.singles, x.isFinite = true) :
    Restored Value.variation Value.decode value.encode value := by
  cases value with
  | bools width components =>
    cases width with
    | one =>
      obtain ⟨x, rfl⟩ := exists_eq_singleton components
      exact .variant rfl rfl (.map (.bool x))
    | two | three | four => exact .variant rfl rfl (.map (.vector fun x _ => .bool x))
  | words width components =>
    cases width with
    | one =>
      obtain ⟨x, rfl⟩ := exists_eq_singleton components
      exact .variant rfl rfl (.map (.uint32 x))
    | two | three | four => exact .variant rfl rfl (.map (.vector fun x _ => .uint32 x))
  | ints width components =>
    cases width with
    | one =>
      obtain ⟨x, rfl⟩ := exists_eq_singleton components
      exact .variant rfl rfl (.map (.int32 x))
    | two | three | four => exact .variant rfl rfl (.map (.vector fun x _ => .int32 x))
  | floats width components =>
    have hcomponent : ∀ x ∈ components, Restored number Decode.single (Encode.single x) x :=
      fun x hmem => .single (hfinite x (Vector.mem_toList_iff.2 hmem))
    cases width with
    | one =>
      obtain ⟨x, rfl⟩ := exists_eq_singleton components
      exact .variant rfl rfl (.map (hcomponent x (by simp)))
    | two | three | four => exact .variant rfl rfl (.map (.vector hcomponent))
  | matrix side columns =>
    have hcolumn : ∀ column ∈ columns, Restored (list number)
        (Decode.vector Decode.single side.size) (Encode.vector Encode.single column) column := by
      intro column hmem
      refine .vector fun x hx => .single (hfinite x ?_)
      exact List.mem_flatMap.2 ⟨column, Vector.mem_toList_iff.2 hmem, Vector.mem_toList_iff.2 hx⟩
    cases side with
    | two | three | four => exact .variant rfl rfl (.map (.vector hcolumn))

theorem ArrayValue.restored {array : ArrayValue} (hfinite : ∀ x ∈ array.singles, x.isFinite = true) :
    Restored ArrayValue.variation ArrayValue.decode array.encode array := by
  cases array with
  | bools elements => exact .variant rfl rfl (.map (.list fun x _ => .bool x))
  | ints elements => exact .variant rfl rfl (.map (.list fun x _ => .int32 x))
  | words elements => exact .variant rfl rfl (.map (.list fun x _ => .uint32 x))
  | floats elements => exact .variant rfl rfl (.map (.list fun x hx => .single (hfinite x hx)))

/-! ## Choices -/

theorem InputType.restored (type : InputType) :
    Restored same InputType.decode type.encode type := by
  apply Restored.same
  rcases type with ⟨scalar, width⟩ | side | kind
  · cases scalar <;> cases width <;> rfl
  · cases side <;> rfl
  · cases kind <;> rfl

theorem ImageSemantic.restored (semantic : ImageSemantic) :
    Restored same ImageSemantic.decode (.ofString semantic.name) semantic :=
  .same (by cases semantic <;> rfl)

theorem CullMode.restored (mode : CullMode) :
    Restored same CullMode.decode (.ofString mode.name) mode :=
  .same (by cases mode <;> rfl)

theorem FrontFace.restored (face : FrontFace) :
    Restored same FrontFace.decode (.ofString face.name) face :=
  .same (by cases face <;> rfl)

theorem ComparisonFunction.restored (function : ComparisonFunction) :
    Restored same ComparisonFunction.decode function.encode function :=
  .same (by cases function <;> rfl)

theorem BlendEquation.restored (equation : BlendEquation) :
    Restored same BlendEquation.decode (.ofString equation.name) equation :=
  .same (by cases equation <;> rfl)

theorem BlendingFactor.restored (factor : BlendingFactor) :
    Restored same BlendingFactor.decode (.ofString factor.name) factor :=
  .same (by cases factor <;> rfl)

theorem Backend.restored (backend : Backend) :
    Restored same Backend.decode (.ofString backend.name) backend :=
  .same (by cases backend <;> rfl)

theorem TextureType.restored (type : TextureType) :
    Restored same TextureType.decode (.ofString type.name) type :=
  .same (by cases type; rfl)

theorem EdgeMode.restored (mode : EdgeMode) :
    Restored same EdgeMode.decode (.ofString mode.name) mode :=
  .same (by cases mode <;> rfl)

theorem Filter.restored (filter : Filter) :
    Restored same Filter.decode (.ofString filter.name) filter :=
  .same (by cases filter <;> rfl)

theorem FetchPrimitive.restored (primitive : FetchPrimitive) :
    Restored same FetchPrimitive.decode (.ofString primitive.name) primitive :=
  .same (by cases primitive <;> rfl)

/-! ## Render state -/

theorem PolygonMode.restored {mode : PolygonMode} (hfinite : ∀ x ∈ mode.singles, x.isFinite = true) :
    Restored PolygonMode.variation PolygonMode.decode mode.encode mode := by
  cases mode with
  | fill => exact .unitVariant rfl
  | line width => exact .variant rfl rfl (.map (.single (hfinite width (by simp [singles]))))
  | point size => exact .variant rfl rfl (.map (.single (hfinite size (by simp [singles]))))

theorem PolygonOffset.restored {offset : PolygonOffset}
    (hfinite : ∀ x ∈ offset.singles, x.isFinite = true) :
    Restored PolygonOffset.variation PolygonOffset.decode offset.encode offset := by
  cases offset with
  | noOffset => exact .unitVariant rfl
  | offset factor units =>
    have hfactor := Restored.single (hfinite factor (by simp [singles]))
    have hunits := Restored.single (hfinite units (by simp [singles]))
    have hfields := (Fields.Restores.pure PolygonOffset.offset).apply (.required "factor" hfactor)
      |>.apply (.required "units" hunits)
    exact .variant rfl rfl (.record hfields (by decide) _)

theorem RasterContext.restored {context : RasterContext}
    (hfinite : ∀ x ∈ context.singles, x.isFinite = true) :
    Restored RasterContext.variation RasterContext.decode context.encode context := by
  cases context with
  | point size =>
    have hsize := Restored.single (hfinite size (by simp [singles]))
    have hfields := (Fields.Restores.pure RasterContext.point).apply (.required "point_size" hsize)
    exact .variant rfl rfl (.record hfields (by decide) _)
  | line width =>
    have hwidth := Restored.single (hfinite width (by simp [singles]))
    have hfields := (Fields.Restores.pure RasterContext.line).apply (.required "line_width" hwidth)
    exact .variant rfl rfl (.record hfields (by decide) _)
  | triangle cullMode polygonMode polygonOffset frontFace =>
    have hmode := PolygonMode.restored fun x hx => hfinite x (List.mem_append_left _ hx)
    have hoffset := PolygonOffset.restored fun x hx => hfinite x (List.mem_append_right _ hx)
    have hfields := (Fields.Restores.pure RasterContext.triangle)
      |>.apply (.required "cull_mode" cullMode.restored)
      |>.apply (.required "polygon_mode" hmode)
      |>.apply (.required "polygon_offset" hoffset)
      |>.apply (.required "front_face" frontFace.restored)
    exact .variant rfl rfl (.record hfields (by decide) _)

theorem BlendComponent.restored (component : BlendComponent) :
    Restored BlendComponent.variation BlendComponent.decode component.encode component := by
  have hfields := (Fields.Restores.pure BlendComponent.mk)
    |>.apply (.required "equation" component.equation.restored)
    |>.apply (.required "source" component.source.restored)
    |>.apply (.required "destination" component.destination.restored)
  exact .record hfields (by decide) _

theorem Blending.restored (blending : Blending) :
    Restored Blending.variation Blending.decode blending.encode blending := by
  cases blending with
  | noBlending => exact .unitVariant rfl
  | blend color alpha =>
    have hfields := (Fields.Restores.pure Blending.blend)
      |>.apply (.required "color" color.restored)
      |>.apply (.required "alpha" alpha.restored)
    exact .variant rfl rfl (.record hfields (by decide) _)

theorem FragmentOperation.restored (operation : FragmentOperation) :
    Restored FragmentOperation.variation FragmentOperation.decode operation.encode operation := by
  cases operation with
  | depth function write =>
    have hfields := (Fields.Restores.pure FragmentOperation.depth)
      |>.apply (.required "function" function.restored)
      |>.apply (.required "write" (.bool write))
    exact .variant rfl rfl (.record hfields (by decide) _)
  | stencil function reference mask =>
    have hfields := (Fields.Restores.pure FragmentOperation.stencil)
      |>.apply (.required "function" function.restored)
      |>.apply (.required "reference" (.uint32 reference))
      |>.apply (.required "mask" (.uint32 mask))
    exact .variant rfl rfl (.record hfields (by decide) _)
  | color blending mask =>
    have hmask : Restored (list same) (Decode.vector Decode.bool 4)
        (Encode.vector Node.bool mask) mask := .vector fun channel _ => .bool channel
    have hfields := (Fields.Restores.pure FragmentOperation.color)
      |>.apply (.required "blending" blending.restored)
      |>.apply (.required "mask" hmask)
    exact .variant rfl rfl (.record hfields (by decide) _)

theorem AccumulationContext.restored (context : AccumulationContext) :
    Restored AccumulationContext.variation AccumulationContext.decode context.encode context := by
  have hoperations : Restored (list FragmentOperation.variation)
      (Decode.list FragmentOperation.decode)
      (Encode.list FragmentOperation.encode context.operations) context.operations :=
    .list fun operation _ => operation.restored
  have hfields := (Fields.Restores.pure AccumulationContext.mk)
    |>.apply (.required "operations" hoperations)
  exact .record hfields (by decide) _

theorem ClearImage.restored {image : ClearImage}
    (hfinite : ∀ x ∈ image.value.singles, x.isFinite = true) :
    Restored ClearImage.variation ClearImage.decode image.encode image := by
  have hfields := (Fields.Restores.pure ClearImage.mk)
    |>.apply (.required "image_semantic" image.semantic.restored)
    |>.apply (.required "clear_value" (Value.restored hfinite))
  exact .record hfields (by decide) _

theorem Command.restored {command : Command} (hfinite : ∀ x ∈ command.singles, x.isFinite = true)
    (hwords : ∀ kind index, command.reference? = some (kind, index) → index < UInt64.size) :
    Restored Command.variation Command.decode command.encode command := by
  cases command with
  | setRasterContext context => exact .variant rfl rfl (.map (RasterContext.restored hfinite))
  | setAccumulationContext context => exact .variant rfl rfl (.map context.restored)
  | setTexture textureUnit texture =>
    have hfields := (Fields.Restores.pure Command.setTexture)
      |>.apply (.required "unit" (.uint32 textureUnit))
      |>.apply (.required "texture" (.index (hwords _ texture rfl)))
    exact .variant rfl rfl (.record hfields (by decide) _)
  | setProgram program => exact .variant rfl rfl (.map (.index (hwords _ program rfl)))
  | setRenderTarget target => exact .variant rfl rfl (.map (.index (hwords _ target rfl)))
  | clearRenderTarget images =>
    have himages : Restored (list ClearImage.variation) (Decode.list ClearImage.decode)
        (Encode.list ClearImage.encode images) images :=
      .list fun image himage => ClearImage.restored fun x hx =>
        hfinite x (List.mem_flatMap.2 ⟨image, himage, hx⟩)
    exact .variant rfl rfl (.map himages)
  | setSamplerUniform name textureUnit =>
    have hfields := (Fields.Restores.pure Command.setSamplerUniform)
      |>.apply (.required "name" (.string name))
      |>.apply (.required "unit" (.uint32 textureUnit))
    exact .variant rfl rfl (.record hfields (by decide) _)
  | renderSlot slot => exact .variant rfl rfl (.map (.index (hwords _ slot rfl)))
  | renderStream stream => exact .variant rfl rfl (.map (.index (hwords _ stream rfl)))

/-! ## Resources -/

theorem SamplerDescriptor.restored {sampler : SamplerDescriptor}
    (hfinite : ∀ x ∈ sampler.singles, x.isFinite = true) :
    Restored SamplerDescriptor.variation SamplerDescriptor.decode sampler.encode sampler := by
  have hlod {lod? : Option Single} (hmem : ∀ x ∈ lod?, x.isFinite = true) :
      Restored (option number) (Decode.option Decode.single) (Encode.option Encode.single lod?)
        lod? :=
    .option (fun x hx => .single (hmem x hx))
      fun x hx => present_number (Restored.isPresent_single (hmem x hx))
  have hminLod := hlod fun x (hx : sampler.minLod = some x) => hfinite x (by simp [singles, hx])
  have hmaxLod := hlod fun x (hx : sampler.maxLod = some x) => hfinite x (by simp [singles, hx])
  have hbias := Restored.single (hfinite sampler.lodBias (by simp [singles]))
  have hwrap : Restored (option same) (Decode.option EdgeMode.decode)
      (Encode.option (fun mode => .ofString mode.name) sampler.wrapT) sampler.wrapT :=
    .option (fun mode _ => mode.restored) fun _ _ => present_same rfl
  have hcompare : Restored (option same) (Decode.option ComparisonFunction.decode)
      (Encode.option ComparisonFunction.encode sampler.compareFunc) sampler.compareFunc :=
    .option (fun function _ => function.restored) fun _ _ => present_same rfl
  have hfields := (Fields.Restores.pure SamplerDescriptor.mk)
    |>.apply (.optional "wrap_s" sampler.wrapS.restored (EdgeMode.restored .clampToEdge))
    |>.apply (.optional "wrap_t" hwrap .null)
    |>.apply (.optional "min_filter" sampler.minFilter.restored (Filter.restored .linear))
    |>.apply (.optional "mag_filter" sampler.magFilter.restored (Filter.restored .linear))
    |>.apply (.optional "min_lod" hminLod .null)
    |>.apply (.optional "max_lod" hmaxLod .null)
    |>.apply (.optional "lod_bias" hbias (.single (by decide : Single.zero.isFinite = true)))
    |>.apply (.optional "compare_func" hcompare .null)
  exact .record hfields (by decide) _

theorem TextureDescriptor.restored {texture : TextureDescriptor}
    (hfinite : ∀ x ∈ texture.sampler.singles, x.isFinite = true) :
    Restored TextureDescriptor.variation TextureDescriptor.decode texture.encode texture := by
  have hsize : Restored (list same) (Decode.vector Decode.uint32 2)
      (Encode.vector Encode.uint32 #v[texture.width, texture.height])
      #v[texture.width, texture.height] := .vector fun extent _ => .uint32 extent
  have hsampler : Restored SamplerDescriptor.variation SamplerDescriptor.decode
      (SamplerDescriptor.encode {}) {} :=
    SamplerDescriptor.restored (by decide)
  have hfields := (Fields.Restores.pure
      fun type (size : Vector UInt32 2) semantic sampler baseLevel maxLevel =>
        (⟨type, size[0], size[1], semantic, sampler, baseLevel, maxLevel⟩ : TextureDescriptor))
    |>.apply (.optional "texture_type" texture.textureType.restored (TextureType.restored .texture2D))
    |>.apply (.required "size" hsize)
    |>.apply (.required "semantic" texture.semantic.restored)
    |>.apply (.optional "sampler" (SamplerDescriptor.restored hfinite) hsampler)
    |>.apply (.optional "base_level" (.uint32 texture.baseLevel) (.uint32 0))
    |>.apply (.optional "max_level" (.uint32 texture.maxLevel) (.uint32 0))
  exact .record hfields (by decide) _

theorem ImageRef.restored {reference : ImageRef}
    (hword : ∀ texture mipLevel layer, reference = .textureImage texture mipLevel layer →
      texture < UInt64.size) :
    Restored ImageRef.variation ImageRef.decode reference.encode reference := by
  cases reference with
  | textureImage texture mipLevel layer =>
    have hlayer : Restored (option same) (Decode.option Decode.uint32)
        (Encode.option Encode.uint32 layer) layer :=
      .option (fun index _ => .uint32 index) fun _ _ => present_same rfl
    have hfields := (Fields.Restores.pure ImageRef.textureImage)
      |>.apply (.required "texture" (.index (hword texture mipLevel layer rfl)))
      |>.apply (.optional "mip_level" (.uint32 mipLevel) (.uint32 0))
      |>.apply (.optional "layer" hlayer .null)
    exact .variant rfl rfl (.record hfields (by decide) _)
  | framebuffer semantic => exact .variant rfl rfl (.map semantic.restored)

theorem TargetItem.restored {item : TargetItem}
    (hword : ∀ texture, item.textureIndex? = some texture → texture < UInt64.size) :
    Restored TargetItem.variation TargetItem.decode item.encode item := by
  have hreference : Restored (option ImageRef.variation) (Decode.option ImageRef.decode)
      (Encode.option ImageRef.encode item.reference) item.reference := by
    refine .option ?_ fun _ _ => present_variants _ _
    intro reference hreference
    refine ImageRef.restored fun texture mipLevel layer heq => hword texture ?_
    rw [textureIndex?, Option.mem_def.1 hreference, heq]
  have hfields := (Fields.Restores.pure TargetItem.mk)
    |>.apply (.required "target_semantic" item.semantic.restored)
    |>.apply (.optional "target_ref" hreference .null)
  exact .record hfields (by decide) _

theorem RenderTarget.restored {target : RenderTarget}
    (hwords : ∀ item ∈ target.items, ∀ texture, item.textureIndex? = some texture →
      texture < UInt64.size) :
    Restored RenderTarget.variation RenderTarget.decode target.encode target := by
  have hitems : Restored (list TargetItem.variation) (Decode.list TargetItem.decode)
      (Encode.list TargetItem.encode target.items) target.items :=
    .list fun item hitem => TargetItem.restored (hwords item hitem)
  have hfields := (Fields.Restores.pure RenderTarget.mk).apply (.required "render_targets" hitems)
  exact .record hfields (by decide) _

theorem Parameter.restored (parameter : Parameter) :
    Restored Parameter.variation Parameter.decode parameter.encode parameter := by
  have hfields := (Fields.Restores.pure Parameter.mk)
    |>.apply (.required "name" (.string parameter.name))
    |>.apply (.required "ty" parameter.type.restored)
  exact .record hfields (by decide) _

/-- The types under which inputs are declared. -/
theorem restored_types (types : Table String InputType) :
    Restored (table same) (Decode.table InputType.decode) (Encode.table InputType.encode types) types :=
  .table fun entry _ => entry.2.restored

theorem Program.restored (program : Program) :
    Restored Program.variation Program.decode program.encode program := by
  have hstreams : Restored (table Parameter.variation) (Decode.table Parameter.decode)
      (Encode.table Parameter.encode program.streams) program.streams :=
    .table fun entry _ => entry.2.restored
  have hgeometry : Restored (option same) (Decode.option Decode.string)
      (Encode.option Node.ofString program.geometryShader) program.geometryShader :=
    .option (fun source _ => .string source) fun _ _ => present_same rfl
  have hfields := (Fields.Restores.pure Program.mk)
    |>.apply (.optional "program_uniforms" (restored_types program.uniforms) .emptyTable)
    |>.apply (.optional "program_streams" hstreams .emptyTable)
    |>.apply (.optional "program_in_textures" (restored_types program.textures) .emptyTable)
    |>.apply (.required "vertex_shader" (.string program.vertexShader))
    |>.apply (.optional "geometry_shader" hgeometry .null)
    |>.apply (.required "fragment_shader" (.string program.fragmentShader))
  exact .record hfields (by decide) _

/-- The indices of the programs with which something is drawn. -/
theorem restored_indices {programs : List Nat} (hwords : ∀ program ∈ programs, program < UInt64.size) :
    Restored (list same) (Decode.list Decode.index) (Encode.list Encode.natural programs) programs :=
  .list fun program hprogram => .index (hwords program hprogram)

theorem Slot.restored {slot : Slot} (hwords : ∀ program ∈ slot.programs, program < UInt64.size) :
    Restored Slot.variation Slot.decode slot.encode slot := by
  have hfields := (Fields.Restores.pure Slot.mk)
    |>.apply (.required "slot_name" (.string slot.name))
    |>.apply (.optional "slot_streams" (restored_types slot.streams) .emptyTable)
    |>.apply (.optional "slot_uniforms" (restored_types slot.uniforms) .emptyTable)
    |>.apply (.required "slot_primitive" slot.primitive.restored)
    |>.apply (.optional "slot_programs" (restored_indices hwords) .emptyList)
  exact .record hfields (by decide) _

theorem StreamData.restored {stream : StreamData}
    (hfinite : ∀ array ∈ stream.arrays.values, ∀ x ∈ array.singles, x.isFinite = true)
    (hwords : ∀ program ∈ stream.programs, program < UInt64.size) :
    Restored StreamData.variation StreamData.decode stream.encode stream := by
  have harrays : Restored (table ArrayValue.variation) (Decode.table ArrayValue.decode)
      (Encode.table ArrayValue.encode stream.arrays) stream.arrays :=
    .table fun entry hentry => ArrayValue.restored (hfinite entry.2 (List.mem_map_of_mem hentry))
  have hfields := (Fields.Restores.pure StreamData.mk)
    |>.apply (.required "stream_data" harrays)
    |>.apply (.required "stream_type" (restored_types stream.types))
    |>.apply (.required "stream_primitive" stream.primitive.restored)
    |>.apply (.optional "stream_programs" (restored_indices hwords) .emptyList)
  exact .record hfields (by decide) _

/-! ## Pipelines -/

namespace Pipeline

variable {pipeline : Pipeline}

/-- A pipeline is restored from every writing, if its singles are finite and its indices fit the word
in which they are read. -/
theorem restored (hfinite : ∀ x ∈ pipeline.singles, x.isFinite = true)
    (hwords : ∀ reference ∈ pipeline.references, reference.index < UInt64.size) :
    Restored Pipeline.variation Pipeline.decode pipeline.encode pipeline := by
  have htextures : Restored (list TextureDescriptor.variation) (Decode.list TextureDescriptor.decode)
      (Encode.list TextureDescriptor.encode pipeline.textures) pipeline.textures := by
    refine .list fun texture htexture => TextureDescriptor.restored fun x hx => hfinite x ?_
    exact List.mem_append_left _ (List.mem_append_left _ (List.mem_flatMap.2 ⟨texture, htexture, hx⟩))
  have htargets : Restored (list RenderTarget.variation) (Decode.list RenderTarget.decode)
      (Encode.list RenderTarget.encode pipeline.targets) pipeline.targets := by
    refine .list fun target htarget => RenderTarget.restored fun item hitem texture htexture => ?_
    obtain ⟨_, hreference⟩ := mem_references_of_mem_targets htarget hitem htexture
    exact hwords _ hreference
  have hprograms : Restored (list Program.variation) (Decode.list Program.decode)
      (Encode.list Program.encode pipeline.programs) pipeline.programs :=
    .list fun program _ => program.restored
  have hslots : Restored (list Slot.variation) (Decode.list Slot.decode)
      (Encode.list Slot.encode pipeline.slots) pipeline.slots := by
    refine .list fun slot hslot => Slot.restored fun program hprogram => ?_
    obtain ⟨_, hreference⟩ := mem_references_of_mem_slots hslot hprogram
    exact hwords _ hreference
  have hstreams : Restored (list StreamData.variation) (Decode.list StreamData.decode)
      (Encode.list StreamData.encode pipeline.streams) pipeline.streams := by
    refine .list fun stream hstream => StreamData.restored (fun array harray x hx => hfinite x ?_)
      fun program hprogram => ?_
    · exact List.mem_append_left _ (List.mem_append_right _ (List.mem_flatMap.2
        ⟨stream, hstream, List.mem_flatMap.2 ⟨array, harray, hx⟩⟩))
    · obtain ⟨_, hreference⟩ := mem_references_of_mem_streams hstream hprogram
      exact hwords _ hreference
  have hcommands : Restored (list Command.variation) (Decode.list Command.decode)
      (Encode.list Command.encode pipeline.commands) pipeline.commands := by
    refine .list fun command hcommand => Command.restored (fun x hx => hfinite x ?_)
      fun kind index hreference => ?_
    · exact List.mem_append_right _ (List.mem_flatMap.2 ⟨command, hcommand, hx⟩)
    · obtain ⟨_, hreference⟩ := mem_references_of_mem_commands hcommand hreference
      exact hwords _ hreference
  have hfields := (Fields.Restores.pure Pipeline.mk)
    |>.apply (.optional "info" (.string pipeline.info) (.string ""))
    |>.apply (.required "backend" pipeline.backend.restored)
    |>.apply (.optional "textures" htextures .emptyList)
    |>.apply (.optional "targets" htargets .emptyList)
    |>.apply (.optional "programs" hprograms .emptyList)
    |>.apply (.optional "slots" hslots .emptyList)
    |>.apply (.optional "streams" hstreams .emptyList)
    |>.apply (.optional "commands" hcommands .emptyList)
  exact .record hfields (by decide) _

end Pipeline

/-- Whatever tree stands in the place of the one that is written for a pipeline, the pipeline is read
from it, and from every text that holds the tree. -/
theorem every_writing_is_read_back {pipeline : Pipeline} {tree : Node}
    (hfinite : ∀ x ∈ pipeline.singles, x.isFinite = true)
    (hwords : ∀ reference ∈ pipeline.references, reference.index < UInt64.size)
    (hwriting : Pipeline.variation pipeline.encode tree) :
    Pipeline.decode tree = .ok pipeline ∧
      ∀ text, (Json.read text).root = tree → (Json.read text).trailing = false →
        Pipeline.ofJson text = .ok pipeline := by
  have hdecode := (Pipeline.restored hfinite hwords).decode_eq hwriting
  refine ⟨hdecode, ?_⟩
  rintro text rfl htrailing
  have hload : Json.load Pipeline.decode text = .ok pipeline := by
    simp [Json.load, hdecode, htrailing, bind, Except.bind]
  rw [Pipeline.ofJson, hload]
  rfl

/-- A target on a texture whose look-ups are biased by one level. The target and the commands refer to the
texture and the target by index. -/
def Pipeline.biased : Pipeline where
  info := ""
  backend := .webGpu
  textures := [⟨.texture2D, 4, 8, .color, { lodBias := .one }, 0, 0⟩]
  targets := [⟨[⟨.color, some (.textureImage 0 0 none)⟩]⟩]
  programs := []
  slots := []
  streams := []
  commands := [.setTexture 3 0, .setRenderTarget 0]

/-- The members of the texture in short: no default is written, and the bias is written as an integer. -/
def Pipeline.biasedTexture : List (String × Node) :=
  [("sampler", .ofMembers [("lod_bias", .number (.natural 1))]),
    ("semantic", .ofString "Color"),
    ("size", .ofItems [.number (.natural 4), .number (.natural 8)])]

/-- The target without the defaults of its reference. -/
def Pipeline.biasedTarget : Node :=
  .ofMembers [("render_targets", .ofItems [.ofMembers [
    ("target_semantic", .ofString "Color"),
    ("target_ref", Encode.tagged "TextureImage" (.ofMembers [("texture", .number (.natural 0))]))]])]

/-- The commands; the first one names its texture before the unit. -/
def Pipeline.biasedCommands : List Node :=
  [Encode.tagged "SetTexture"
      (.ofMembers [("texture", .number (.natural 0)), ("unit", .number (.natural 3))]),
    Encode.tagged "SetRenderTarget" (.number (.natural 0))]

/-- The value of an unknown member, with a number beyond every range. -/
def Pipeline.biasedHint : Node := .ofMembers [("", .ofItems [.number .beyondRange, .null])]

/-- The pipeline in short, with an unknown member in front. -/
def Pipeline.biasedWriting : Node :=
  .ofMembers [
    ("hint", Pipeline.biasedHint),
    ("backend", .ofString "WebGpu"),
    ("textures", .ofItems [.ofMembers Pipeline.biasedTexture]),
    ("targets", .ofItems [Pipeline.biasedTarget]),
    ("commands", .ofItems Pipeline.biasedCommands)]

/-- The sample refers to its texture twice and to its target once. It is read from a tree that leaves out
the defaults, brings members into another order and begins with an unknown one. -/
theorem every_writing_is_read_back_biased :
    (∀ x ∈ Pipeline.biased.singles, x.isFinite = true) ∧
    Pipeline.biased.references.map (fun reference => (reference.kind, reference.index)) =
      [(.texture, 0), (.texture, 0), (.target, 0)] ∧
    (∀ reference ∈ Pipeline.biased.references, reference.index < UInt64.size) ∧
    Pipeline.variation Pipeline.biased.encode Pipeline.biasedWriting ∧
    Pipeline.decode Pipeline.biasedWriting = .ok Pipeline.biased := by
  have hfinite : ∀ x ∈ Pipeline.biased.singles, x.isFinite = true := by decide
  have hwords : ∀ reference ∈ Pipeline.biased.references, reference.index < UInt64.size := by decide
  have hone : (Double.ofSingle .one).IsInteger 1 := ⟨by decide, by decide +kernel⟩
  have hsampler : SamplerDescriptor.variation (SamplerDescriptor.encode { lodBias := .one })
      (.ofMembers [("lod_bias", .number (.natural 1))]) := by
    refine ⟨_, [("lod_bias", .number (.natural 1))], [], _, rfl, rfl, ?_, nofun, .refl _⟩
    exact .leaveOut rfl (.leaveOut rfl (.leaveOut rfl (.leaveOut rfl (.leaveOut rfl (.leaveOut rfl
      (.keep (.natural hone) (.leaveOut rfl .nil)))))))
  have htexture : TextureDescriptor.variation
      (TextureDescriptor.encode ⟨.texture2D, 4, 8, .color, { lodBias := .one }, 0, 0⟩)
      (.ofMembers Pipeline.biasedTexture) := by
    refine ⟨_, Pipeline.biasedTexture.reverse, [], _, rfl, rfl, ?_, nofun,
      List.reverse_perm Pipeline.biasedTexture⟩
    exact .leaveOut rfl (.keep (list_refl (by simp [same])) (.keep rfl (.keep hsampler
      (.leaveOut rfl (.leaveOut rfl .nil)))))
  have hreference : ImageRef.variation (ImageRef.encode (.textureImage 0 0 none))
      (Encode.tagged "TextureImage" (.ofMembers [("texture", .number (.natural 0))])) := by
    refine .inr ⟨"TextureImage", _, _, _, rfl, rfl, rfl, ?_⟩
    refine ⟨_, [("texture", .number (.natural 0))], [], _, rfl, rfl, ?_, nofun, .refl _⟩
    exact .keep rfl (.leaveOut rfl (.leaveOut rfl .nil))
  have htarget : RenderTarget.variation
      (RenderTarget.encode ⟨[⟨.color, some (.textureImage 0 0 none)⟩]⟩) Pipeline.biasedTarget := by
    refine ⟨_, _, [], _, rfl, rfl, .keep ⟨_, _, rfl, rfl, .cons ?_ .nil⟩ .nil, nofun, .refl _⟩
    exact ⟨_, _, [], _, rfl, rfl, .keep rfl (.keep hreference .nil), nofun, .refl _⟩
  have hsetTexture : Command.variation (Command.encode (.setTexture 3 0))
      (Encode.tagged "SetTexture"
        (.ofMembers [("texture", .number (.natural 0)), ("unit", .number (.natural 3))])) := by
    refine .inr ⟨"SetTexture", _, _, _, rfl, rfl, rfl, ?_⟩
    exact ⟨_, _, [], _, rfl, rfl, .keep rfl (.keep rfl .nil), nofun, .swap _ _ _⟩
  have hcommands : list Command.variation (Encode.list Command.encode Pipeline.biased.commands)
      (.ofItems Pipeline.biasedCommands) :=
    ⟨_, _, rfl, rfl, .cons hsetTexture (.cons (.inr ⟨"SetRenderTarget", _, _, _, rfl, rfl, rfl, rfl⟩)
      .nil)⟩
  have hhint : Pipeline.biasedHint.IsJson := by
    refine .record (by simp) ?_
    simp only [List.map_cons, List.map_nil, List.forall_mem_singleton]
    refine .list ?_
    simp only [List.forall_mem_cons]
    exact ⟨.number _, .null, nofun⟩
  have hwriting : Pipeline.variation Pipeline.biased.encode Pipeline.biasedWriting := by
    refine ⟨_, [("backend", .ofString "WebGpu"),
      ("textures", .ofItems [.ofMembers Pipeline.biasedTexture]),
      ("targets", .ofItems [Pipeline.biasedTarget]),
      ("commands", .ofItems Pipeline.biasedCommands)],
      [("hint", Pipeline.biasedHint)], _, rfl, rfl, ?_, ?_, List.perm_append_comm⟩
    · exact .leaveOut rfl (.keep rfl (.keep ⟨_, _, rfl, rfl, .cons htexture .nil⟩
        (.keep ⟨_, _, rfl, rfl, .cons htarget .nil⟩ (.leaveOut rfl (.leaveOut rfl (.leaveOut rfl
          (.keep hcommands .nil)))))))
    · rw [List.forall_mem_singleton]
      exact ⟨by decide, hhint⟩
  exact ⟨hfinite, rfl, hwords, hwriting, (every_writing_is_read_back hfinite hwords hwriting).1⟩

end FramePlan
