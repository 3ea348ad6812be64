import FramePlan.Engine
import FramePlan.Proofs.Table

/-!
# Outlines

The outline of something that refers to a device is what remains of it without the handles of that
device. Two devices have made the same of a pipeline if the outlines agree, and two scenes correspond
if theirs do. Whatever is looked up or bound by name depends on the outline only.

* `Resources.outline` and `Scene.outline`: what two devices can agree on.
* `streamBinding_outline`, `uniformValue_outline`, `drawnObjects_outline`: what is bound to names and what
  is drawn does not depend on handles.
-/

namespace FramePlan

variable {Handle : Type} {handles : Handles}

/-- Handles without content. -/
@[reducible]
def blank : Handles where
  Image := Unit
  RenderView := Unit
  DepthView := Unit
  Sampler := Unit
  Shader := Unit
  InputLayout := Unit
  Buffer := Unit

/-! ## Scenes -/

def Buffer.outline (buffer : Buffer Handle) : Buffer Unit := ⟨(), buffer.arrays⟩

def Stream.outline (stream : Stream Handle) : Stream Unit :=
  ⟨stream.type, stream.buffer.outline, stream.index, stream.isArray⟩

def Streams.outline (streams : Streams Handle) : Streams Unit := streams.mapValues Stream.outline

def StreamBinding.outline (binding : StreamBinding Handle) : StreamBinding Unit :=
  ⟨(), binding.offset, binding.format, binding.stepMode⟩

def Object.outline (object : Object Handle) : Object Unit where
  enabled := object.enabled
  order := object.order
  primitive := object.primitive
  vertexCount := object.vertexCount
  uniforms := object.uniforms
  streams := Streams.outline object.streams

def Scene.outline (scene : Scene Handle) : Scene Unit where
  objects := scene.objects.mapValues (List.map Object.outline)
  uniforms := scene.uniforms
  screenWidth := scene.screenWidth
  screenHeight := scene.screenHeight

/-! ## Resources -/

def CompiledTexture.outline (texture : CompiledTexture handles) : CompiledTexture blank where
  image := ()
  sampler := ()
  semantic := texture.semantic
  width := texture.width
  height := texture.height
  mipLevels := texture.mipLevels

def CompiledTarget.outline (target : CompiledTarget handles) : CompiledTarget blank where
  color := target.color.map fun _ => ()
  depth := target.depth.map fun _ => ()

def CompiledProgram.outline (program : CompiledProgram handles) : CompiledProgram blank where
  vertex := ()
  fragment := ()
  inputLayout := ()
  uniforms := program.uniforms
  samplers := program.samplers
  streams := program.streams

def CompiledStreams.outline (data : CompiledStreams handles) : CompiledStreams blank where
  streams := Streams.outline data.streams
  primitive := data.primitive
  vertexCount := data.vertexCount

def BackBuffer.outline (backBuffer : BackBuffer handles) : BackBuffer blank where
  width := backBuffer.width
  height := backBuffer.height
  depthImage := ()
  depthView := ()
  colorImage := ()
  colorView := ()

def Resources.outline (resources : Resources handles) : Resources blank where
  backBuffer := resources.backBuffer.outline
  textures := resources.textures.map CompiledTexture.outline
  targets := resources.targets.map CompiledTarget.outline
  programs := resources.programs.map CompiledProgram.outline
  streams := resources.streams.map CompiledStreams.outline

def CompiledPipeline.outline (compiled : CompiledPipeline handles) : CompiledPipeline blank where
  description := compiled.description
  config := compiled.config
  resources := compiled.resources.outline

/-! ## What an outline determines -/

theorem Stream.binding_outline (stream : Stream Handle) (name : String) :
    stream.outline.binding name = (stream.binding name).map StreamBinding.outline := by
  simp only [binding, outline, array?, Buffer.outline]
  cases VertexFormat.ofInputType? stream.type with
  | none => rfl
  | some format =>
    cases stream.buffer.arrays[stream.index]? with
    | none => rfl
    | some array =>
      dsimp only
      cases array.kind.feeds format with
      | false => rfl
      | true => rfl

theorem streamBinding_outline (slot : StreamSlot) (streams : Streams Handle) :
    streamBinding slot (Streams.outline streams) =
      (streamBinding slot streams).map StreamBinding.outline := by
  rw [streamBinding, streamBinding, Streams.outline, Table.get?_mapValues]
  cases streams.get? slot.stream with
  | none => rfl
  | some stream =>
    show (if stream.type = slot.type then stream.outline.binding slot.stream
      else .error (.streamTypeMismatch slot.stream slot.type stream.type)) = _
    by_cases htype : stream.type = slot.type
    · simp only [if_pos htype]
      exact stream.binding_outline slot.stream
    · simp only [if_neg htype]
      rfl

theorem resolveUniform?_outline (name : String) (object : Option (Object Handle))
    (scene : Scene Handle) :
    resolveUniform? name (object.map Object.outline) scene.outline =
      resolveUniform? name object scene := by
  cases object with
  | none => rfl
  | some object => rfl

theorem uniformValue_outline (name : String) (slot : UniformSlot)
    (object : Option (Object Handle)) (scene : Scene Handle) (policy : UnboundUniformPolicy) :
    uniformValue name slot (object.map Object.outline) scene.outline policy =
      uniformValue name slot object scene policy := by
  simp only [uniformValue, resolveUniform?_outline]

theorem drawnObjects_outline (objects : List (Object Handle)) :
    drawnObjects (objects.map Object.outline) = (drawnObjects objects).map Object.outline := by
  rw [drawnObjects, drawnObjects, List.filter_map]
  symm
  apply List.map_mergeSort
  intro first _ second _
  rfl

theorem shortestLength_outline (streams : Streams Handle) :
    shortestLength (Streams.outline streams) = shortestLength streams := by
  rw [shortestLength, shortestLength, Streams.outline, Table.values_mapValues, List.map_map]
  rfl

theorem dataStreams_outline (descriptor : StreamData) (buffer : Buffer Handle) :
    Streams.outline (dataStreams descriptor buffer) = dataStreams descriptor buffer.outline :=
  Table.mapValues_mapIdx _ _ _

end FramePlan
