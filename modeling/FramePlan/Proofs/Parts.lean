import FramePlan.Proofs.Compiled
import FramePlan.Proofs.Device.Attachments

/-!
# The parts of a pipeline

A pipeline is made in parts: the back buffer, then textures, targets, programs and stream data, each in
the order of the description. What each of them asks a recorder for depends on the description
alone, and so does the reason for which it fails, if it does.

* `Pipeline.parts`: the parts in their order.
* `Part.requests`: what a part asks a recorder for.
* `Part.fault?`: why a part fails, if it does.
* `Resources.asks_compile`: the parts are asked for in their order.
-/

namespace FramePlan

open Request (firstFault?)
open Recorder (imageFault? shaderFault? imageRequest shaderRequest)
open Shader (Interface)

/-- What a construction is made with: the settings, the greatest side of an image, and the number of the
first thing that is created. -/
structure ConstructionSite where
  width : UInt32
  height : UInt32
  config : Config
  greatestSide : UInt32
  firstId : Nat

namespace ConstructionSite

/-- The number of the image of a texture. The back buffer comes first with two images and their views, and
every texture has a sampler. -/
def textureId (site : ConstructionSite) (index : Nat) : Nat := site.firstId + 4 + 2 * index

def depthImage (site : ConstructionSite) : ImageDescriptor :=
  ⟨site.width, site.height, 1, .depth, .depthStencil⟩

def colorImage (site : ConstructionSite) : ImageDescriptor :=
  ⟨site.width, site.height, 1, .color, .renderTarget⟩

/-- The view that an item of a target asks for; one of the back buffer is there already. -/
def itemCall? (site : ConstructionSite) (item : TargetItem) : Option DeviceCall :=
  item.textureIndex?.map fun index =>
    match item.semantic with
    | .color => .createRenderView (site.textureId index)
    | .depth | .stencil => .createDepthView (site.textureId index)

/-- Why a stage of a program cannot be compiled, if it cannot; the vertex stage comes first. -/
def programFault? (site : ConstructionSite) (descriptor : Program) : Option DeviceError :=
  (shaderFault? .vertex descriptor.vertexShader site.config.vertexEntryPoint).or
    (shaderFault? .fragment descriptor.fragmentShader site.config.fragmentEntryPoint)

def layoutAttributes (site : ConstructionSite) (descriptor : Program) : List VertexAttribute :=
  match Interface.ofSource descriptor.vertexShader .vertex site.config.vertexEntryPoint with
  | .ok interface => inputAttributes interface
  | .error _ => []

end ConstructionSite

/-- What a recorder has to begin a construction with. -/
def Recorder.site (recorder : Recorder) (width height : UInt32) (config : Config) :
    ConstructionSite :=
  ⟨width, height, config, recorder.greatestSide, recorder.nextId⟩

/-- Something that is made of a pipeline, with its index. -/
inductive Part where
  | backBuffer
  | texture (index : Nat) (descriptor : TextureDescriptor)
  | target (index : Nat) (descriptor : RenderTarget)
  | program (index : Nat) (descriptor : Program)
  | streams (index : Nat) (descriptor : StreamData)

/-- The parts of a pipeline in the order in which they are made. -/
def Pipeline.parts (pipeline : Pipeline) : List Part :=
  .backBuffer :: ((pipeline.textures.zipIdx.map fun entry => .texture entry.2 entry.1) ++
    ((pipeline.targets.zipIdx.map fun entry => .target entry.2 entry.1) ++
      ((pipeline.programs.zipIdx.map fun entry => .program entry.2 entry.1) ++
        (pipeline.streams.zipIdx.map fun entry => .streams entry.2 entry.1))))

namespace Part

/-- Why a part fails, if it does. -/
def fault? (site : ConstructionSite) : Part → Option CompileError
  | .backBuffer =>
    ((imageFault? site.greatestSide site.depthImage).or
      (imageFault? site.greatestSide site.colorImage)).map (.backBuffer <| .resourceCreation ·)
  | .texture index descriptor =>
    (imageFault? site.greatestSide descriptor.image).map (.texture index <| .resourceCreation ·)
  | .target _ _ => none
  | .program index descriptor =>
    if descriptor.geometryShader.isSome then some (.unsupportedGeometryStage index)
    else (site.programFault? descriptor).map (.program index)
  | .streams index descriptor =>
    if descriptor.primitive.primitive?.isNone then
      some (.unsupportedFetchPrimitive index descriptor.primitive)
    else none

/-- What a part asks a recorder for whose next thing has a number. A program with a geometry stage and
stream data with adjacency ask for nothing. -/
def requests (site : ConstructionSite) (nextId : Nat) : Part → List (Request CompileError)
  | .backBuffer =>
    [imageRequest site.greatestSide site.depthImage, .create (.createDepthView nextId) none,
      imageRequest site.greatestSide site.colorImage,
      .create (.createRenderView (nextId + 2)) none].map (Request.mapError .backBuffer)
  | .texture index descriptor =>
    [imageRequest site.greatestSide descriptor.image,
      .create (.createSampler descriptor.sampler) none].map (Request.mapError (.texture index))
  | .target index descriptor =>
    ((descriptor.items.filterMap site.itemCall?).map (.create · none)).map
      (Request.mapError (.target index))
  | .program index descriptor =>
    if descriptor.geometryShader.isSome then [.refuse (.unsupportedGeometryStage index)]
    else
      [shaderRequest .vertex descriptor.vertexShader site.config.vertexEntryPoint
          site.config.vertexProfile,
        shaderRequest .fragment descriptor.fragmentShader site.config.fragmentEntryPoint
          site.config.fragmentProfile,
        .create (.createInputLayout nextId (site.layoutAttributes descriptor)) none].map
        (Request.mapError (.program index))
  | .streams index descriptor =>
    match descriptor.primitive.primitive? with
    | none => [.refuse (.unsupportedFetchPrimitive index descriptor.primitive)]
    | some _ =>
      [.create (.createVertexBuffer
        (descriptor.arrays.values.flatMap ArrayValue.bytes).length) none].map
        (Request.mapError (.stream index))

theorem firstFault?_requests (site : ConstructionSite) (nextId : Nat) (part : Part) :
    firstFault? (part.requests site nextId) = part.fault? site := by
  cases part with
  | backBuffer =>
    rw [requests, fault?]
    unfold imageRequest
    cases imageFault? site.greatestSide site.depthImage with
    | some fault => rfl
    | none => cases imageFault? site.greatestSide site.colorImage <;> rfl
  | texture index descriptor =>
    rw [requests, fault?]
    unfold imageRequest
    cases imageFault? site.greatestSide descriptor.image <;> rfl
  | target index descriptor =>
    rw [requests, Request.firstFault?_mapError, Request.firstFault?_granted]
    rfl
  | program index descriptor =>
    rw [requests, fault?]
    cases descriptor.geometryShader.isSome with
    | true => rfl
    | false =>
      unfold ConstructionSite.programFault? shaderRequest
      cases shaderFault? .vertex descriptor.vertexShader site.config.vertexEntryPoint with
      | some fault => rfl
      | none =>
        cases shaderFault? .fragment descriptor.fragmentShader site.config.fragmentEntryPoint <;>
          rfl
  | streams index descriptor =>
    rw [requests, fault?]
    cases descriptor.primitive.primitive? with
    | none => rfl
    | some primitive => rfl

end Part

/-- What parts ask for in turn, the first of them at a number. -/
def requestsFrom (site : ConstructionSite) (nextId : Nat) : List Part → List (Request CompileError)
  | [] => []
  | part :: rest =>
    part.requests site nextId ++
      requestsFrom site (nextId + (part.requests site nextId).length) rest

/-- The numbers at which parts begin. -/
def startsFrom (site : ConstructionSite) (nextId : Nat) : List Part → List Nat
  | [] => []
  | part :: rest => nextId :: startsFrom site (nextId + (part.requests site nextId).length) rest

theorem requestsFrom_append (site : ConstructionSite) (nextId : Nat) (first last : List Part) :
    requestsFrom site nextId (first ++ last) =
      requestsFrom site nextId first ++
        requestsFrom site (nextId + (requestsFrom site nextId first).length) last := by
  induction first generalizing nextId with
  | nil => rfl
  | cons part rest ih =>
    rw [List.cons_append, requestsFrom, requestsFrom, ih, List.append_assoc, List.length_append,
      Nat.add_assoc]

theorem firstFault?_requestsFrom (site : ConstructionSite) (nextId : Nat) (parts : List Part) :
    firstFault? (requestsFrom site nextId parts) = parts.findSome? (·.fault? site) := by
  induction parts generalizing nextId with
  | nil => rfl
  | cons part rest ih =>
    rw [requestsFrom, Request.firstFault?_append, Part.firstFault?_requests, ih,
      List.findSome?_cons]
    cases part.fault? site <;> rfl

/-! ## Making the parts -/

variable {site : ConstructionSite} {recorder : Recorder}

theorem asks_createBackBuffer (hside : recorder.greatestSide = site.greatestSide) :
    Asks recorder ((BackBuffer.create site.width site.height :
        Attempt Recorder DeviceError (BackBuffer Recorder.handles)).adapt CompileError.backBuffer)
      (Part.backBuffer.requests site recorder.nextId) fun _ => True := by
  rw [Part.requests]
  apply Asks.adapt
  refine (Recorder.asks_createImage hside site.depthImage).bind_cons fun hdepth depth hdepthId => ?_
  rw [← hdepthId]
  refine (Recorder.asks_create _ _ _).bind_cons fun hview _ _ => ?_
  refine Asks.bind_cons (Recorder.asks_createImage (Recorder.greatestSide_after
    (Recorder.greatestSide_after hside _) _) site.colorImage) fun _ color hcolorId => ?_
  rw [Recorder.nextId_after_singleton hview, Recorder.nextId_after_singleton hdepth] at hcolorId
  rw [hdepthId, ← hcolorId]
  refine (Recorder.asks_create _ _ _).bind_cons fun _ _ _ => ?_
  exact Asks.pure trivial

/-- The image of a texture takes the number at which the texture begins. -/
theorem asks_compileTexture (hside : recorder.greatestSide = site.greatestSide) (index : Nat)
    (descriptor : TextureDescriptor) :
    Asks recorder ((compileTexture descriptor :
        Attempt Recorder DeviceError (CompiledTexture Recorder.handles)).adapt
          (CompileError.texture index))
      ((Part.texture index descriptor).requests site recorder.nextId)
      fun texture => texture.image.id = recorder.nextId := by
  rw [Part.requests]
  exact (Recorder.asks_compileTexture hside descriptor).adapt

/-- Items are made one after the other. -/
theorem Asks.mapM {γ β : Type} {items : List γ} {attempt : γ → Attempt Recorder CompileError β}
    {part : γ → Part} (made : Nat → β → Prop)
    (hitem : ∀ item ∈ items, ∀ reached : Recorder, reached.greatestSide = site.greatestSide →
      Asks reached (attempt item) ((part item).requests site reached.nextId) (made reached.nextId))
    (hside : recorder.greatestSide = site.greatestSide) :
    Asks recorder (items.mapM attempt) (requestsFrom site recorder.nextId (items.map part))
      fun results => List.Forall₂ made (startsFrom site recorder.nextId (items.map part)) results := by
  induction items generalizing recorder with
  | nil => exact Asks.pure .nil
  | cons item rest ih =>
    rw [List.mapM_cons, List.map_cons, requestsFrom, startsFrom]
    refine (hitem item List.mem_cons_self recorder hside).bind fun hgranted result hresult => ?_
    rw [← Recorder.nextId_after_of_granted hgranted]
    have hrest := ih (fun other hmem => hitem other (.tail _ hmem))
      (Recorder.greatestSide_after hside ((part item).requests site recorder.nextId))
    rw [← List.append_nil (requestsFrom site _ (rest.map part))]
    refine hrest.bind fun _ results hresults => ?_
    exact Asks.pure (.cons hresult hresults)

/-- What comes after items is asked for after their parts. -/
theorem Asks.mapM_bind {γ β δ : Type} {items : List γ}
    {attempt : γ → Attempt Recorder CompileError β} {part : γ → Part} (made : Nat → β → Prop)
    (hitem : ∀ item ∈ items, ∀ reached : Recorder, reached.greatestSide = site.greatestSide →
      Asks reached (attempt item) ((part item).requests site reached.nextId) (made reached.nextId))
    (hside : recorder.greatestSide = site.greatestSide)
    {next : List β → Attempt Recorder CompileError δ} {later : List Part} {made' : δ → Prop}
    (hnext : ∀ results,
      List.Forall₂ made (startsFrom site recorder.nextId (items.map part)) results →
        ∀ reached : Recorder, reached.greatestSide = site.greatestSide →
          Asks reached (next results) (requestsFrom site reached.nextId later) made') :
    Asks recorder (items.mapM attempt >>= next)
      (requestsFrom site recorder.nextId (items.map part ++ later)) made' := by
  rw [requestsFrom_append]
  refine (Asks.mapM made hitem hside).bind fun hgranted results hresults => ?_
  rw [← Recorder.nextId_after_of_granted hgranted]
  exact hnext results hresults _ (Recorder.greatestSide_after hside _)

theorem asks_compileTargetAt {textures : List (CompiledTexture Recorder.handles)}
    {descriptor : RenderTarget}
    (hitems : ∀ item ∈ descriptor.items, ∀ index, item.textureIndex? = some index →
      ∃ texture, textures[index]? = some texture ∧ texture.image.id = site.textureId index)
    (backBuffer : BackBuffer Recorder.handles) (index : Nat) :
    Asks recorder ((compileTarget textures backBuffer descriptor :
        Attempt Recorder DeviceError (CompiledTarget Recorder.handles)).adapt
          (CompileError.target index))
      ((Part.target index descriptor).requests site recorder.nextId) fun _ => True := by
  have hcovered : ∀ item ∈ descriptor.items, item.IsCovered textures := by
    intro item hitem index hindex
    obtain ⟨_, hget, _⟩ := hitems item hitem index hindex
    exact (List.getElem?_eq_some_iff.1 hget).1
  have hcalls : descriptor.items.filterMap site.itemCall? =
      descriptor.items.filterMap (·.viewCall? textures) := by
    apply List.filterMap_congr
    intro item hitem
    rw [ConstructionSite.itemCall?, TargetItem.viewCall?, TargetItem.image?]
    cases hindex : item.textureIndex? with
    | none => rfl
    | some index =>
      obtain ⟨texture, hget, hid⟩ := hitems item hitem index hindex
      rw [Option.bind_some, hget, Option.map_some, Option.map_some, Option.map_some, ← hid]
      cases item.semantic <;> rfl
  rw [Part.requests, hcalls]
  exact ((asks_compileTarget hcovered backBuffer).adapt).imp fun _ _ => trivial

/-- A program asks for its stages and then for a layout of what its vertex stage exposes. -/
theorem asks_compileProgramAt (index : Nat) (descriptor : Program) :
    Asks recorder (compileProgramAt site.config descriptor index :
        Attempt Recorder CompileError (CompiledProgram Recorder.handles))
      ((Part.program index descriptor).requests site recorder.nextId) fun _ => True := by
  rw [Part.requests, compileProgramAt]
  cases descriptor.geometryShader.isSome with
  | true => exact Asks.throw
  | false =>
    apply Asks.adapt
    refine (Recorder.asks_compileShader _ _ _ _ _).bind_cons fun _ vertex hvertex => ?_
    refine (Recorder.asks_compileShader _ _ _ _ _).bind_cons fun _ fragment _ => ?_
    rw [ConstructionSite.layoutAttributes, hvertex.2, ← hvertex.1]
    exact (Recorder.asks_create _ _ _).bind_cons fun _ _ _ => Asks.pure trivial

theorem asks_compileStreamsAt (index : Nat) (descriptor : StreamData) :
    Asks recorder (compileStreamsAt descriptor index :
        Attempt Recorder CompileError (CompiledStreams Recorder.handles))
      ((Part.streams index descriptor).requests site recorder.nextId) fun _ => True := by
  rw [Part.requests, compileStreamsAt]
  cases descriptor.primitive.primitive? with
  | none => exact Asks.throw
  | some primitive =>
    apply Asks.adapt
    have hbuffer : Asks recorder (Buffer.create descriptor.arrays.values :
        Attempt Recorder DeviceError (Buffer Recorder.handles.Buffer))
        [.create (.createVertexBuffer
          (descriptor.arrays.values.flatMap ArrayValue.bytes).length) none] fun _ => True := by
      unfold Buffer.create
      exact (Recorder.asks_create _ _ _).bind_cons fun _ _ _ => Asks.pure trivial
    exact hbuffer.bind_cons fun _ _ _ => Asks.pure trivial

/-- Every texture takes two numbers. -/
theorem getElem?_startsFrom_textures {textures : List TextureDescriptor} {index : Nat}
    (hindex : index < textures.length) (nextId first : Nat) :
    (startsFrom site nextId ((textures.zipIdx first).map fun entry =>
      .texture entry.2 entry.1))[index]? = some (nextId + 2 * index) := by
  induction textures generalizing nextId first index with
  | nil => cases hindex
  | cons descriptor rest ih =>
    rw [List.zipIdx_cons, List.map_cons, startsFrom]
    cases index with
    | zero => rfl
    | succ index =>
      have hrest := ih (Nat.lt_of_succ_lt_succ hindex) (nextId + 2) (first + 1)
      rw [List.getElem?_cons_succ]
      refine hrest.trans (congrArg some ?_)
      omega

/-- Textures that begin at a number have their images two numbers apart from there. -/
theorem exists_texture_of_forall₂ {descriptors : List TextureDescriptor} {nextId : Nat}
    {textures : List (CompiledTexture Recorder.handles)}
    (hmade : List.Forall₂ (fun id texture => texture.image.id = id)
      (startsFrom site nextId (descriptors.zipIdx.map fun entry => .texture entry.2 entry.1))
      textures) {index : Nat} (hindex : index < descriptors.length) :
    ∃ texture, textures[index]? = some texture ∧ texture.image.id = nextId + 2 * index := by
  have hstart : (startsFrom site nextId (descriptors.zipIdx.map fun entry =>
      .texture entry.2 entry.1))[index]? = some (nextId + 2 * index) :=
    getElem?_startsFrom_textures hindex nextId 0
  obtain ⟨texture, hget, hid⟩ := exists_of_forall₂_getElem? hmade.flip hstart
  exact ⟨texture, hget, hid⟩

/-- Parts are asked for in their order. -/
theorem Resources.asks_compile {pipeline : Pipeline} (hvalid : pipeline.validate = .ok ())
    (site : ConstructionSite) (hside : recorder.greatestSide = site.greatestSide)
    (hfirst : recorder.nextId = site.firstId) :
    Asks recorder (Resources.compile pipeline site.width site.height site.config :
        Attempt Recorder CompileError (Resources Recorder.handles))
      (requestsFrom site recorder.nextId pipeline.parts) fun _ => True := by
  unfold Resources.compile
  rw [Pipeline.parts, requestsFrom]
  refine (asks_createBackBuffer hside).bind fun hback backBuffer _ => ?_
  rw [← Recorder.nextId_after_of_granted hback]
  have hid : (recorder.after (Part.backBuffer.requests site recorder.nextId)).nextId =
      site.firstId + 4 := by
    rw [Recorder.nextId_after_of_granted hback, hfirst]
    rfl
  refine Asks.mapM_bind (fun id texture => texture.image.id = id)
    (fun entry _ _ hside => asks_compileTexture hside entry.2 entry.1)
    (Recorder.greatestSide_after hside _) fun textures htextures reached hside => ?_
  rw [hid] at htextures
  refine Asks.mapM_bind (fun _ _ => True)
    (fun entry hmem _ _ => asks_compileTargetAt ?_ backBuffer entry.2) hside
    fun targets _ reached hside => ?_
  · intro item hitem index hindex
    exact exists_texture_of_forall₂ htextures
      (Pipeline.index_lt_of_mem_targets hvalid (List.fst_mem_of_mem_zipIdx hmem) hitem hindex)
  refine Asks.mapM_bind (fun _ _ => True)
    (fun entry _ _ _ => asks_compileProgramAt entry.2 entry.1) hside
    fun programs _ reached hside => ?_
  rw [← List.append_nil (List.map _ pipeline.streams.zipIdx)]
  exact Asks.mapM_bind (fun _ _ => True)
    (fun entry _ _ _ => asks_compileStreamsAt entry.2 entry.1) hside
    fun streams _ reached _ => Asks.pure trivial

end FramePlan
