import FramePlan.Gpu.Draw
import FramePlan.Proofs.Creation
import FramePlan.Proofs.Frame.Turn
import FramePlan.Proofs.Table

/-!
# The life of a GPU

A GPU is asked to compile pipelines and to render frames of them, in any order. Compiling binds nothing,
and a frame binds no textures but those of its pipeline, so whatever a texture unit holds is a texture
of one of the pipelines, made with the abilities of this GPU.

* `Gpu.Reached`: a GPU after some compilations and frames.
* `Gpu.Reached.areMade_and_holdsMade`: what its pipelines and its units hold.
* `Gpu.Reached.holdsMade_within`: what its units hold within a frame.
-/

namespace FramePlan

/-! ## Where textures come from -/

theorem Frame.exists_of_setTexture_mem_actions {handles : Handles} {frame : Frame handles}
    {cursor : Cursor} {command : Command} {textureUnit : UInt32} {image : handles.Image}
    {sampler : handles.Sampler}
    (hmem : .setTexture textureUnit image sampler ∈ frame.actions cursor command) :
    ∃ texture ∈ frame.resources.textures, texture.image = image ∧ texture.sampler = sampler := by
  have hsubmitted {submissions : Option (List (Submission handles))}
      (hmem : .setTexture textureUnit image sampler ∈ frame.renderActions submissions) : False := by
    cases submissions with
    | none => cases List.mem_singleton.1 hmem
    | some submissions =>
      obtain ⟨submission, _, hmem⟩ := List.mem_flatMap.1 hmem
      rcases submission.mem_actions hmem with ⟨_, _, h⟩ | ⟨_, h, _⟩ | ⟨_, _, h⟩ | h <;> cases h
  cases command with
  | setTexture other index =>
    simp only [actions] at hmem
    cases hget : frame.resources.textures[index]? with
    | none =>
      rw [hget] at hmem
      cases List.mem_singleton.1 hmem
    | some texture =>
      rw [hget] at hmem
      cases List.mem_singleton.1 hmem
      exact ⟨texture, List.mem_of_getElem? hget, rfl, rfl⟩
  | setRasterContext context => cases List.mem_singleton.1 hmem
  | setAccumulationContext context => cases List.mem_singleton.1 hmem
  | setProgram index =>
    simp only [actions] at hmem
    split at hmem <;> cases List.mem_singleton.1 hmem
  | setRenderTarget index =>
    simp only [actions] at hmem
    split at hmem
    · rcases List.mem_cons.1 hmem with h | hviewport
      · cases h
      · obtain ⟨_, _, h⟩ := List.mem_map.1 hviewport
        cases h
    · cases List.mem_singleton.1 hmem
  | clearRenderTarget images =>
    simp only [actions] at hmem
    split at hmem
    · rcases ClearRequest.mem_actions hmem with ⟨_, _, h⟩ | ⟨_, _, _, h⟩ <;> cases h
    · cases List.mem_singleton.1 hmem
  | setSamplerUniform name other =>
    simp only [actions] at hmem
    split at hmem
    · split at hmem <;> cases List.mem_singleton.1 hmem
    · cases List.mem_singleton.1 hmem
  | renderSlot slot => exact (hsubmitted hmem).elim
  | renderStream stream => exact (hsubmitted hmem).elim

theorem CompiledPipeline.exists_of_setTexture_mem_plan {handles : Handles}
    {compiled : CompiledPipeline handles} {scene : Option (Scene handles.Buffer)}
    {textureUnit : UInt32} {image : handles.Image} {sampler : handles.Sampler}
    (hmem : .setTexture textureUnit image sampler ∈ compiled.plan scene) :
    ∃ texture ∈ compiled.resources.textures,
      texture.image = image ∧ texture.sampler = sampler := by
  obtain ⟨place, _, hmem⟩ := List.mem_flatMap.1 hmem
  exact Frame.exists_of_setTexture_mem_actions hmem

/-- What a GPU of some abilities makes of a texture. -/
structure TextureDescriptor.Makes (features : GpuFeatures) (descriptor : TextureDescriptor)
    (texture : BoundTexture) : Prop where
  format : texture.image.format = descriptor.semantic.format
  binding : texture.sampler.binding = Gpu.samplerBinding features descriptor.sampler

/-- A texture of one of some pipelines, on a GPU of some abilities. -/
def Gpu.IsMade (features : GpuFeatures) (made : List (CompiledPipeline Gpu.handles))
    (texture : BoundTexture) : Prop :=
  ∃ owner ∈ made, ∃ descriptor ∈ owner.description.textures, descriptor.Makes features texture

namespace Gpu

/-- Creations change neither the abilities of a GPU nor what is bound. -/
theorem creationKeeps : Device.CreationKeeps fun gpu : Gpu => (gpu.features, gpu.bound) where
  createImage descriptor gpu := by
    show ((createImage descriptor gpu).2.features, (createImage descriptor gpu).2.bound) = _
    unfold createImage
    split
    · rfl
    · split <;> rfl
  createRenderView image := by
    show Attempt.Keeps _ (createRenderView image)
    unfold createRenderView
    split
    · exact .pure _
    · exact .throw _
  createDepthView image := by
    show Attempt.Keeps _ (createDepthView image)
    unfold createDepthView
    split
    · exact .pure _
    · exact .throw _
  createSampler descriptor gpu := by
    show ((createSampler descriptor gpu).2.features, (createSampler descriptor gpu).2.bound) = _
    unfold createSampler
    split <;> rfl
  compileShader stage source entryPoint profile := by
    show Attempt.Keeps _ (compileShader stage source entryPoint profile)
    unfold compileShader
    split
    · exact .throw _
    · split
      · exact .pure _
      · exact .throw _
  createInputLayout vertex attributes := by
    show Attempt.Keeps _ (createInputLayout vertex attributes)
    unfold createInputLayout
    split
    · exact .pure _
    · exact .throw _
  createVertexBuffer contents := .pure _

theorem makes_of_compileTexture {descriptor : TextureDescriptor}
    {texture : CompiledTexture Gpu.handles} {before after : Gpu}
    (hok : compileTexture descriptor before = (.ok texture, after)) :
    descriptor.Makes before.features ⟨texture.image, texture.sampler⟩ := by
  obtain ⟨image, reached, himage, hok⟩ := Attempt.bind_eq_ok.1 hok
  obtain ⟨sampler, last, hsampler, hok⟩ := Attempt.bind_eq_ok.1 hok
  cases hok
  have hfeatures : reached.features = before.features := by
    have hkept := congrArg Prod.fst (creationKeeps.createImage descriptor.image before)
    rw [himage] at hkept
    exact hkept
  constructor
  · have himage : createImage descriptor.image before = (.ok image, reached) := himage
    unfold createImage at himage
    split at himage
    · cases himage
    · split at himage
      · cases himage
      · cases himage
        rfl
  · have hsampler : createSampler descriptor.sampler reached = (.ok sampler, after) := hsampler
    unfold createSampler at hsampler
    split at hsampler
    · cases hsampler
      exact congrArg (samplerBinding · descriptor.sampler) hfeatures
    · cases hsampler

/-! ## Sequences of compilations and frames -/

/-- A GPU of some abilities after pipelines have been compiled on it, or could not be, and frames of
these have been rendered, in any order. -/
inductive Reached (features : GpuFeatures) :
    List (CompiledPipeline Gpu.handles) → Gpu → Prop where
  | new : Reached features [] { features }
  | compile {made : List (CompiledPipeline Gpu.handles)} {gpu : Gpu}
      (hreached : Reached features made gpu) (pipeline : Pipeline) (width height : UInt32)
      (config : Config) :
      Reached features
        ((CompiledPipeline.compile pipeline width height config gpu).1.toOption.toList ++ made)
        (CompiledPipeline.compile pipeline width height config gpu).2
  | render {made : List (CompiledPipeline Gpu.handles)} {gpu : Gpu}
      {compiled : CompiledPipeline Gpu.handles} (hreached : Reached features made gpu)
      (hmem : compiled ∈ made) (scene : Option (Scene GpuBuffer)) :
      Reached features made (compiled.render scene gpu).2

/-- A GPU of some abilities whose units hold nothing but textures of some pipelines. -/
structure HoldsMade (features : GpuFeatures) (made : List (CompiledPipeline Gpu.handles))
    (gpu : Gpu) : Prop where
  features_eq : gpu.features = features
  units : ∀ ⦃textureUnit texture⦄, gpu.bound.units.get? textureUnit = some texture →
    IsMade features made texture

/-- Whether the textures of some pipelines have been made on a GPU of some abilities. -/
def AreMade (features : GpuFeatures) (made : List (CompiledPipeline Gpu.handles)) : Prop :=
  ∀ compiled ∈ made, ∀ texture ∈ compiled.resources.textures,
    ∃ descriptor ∈ compiled.description.textures,
      descriptor.Makes features ⟨texture.image, texture.sampler⟩

variable {features : GpuFeatures} {made : List (CompiledPipeline Gpu.handles)} {gpu : Gpu}

theorem features_apply (action : Action Gpu.handles) (gpu : Gpu) :
    (action.apply gpu).features = gpu.features := by
  cases action <;> rfl

/-- A texture that is bound replaces what its unit held, and nothing else is put into a unit. -/
theorem get?_units_apply {action : Action Gpu.handles} {gpu : Gpu} {textureUnit : UInt32}
    {texture : BoundTexture}
    (hget : (action.apply gpu).bound.units.get? textureUnit = some texture) :
    action = .setTexture textureUnit texture.image texture.sampler ∨
      gpu.bound.units.get? textureUnit = some texture := by
  cases action with
  | setTexture other image sampler =>
    have hget : (gpu.bound.units.insert other ⟨image, sampler⟩).get? textureUnit = some texture :=
      hget
    rw [Table.get?_insert_eq_ite] at hget
    by_cases hsame : other = textureUnit
    · rw [if_pos hsame] at hget
      cases hget
      cases hsame
      exact .inl rfl
    · rw [if_neg hsame] at hget
      exact .inr hget
  | _ => exact .inr hget

/-- Actions of a frame leave nothing in a unit but textures of pipelines. -/
theorem HoldsMade.foldl_apply (hmade : AreMade features made)
    {compiled : CompiledPipeline Gpu.handles} (hmem : compiled ∈ made)
    {scene : Option (Scene GpuBuffer)} {actions : List (Action Gpu.handles)}
    (hactions : ∀ action ∈ actions, action ∈ compiled.plan scene)
    (hholds : HoldsMade features made gpu) :
    HoldsMade features made (actions.foldl (fun device action => action.apply device) gpu) := by
  induction actions generalizing gpu with
  | nil => exact hholds
  | cons action rest ih =>
    obtain ⟨haction, hrest⟩ := List.forall_mem_cons.1 hactions
    refine ih hrest ⟨(features_apply action gpu).trans hholds.features_eq, ?_⟩
    intro textureUnit texture hget
    rcases get?_units_apply hget with rfl | hget
    · obtain ⟨source, hsource, himage, hsampler⟩ :=
        CompiledPipeline.exists_of_setTexture_mem_plan haction
      obtain ⟨descriptor, hdescriptor, hmakes⟩ := hmade compiled hmem source hsource
      rw [himage, hsampler] at hmakes
      exact ⟨compiled, hmem, descriptor, hdescriptor, hmakes⟩
    · exact hholds.units hget

/-- A compilation adds a pipeline whose textures it has made, and binds nothing. -/
theorem HoldsMade.compile (hmade : AreMade features made) (hholds : HoldsMade features made gpu)
    (pipeline : Pipeline) (width height : UInt32) (config : Config) :
    AreMade features
        ((CompiledPipeline.compile pipeline width height config gpu).1.toOption.toList ++ made) ∧
      HoldsMade features
        ((CompiledPipeline.compile pipeline width height config gpu).1.toOption.toList ++ made)
        (CompiledPipeline.compile pipeline width height config gpu).2 := by
  have hkept := CompiledPipeline.keeps_compile creationKeeps pipeline width height config gpu
  constructor
  · intro compiled hmem texture htexture
    rcases List.mem_append.1 hmem with hnew | hold
    · rcases hrun : CompiledPipeline.compile pipeline width height config gpu with
        ⟨error | result, last⟩
      · rw [hrun] at hnew
        cases hnew
      · rw [hrun] at hnew
        cases List.mem_singleton.1 hnew
        have htextures := CompiledPipeline.forall₂_textures creationKeeps hrun
        obtain ⟨descriptor, hdescriptor, before, after, hview, hok⟩ :=
          exists_of_mem_forall₂ htextures htexture
        obtain ⟨hfeatures, _⟩ := Prod.mk.inj hview
        have hmakes := makes_of_compileTexture hok
        rw [hfeatures, hholds.features_eq] at hmakes
        exact ⟨descriptor, hdescriptor, hmakes⟩
    · exact hmade compiled hold texture htexture
  · obtain ⟨hfeatures, hbound⟩ := Prod.mk.inj hkept
    refine ⟨hfeatures.trans hholds.features_eq, ?_⟩
    intro textureUnit texture hget
    rw [hbound] at hget
    obtain ⟨owner, howner, hmakes⟩ := hholds.units hget
    exact ⟨owner, List.mem_append_right _ howner, hmakes⟩

theorem Reached.areMade_and_holdsMade (hreached : Reached features made gpu) :
    AreMade features made ∧ HoldsMade features made gpu := by
  induction hreached with
  | new =>
    constructor
    · intro _ hmem
      cases hmem
    · refine ⟨rfl, ?_⟩
      intro _ _ hget
      cases hget
  | compile _ pipeline width height config ih =>
    obtain ⟨hmade, hholds⟩ := ih
    exact hholds.compile hmade pipeline width height config
  | render _ hmem scene ih =>
    obtain ⟨hmade, hholds⟩ := ih
    refine ⟨hmade, ?_⟩
    rw [CompiledPipeline.render_device]
    exact hholds.foldl_apply hmade hmem fun _ haction => haction

/-- Within a frame, too, units hold nothing but textures of the pipelines. -/
theorem Reached.holdsMade_within (hreached : Reached features made gpu)
    {compiled : CompiledPipeline Gpu.handles} (hmem : compiled ∈ made)
    {scene : Option (Scene GpuBuffer)} {before after : List (Action Gpu.handles)}
    (hplan : compiled.plan scene = before ++ after) :
    HoldsMade features made (before.foldl (fun device action => action.apply device) gpu) := by
  obtain ⟨hmade, hholds⟩ := hreached.areMade_and_holdsMade
  apply hholds.foldl_apply hmade hmem
  intro action haction
  rw [hplan]
  exact List.mem_append_left after haction

end Gpu

end FramePlan
