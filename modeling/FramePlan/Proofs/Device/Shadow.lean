import FramePlan.Gpu.Draw
import FramePlan.Proofs.Device.Images
import FramePlan.Proofs.Simulation
import FramePlan.Sample

/-!
# A recorder in place of a GPU

A recorder keeps much less than a GPU: whether shaders are bound, and whether a target is. That is
enough for it to do whatever a GPU does. It compiles what the GPU compiles, with the same slots, and it
accepts every draw that the GPU accepts; the GPU is the one with more reasons to refuse.

* `Gpu.IsShadowedBy`: what is bound on the GPU is bound on the recorder.
* `Gpu.simulation`: a recorder simulates a GPU call by call.
* `recorder_simulates_gpu`: so it does for pipelines and frames.
-/

namespace FramePlan

open Attempt (Grants)
open Shader (Interface CompiledStage)

/-- For a count of levels there is room if it is at least one, and at most one more than the logarithm
of the longer side. -/
theorem ImageDescriptor.hasRoom_iff_le_log2 {descriptor : ImageDescriptor} {greatest : UInt32}
    (hfits : descriptor.fits greatest = true) :
    descriptor.hasRoom = true ↔ 1 ≤ descriptor.mipLevels.toNat ∧
      descriptor.mipLevels.toNat ≤ (max descriptor.width descriptor.height).toNat.log2 + 1 := by
  rw [hasRoom, levels, if_neg (longer_ne_zero hfits), Bool.and_eq_true, bne_iff_ne,
    decide_eq_true_eq, one_le_toNat_iff]

namespace Action

variable {handles : Handles}

def bindsShaders : Action handles → Bool
  | .setShaders _ _ _ => true
  | _ => false

/-- Whether there is a target after an action that binds one or none. -/
def bindsTarget? : Action handles → Option Bool
  | .setRenderTargets color depth => some (color.isSome || depth.isSome)
  | _ => none

theorem bindsShaders_outline (action : Action handles) :
    action.outline.bindsShaders = action.bindsShaders := by
  cases action <;> rfl

theorem bindsTarget?_outline (action : Action handles) :
    action.outline.bindsTarget? = action.bindsTarget? := by
  cases action with
  | setRenderTargets color depth => cases color <;> cases depth <;> rfl
  | _ => rfl

end Action

namespace Gpu

/-- What is bound on a GPU is bound on a recorder for the same pipelines and images. -/
structure IsShadowedBy (gpu : Gpu) (recorder : Recorder) : Prop where
  backend : recorder.backend = .webGpu
  greatestSide : recorder.greatestSide = greatestSide
  shaders : gpu.bound.program.isSome = true → recorder.shadersBound = true
  target : gpu.bound.targetView?.isSome = true → recorder.targetsBound = true

theorem program_apply (action : Action handles) (gpu : Gpu) :
    (action.apply gpu).bound.program.isSome =
      (action.bindsShaders || gpu.bound.program.isSome) := by
  cases action <;> rfl

theorem targetView?_apply (action : Action handles) (gpu : Gpu) :
    (action.apply gpu).bound.targetView?.isSome =
      action.bindsTarget?.getD gpu.bound.targetView?.isSome := by
  cases action with
  | setRenderTargets color depth => cases color <;> cases depth <;> rfl
  | _ => rfl

theorem isSome_of_isAccepted {gpu : Gpu} {primitive : Primitive} {vertexCount : UInt32}
    (haccepted : isAccepted (draw primitive vertexCount gpu).1 = true) :
    gpu.bound.program.isSome = true ∧ gpu.bound.targetView?.isSome = true := by
  have hbound : isAccepted (drawBound gpu.features gpu.bound primitive vertexCount) = true :=
    haccepted
  rw [drawBound] at hbound
  cases hsupported : primitive.isSupported with
  | false =>
    rw [hsupported] at hbound
    cases hbound
  | true =>
    rw [hsupported] at hbound
    cases hprogram : gpu.bound.program with
    | none =>
      rw [hprogram] at hbound
      cases hbound
    | some program =>
      rw [hprogram] at hbound
      cases htarget : gpu.bound.targetView? with
      | none =>
        rw [htarget] at hbound
        cases hbound
      | some target => exact ⟨rfl, rfl⟩

end Gpu

namespace Recorder

theorem shadersBound_apply (action : Action handles) (recorder : Recorder) :
    (action.apply recorder).shadersBound = (action.bindsShaders || recorder.shadersBound) := by
  cases action <;> rfl

theorem targetsBound_apply (action : Action handles) (recorder : Recorder) :
    (action.apply recorder).targetsBound = action.bindsTarget?.getD recorder.targetsBound := by
  cases action <;> rfl

theorem backend_apply (action : Action handles) (recorder : Recorder) :
    (action.apply recorder).backend = recorder.backend := by
  cases action <;> rfl

theorem greatestSide_apply (action : Action handles) (recorder : Recorder) :
    (action.apply recorder).greatestSide = recorder.greatestSide := by
  cases action <;> rfl

theorem isAccepted_draw (primitive : Primitive) (vertexCount : UInt32) (recorder : Recorder) :
    isAccepted (draw primitive vertexCount recorder).1 =
      (recorder.shadersBound && recorder.targetsBound) := by
  rw [draw, missingState?]
  cases recorder.shadersBound with
  | false => rfl
  | true =>
    cases recorder.targetsBound with
    | false => rfl
    | true => rfl

theorem createImage_eq_ok {descriptor : ImageDescriptor} {recorder : Recorder}
    (hfits : descriptor.fits recorder.greatestSide = true) (hroom : descriptor.hasRoom = true) :
    createImage descriptor recorder = (.ok ⟨recorder.nextId, descriptor⟩,
      { recorder.record (.createImage descriptor) with nextId := recorder.nextId + 1 }) := by
  rw [createImage, imageFault?, hfits, hroom]
  rfl

end Recorder

namespace Gpu

theorem IsShadowedBy.apply {action : Action handles} {action' : Action Recorder.handles}
    (houtline : action.outline = action'.outline) {gpu : Gpu} {recorder : Recorder}
    (hshadow : gpu.IsShadowedBy recorder) :
    (action.apply gpu).IsShadowedBy (action'.apply recorder) where
  backend := (Recorder.backend_apply action' recorder).trans hshadow.backend
  greatestSide := (Recorder.greatestSide_apply action' recorder).trans hshadow.greatestSide
  shaders hprogram := by
    have hbinds : action.bindsShaders = action'.bindsShaders := by
      rw [← Action.bindsShaders_outline, houtline, Action.bindsShaders_outline]
    rw [program_apply, hbinds, Bool.or_eq_true] at hprogram
    rw [Recorder.shadersBound_apply, Bool.or_eq_true]
    exact hprogram.imp_right hshadow.shaders
  target htarget := by
    have hbinds : action.bindsTarget? = action'.bindsTarget? := by
      rw [← Action.bindsTarget?_outline, houtline, Action.bindsTarget?_outline]
    rw [targetView?_apply, hbinds] at htarget
    rw [Recorder.targetsBound_apply]
    cases hchosen : action'.bindsTarget? with
    | none =>
      rw [hchosen] at htarget
      exact hshadow.target htarget
    | some chosen =>
      rw [hchosen] at htarget
      exact htarget

/-- Creating something binds nothing. -/
theorem IsShadowedBy.create {gpu last : Gpu} {recorder : Recorder}
    (hshadow : gpu.IsShadowedBy recorder) (hbound : last.bound = gpu.bound) (call : DeviceCall) :
    last.IsShadowedBy { recorder.record call with nextId := recorder.nextId + 1 } where
  backend := hshadow.backend
  greatestSide := hshadow.greatestSide
  shaders := by
    rw [hbound]
    exact hshadow.shaders
  target := by
    rw [hbound]
    exact hshadow.target

/-- A recorder creates whatever a GPU creates without binding anything. -/
theorem grants_create {α β : Type} {matched : α → β → Prop}
    {attempt : Attempt Gpu DeviceError α} (call : DeviceCall) (make : Nat → β)
    (hattempt : ∀ gpu result last, attempt gpu = (.ok result, last) →
      last.bound = gpu.bound ∧ ∀ id, matched result (make id)) :
    Grants IsShadowedBy matched attempt (Recorder.create call (.ok make)) := by
  intro gpu recorder hshadow result last hok
  obtain ⟨hbound, hmatched⟩ := hattempt gpu result last hok
  exact ⟨make recorder.nextId, _, rfl, hmatched _, hshadow.create hbound call⟩

/-- An image is created just when it fits and there is room for its levels. -/
theorem isOk_createImage (descriptor : ImageDescriptor) (gpu : Gpu) :
    (createImage descriptor gpu).1.isOk =
      (descriptor.fits greatestSide && descriptor.hasRoom) := by
  rw [createImage]
  cases descriptor.fits greatestSide with
  | false => rfl
  | true =>
    cases descriptor.hasRoom with
    | false => rfl
    | true => rfl

theorem bound_createImage (descriptor : ImageDescriptor) (gpu : Gpu) :
    (createImage descriptor gpu).2.bound = gpu.bound := by
  rw [createImage]
  cases descriptor.fits greatestSide with
  | false => rfl
  | true =>
    cases descriptor.hasRoom with
    | false => rfl
    | true => rfl

/-- A recorder simulates a GPU. -/
theorem simulation : Simulation IsShadowedBy where
  backend hshadow := hshadow.backend.symm
  createImage descriptor := by
    intro gpu recorder hshadow image last hok
    have hok : createImage descriptor gpu = (.ok image, last) := hok
    have hmade := isOk_createImage descriptor gpu
    have hbound := bound_createImage descriptor gpu
    rw [hok] at hmade hbound
    obtain ⟨hfits, hroom⟩ := Bool.and_eq_true_iff.1 hmade.symm
    rw [← hshadow.greatestSide] at hfits
    exact ⟨⟨recorder.nextId, descriptor⟩, _, Recorder.createImage_eq_ok hfits hroom, trivial,
      hshadow.create hbound _⟩
  createRenderView image image' := by
    apply grants_create
    intro gpu view last hok
    have hok : createRenderView image gpu = (.ok view, last) := hok
    rw [createRenderView] at hok
    by_cases hformat : image.format = .color
    · rw [if_pos hformat] at hok
      cases hok
      exact ⟨rfl, fun _ => trivial⟩
    · rw [if_neg hformat] at hok
      cases hok
  createDepthView image image' := by
    apply grants_create
    intro gpu view last hok
    have hok : createDepthView image gpu = (.ok view, last) := hok
    rw [createDepthView] at hok
    by_cases hformat : image.format = .depth
    · rw [if_pos hformat] at hok
      cases hok
      exact ⟨rfl, fun _ => trivial⟩
    · rw [if_neg hformat] at hok
      cases hok
  createSampler descriptor := by
    apply grants_create
    intro gpu sampler last hok
    have hok : createSampler descriptor gpu = (.ok sampler, last) := hok
    rw [createSampler] at hok
    cases hrange : hasLevelRange descriptor with
    | false =>
      rw [hrange] at hok
      cases hok
    | true =>
      rw [hrange] at hok
      cases hok
      exact ⟨rfl, fun _ => trivial⟩
  compileShader stage source entryPoint profile := by
    intro gpu recorder hshadow shader last hok
    have hok : compileShader stage source entryPoint profile gpu = (.ok shader, last) := hok
    rw [compileShader] at hok
    cases hcompiled : CompiledStage.ofSource source stage entryPoint with
    | error fault =>
      rw [hcompiled] at hok
      cases hok
    | ok compiled =>
      have hinterface : Interface.ofSource source stage entryPoint = .ok compiled.interface := by
        rw [Interface.ofSource, hcompiled]
        rfl
      rw [hcompiled] at hok
      cases hplain : compiled.module.isPlain with
      | false =>
        simp only [hplain] at hok
        cases hok
      | true =>
        simp only [hplain] at hok
        cases hok
        refine ⟨⟨⟨recorder.nextId, stage⟩, compiled.interface⟩, _, ?_, rfl, hshadow.create rfl
          (.compileShader stage entryPoint profile)⟩
        show Recorder.compileShader stage source entryPoint profile recorder = _
        rw [Recorder.compileShader, hinterface]
        rfl
  createInputLayout shader shader' attributes := by
    apply grants_create
    intro gpu layout last hok
    have hok : createInputLayout shader attributes gpu = (.ok layout, last) := hok
    rw [createInputLayout] at hok
    by_cases hcount : attributes.length ≤ greatestAttributeCount
    · rw [if_pos hcount] at hok
      cases hok
      exact ⟨rfl, fun _ => trivial⟩
    · rw [if_neg hcount] at hok
      cases hok
  createVertexBuffer contents := by
    apply grants_create
    intro gpu buffer last hok
    cases hok
    exact ⟨rfl, fun _ => trivial⟩
  apply houtline _ _ hshadow := hshadow.apply houtline
  draw hshadow primitive vertexCount haccepted := by
    obtain ⟨hprogram, htarget⟩ := isSome_of_isAccepted haccepted
    show isAccepted (Recorder.draw primitive vertexCount _).1 = true
    rw [Recorder.isAccepted_draw, hshadow.shaders hprogram, hshadow.target htarget]
    rfl

/-- The images that a GPU creates are those that fit, with at least one level and at most one more than
the logarithm of the longer side. -/
theorem isOk_createImage_iff (descriptor : ImageDescriptor) (gpu : Gpu) :
    (createImage descriptor gpu).1.isOk = true ↔ descriptor.fits greatestSide = true ∧
      1 ≤ descriptor.mipLevels.toNat ∧
      descriptor.mipLevels.toNat ≤ (max descriptor.width descriptor.height).toNat.log2 + 1 := by
  rw [isOk_createImage, Bool.and_eq_true_iff]
  exact and_congr_right ImageDescriptor.hasRoom_iff_le_log2

theorem isShadowedBy_new (features : GpuFeatures) :
    ({ features } : Gpu).IsShadowedBy { backend := .webGpu } where
  backend := rfl
  greatestSide := rfl
  shaders := by
    intro hprogram
    cases hprogram
  target := by
    intro htarget
    cases htarget

end Gpu

/-- A recorder does what a GPU does. This holds of a GPU and a recorder on which nothing has happened,
and from there on as long as both are used alike. Both create an image if it fits and its levels are at
most one more than the logarithm of its longer side. A pipeline that the GPU compiles is compiled by the
recorder, with the same outline: the slots of every program, the vertices and the layout of all stream
data and the views of every target. Frames with corresponding scenes, one after the other, skip as many
commands on both, report the same names in the same order, and every draw that the GPU accepts is
accepted by the recorder. -/
theorem recorder_simulates_gpu (features : GpuFeatures) :
    ({ features } : Gpu).IsShadowedBy { backend := .webGpu } ∧
    ∀ (gpu : Gpu) (recorder : Recorder), gpu.IsShadowedBy recorder →
      (∀ descriptor : ImageDescriptor,
        ((Gpu.createImage descriptor gpu).1.isOk = true ↔
          descriptor.fits Gpu.greatestSide = true ∧ 1 ≤ descriptor.mipLevels.toNat ∧
          descriptor.mipLevels.toNat ≤ (max descriptor.width descriptor.height).toNat.log2 + 1) ∧
        (Recorder.createImage descriptor recorder).1.isOk =
          (Gpu.createImage descriptor gpu).1.isOk) ∧
      ∀ (pipeline : Pipeline) (width height : UInt32) (config : Config)
        (compiled : CompiledPipeline Gpu.handles) (ready : Gpu),
        CompiledPipeline.compile pipeline width height config gpu = (.ok compiled, ready) →
        ∃ (recorded : CompiledPipeline Recorder.handles) (recorderReady : Recorder),
          CompiledPipeline.compile pipeline width height config recorder =
            (.ok recorded, recorderReady) ∧
          compiled.outline = recorded.outline ∧ ready.IsShadowedBy recorderReady ∧
          ∀ scenes : List (Option (Scene GpuBuffer) × Option (Scene RecordedBuffer)),
            (∀ pair ∈ scenes, pair.1.map Scene.outline = pair.2.map Scene.outline) →
            List.Forall₂ IsOutdrawnBy (compiled.renderAll (scenes.map Prod.fst) ready)
              (recorded.renderAll (scenes.map Prod.snd) recorderReady) := by
  refine ⟨Gpu.isShadowedBy_new features, ?_⟩
  intro gpu recorder hshadow
  constructor
  · intro descriptor
    refine ⟨Gpu.isOk_createImage_iff descriptor gpu, ?_⟩
    rw [Recorder.isOk_createImage, Gpu.isOk_createImage, hshadow.greatestSide]
  · intro pipeline width height config compiled ready hcompile
    obtain ⟨recorded, recorderReady, hrecorded, houtline, hready⟩ :=
      Gpu.simulation.compile pipeline width height config hshadow hcompile
    refine ⟨recorded, recorderReady, hrecorded, houtline, hready, ?_⟩
    intro scenes hscenes
    exact Gpu.simulation.renderAll houtline hscenes hready

namespace Sample

/-- The sample is compiled by a GPU, which then renders it. -/
theorem gpu_compiles : ∃ compiled ready,
    CompiledPipeline.compile pipeline 8 8 config ({} : Gpu) = (.ok compiled, ready) ∧
    (compiled.render (some (scene ⟨48⟩)) ready).1 = report :=
  Attempt.exists_of_yields (by decide +kernel)

end Sample

/-- A GPU compiles the sample and draws two of its drawables, so a recorder compiles it too and draws at
least two. A second frame has no scene. -/
theorem recorder_simulates_gpu_sample : ∃ compiled ready recorded recorderReady,
    CompiledPipeline.compile Sample.pipeline 8 8 Sample.config ({} : Gpu) = (.ok compiled, ready) ∧
    CompiledPipeline.compile Sample.pipeline 8 8 Sample.config Sample.recorder =
      (.ok recorded, recorderReady) ∧
    List.Forall₂ IsOutdrawnBy
      (compiled.renderAll [some (Sample.scene ⟨48⟩), none] ready)
      (recorded.renderAll [some (Sample.scene Sample.recordedBuffer), none] recorderReady) ∧
    2 ≤ (recorded.render (some (Sample.scene Sample.recordedBuffer)) recorderReady).1.drawCalls := by
  obtain ⟨compiled, ready, hcompile, hreport⟩ := Sample.gpu_compiles
  obtain ⟨hnew, hsimulates⟩ := recorder_simulates_gpu {}
  obtain ⟨_, hcompiles⟩ := hsimulates {} Sample.recorder hnew
  obtain ⟨recorded, recorderReady, hrecorded, _, _, hrenders⟩ :=
    hcompiles Sample.pipeline 8 8 Sample.config compiled ready hcompile
  have hscenes : ∀ pair ∈ ([(some (Sample.scene ⟨48⟩), some (Sample.scene Sample.recordedBuffer)),
      (none, none)] : List (Option (Scene GpuBuffer) × Option (Scene RecordedBuffer))),
      pair.1.map Scene.outline = pair.2.map Scene.outline := by
    intro pair hpair
    rcases List.mem_cons.1 hpair with rfl | hpair
    · rfl
    · rw [List.mem_singleton.1 hpair]
      rfl
  have hframes := hrenders _ hscenes
  refine ⟨compiled, ready, recorded, recorderReady, hcompile, hrecorded, hframes, ?_⟩
  have hdrawCalls : (compiled.render (some (Sample.scene ⟨48⟩)) ready).1.drawCalls ≤
      (recorded.render (some (Sample.scene Sample.recordedBuffer)) recorderReady).1.drawCalls :=
    (List.forall₂_cons.1 hframes).1.drawCalls
  rw [hreport] at hdrawCalls
  exact hdrawCalls

end FramePlan
