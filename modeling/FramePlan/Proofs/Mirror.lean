import FramePlan.Proofs.Compiled
import FramePlan.Proofs.Frame.Report

/-!
# Devices that are seen through others

A device may keep a record beside what another device keeps. If it creates whatever the other one creates,
then so does all that is made of its calls: pipelines are compiled as they are on the other device, and the
states reached look like those of the other device.

* `Attempt.Mirrors`: an attempt that another one shows when its state is seen through a view.
* `Device.IsMirror`: a view of a device through which every creation is one of another device.
* `Device.IsMirror.compile`, `Device.IsMirror.pack`: then so are pipelines and buffers.
-/

namespace FramePlan

namespace Attempt

variable {State Twin Error Failure α β γ : Type} {view : State → Twin}

/-- From the state that is seen through a view the second attempt has the outcome of the first one, and
reaches what is seen of the state that the first one reaches. -/
def Mirrors (view : State → Twin) (first : Attempt State Error α)
    (second : Attempt Twin Error α) : Prop :=
  ∀ state, second (view state) = ((first state).1, view (first state).2)

namespace Mirrors

theorem pure (result : α) : Mirrors view (Pure.pure result : Attempt State Error α)
    (Pure.pure result : Attempt Twin Error α) :=
  fun _ => rfl

theorem throw (error : Error) : Mirrors view (MonadExcept.throw error : Attempt State Error α)
    (MonadExcept.throw error : Attempt Twin Error α) :=
  fun _ => rfl

theorem lift (outcome : Except Error α) : Mirrors view (liftM outcome : Attempt State Error α)
    (liftM outcome : Attempt Twin Error α) :=
  fun _ => rfl

theorem bind {first : Attempt State Error α} {second : Attempt Twin Error α}
    {next : α → Attempt State Error β} {next' : α → Attempt Twin Error β}
    (hmirrors : Mirrors view first second) (hnext : ∀ value, Mirrors view (next value) (next' value)) :
    Mirrors view (first >>= next) (second >>= next') := by
  intro state
  have hsecond := hmirrors state
  rcases hfirst : first state with ⟨error | value, reached⟩
  · simp only [hfirst] at hsecond
    rw [bind_eq_error hfirst, bind_eq_error hsecond]
  · simp only [hfirst] at hsecond
    rw [bind_eq_of_ok hfirst, bind_eq_of_ok hsecond]
    exact hnext value reached

theorem adapt {first : Attempt State Error α} {second : Attempt Twin Error α}
    (wrap : Error → Failure) (hmirrors : Mirrors view first second) :
    Mirrors view (ExceptT.adapt wrap first : Attempt State Failure α)
      (ExceptT.adapt wrap second : Attempt Twin Failure α) := by
  intro state
  have hsecond := hmirrors state
  rcases hfirst : first state with ⟨error | value, reached⟩
  · simp only [hfirst] at hsecond
    rw [adapt_eq_error hfirst, adapt_eq_error hsecond]
  · simp only [hfirst] at hsecond
    rw [adapt_eq_ok.2 hfirst, adapt_eq_ok.2 hsecond]

theorem mapM {items : List γ} {attempt : γ → Attempt State Error β}
    {attempt' : γ → Attempt Twin Error β}
    (hmirrors : ∀ item, Mirrors view (attempt item) (attempt' item)) :
    Mirrors view (items.mapM attempt) (items.mapM attempt') := by
  induction items with
  | nil => exact pure []
  | cons item rest ih =>
    rw [List.mapM_cons, List.mapM_cons]
    exact (hmirrors item).bind fun result => ih.bind fun results => pure _

theorem foldlM {items : List γ} {step : β → γ → Attempt State Error β}
    {step' : β → γ → Attempt Twin Error β}
    (hmirrors : ∀ value item, Mirrors view (step value item) (step' value item)) (start : β) :
    Mirrors view (items.foldlM step start) (items.foldlM step' start) := by
  induction items generalizing start with
  | nil => exact pure start
  | cons item rest ih =>
    rw [List.foldlM_cons, List.foldlM_cons]
    exact (hmirrors start item).bind ih

end Mirrors

end Attempt

open Attempt (Mirrors)

variable {State Twin : Type} {handles : Handles} [Device State handles] [Device Twin handles]

/-- Seen through a view, whatever a device creates is created by another device. -/
structure Device.IsMirror (view : State → Twin) : Prop where
  backend : ∀ state, Device.backend (view state) = Device.backend state
  createImage : ∀ descriptor,
    Mirrors view (Device.createImage descriptor) (Device.createImage descriptor)
  createRenderView : ∀ image : handles.Image,
    Mirrors view (Device.createRenderView image) (Device.createRenderView image)
  createDepthView : ∀ image : handles.Image,
    Mirrors view (Device.createDepthView image) (Device.createDepthView image)
  createSampler : ∀ descriptor,
    Mirrors view (Device.createSampler descriptor) (Device.createSampler descriptor)
  compileShader : ∀ stage source entryPoint profile,
    Mirrors view (Device.compileShader stage source entryPoint profile)
      (Device.compileShader stage source entryPoint profile)
  createInputLayout : ∀ (vertex : handles.Shader) attributes,
    Mirrors view (Device.createInputLayout vertex attributes)
      (Device.createInputLayout vertex attributes)
  createVertexBuffer : ∀ contents,
    Mirrors view (Device.createVertexBuffer contents) (Device.createVertexBuffer contents)

namespace Device.IsMirror

variable {view : State → Twin} (hmirror : IsMirror view)

include hmirror

theorem backBuffer (width height : UInt32) :
    Mirrors view (BackBuffer.create width height) (BackBuffer.create width height) :=
  (hmirror.createImage _).bind fun depthImage =>
    (hmirror.createDepthView depthImage).bind fun _ =>
      (hmirror.createImage _).bind fun colorImage =>
        (hmirror.createRenderView colorImage).bind fun _ => .pure _

theorem compileTexture (descriptor : TextureDescriptor) :
    Mirrors view (FramePlan.compileTexture descriptor) (FramePlan.compileTexture descriptor) :=
  (hmirror.createImage _).bind fun _ => (hmirror.createSampler _).bind fun _ => .pure _

theorem addItem (textures : List (CompiledTexture handles)) (backBuffer : BackBuffer handles)
    (target : CompiledTarget handles) (item : TargetItem) :
    Mirrors view (FramePlan.addItem textures backBuffer target item)
      (FramePlan.addItem textures backBuffer target item) := by
  apply (Mirrors.lift (itemTexture textures item)).bind
  intro texture
  cases item.semantic <;> cases texture
  case color.some => exact (hmirror.createRenderView _).bind fun _ => .pure _
  case depth.some => exact (hmirror.createDepthView _).bind fun _ => .pure _
  case stencil.some => exact (hmirror.createDepthView _).bind fun _ => .pure _
  all_goals exact .pure _

theorem compileProgramAt (config : Config) (descriptor : Program) (index : Nat) :
    Mirrors view (FramePlan.compileProgramAt config descriptor index)
      (FramePlan.compileProgramAt config descriptor index) := by
  unfold FramePlan.compileProgramAt
  split
  · exact .throw _
  · apply Mirrors.adapt
    refine (hmirror.compileShader _ _ _ _).bind fun vertex => ?_
    refine (hmirror.compileShader _ _ _ _).bind fun fragment => ?_
    exact (hmirror.createInputLayout _ _).bind fun _ => .pure _

theorem pack (arrays : List ArrayValue) :
    Mirrors view (Buffer.create arrays) (Buffer.create arrays) :=
  (hmirror.createVertexBuffer _).bind fun _ => .pure _

theorem compileStreamsAt (descriptor : StreamData) (index : Nat) :
    Mirrors view (FramePlan.compileStreamsAt descriptor index)
      (FramePlan.compileStreamsAt descriptor index) := by
  unfold FramePlan.compileStreamsAt
  split
  · exact .throw _
  · exact ((hmirror.pack _).bind fun buffer => .pure _).adapt _

theorem resources (pipeline : Pipeline) (width height : UInt32) (config : Config) :
    Mirrors view (Resources.compile pipeline width height config)
      (Resources.compile pipeline width height config) := by
  refine ((hmirror.backBuffer width height).adapt _).bind fun backBuffer => ?_
  refine Mirrors.bind (.mapM fun entry => (hmirror.compileTexture entry.1).adapt _)
    fun textures => ?_
  refine Mirrors.bind (.mapM fun entry => ?_) fun targets => ?_
  · exact (Mirrors.foldlM (hmirror.addItem textures backBuffer) {}).adapt _
  refine Mirrors.bind (.mapM fun entry => hmirror.compileProgramAt config entry.1 entry.2)
    fun programs => ?_
  exact Mirrors.bind (.mapM fun entry => hmirror.compileStreamsAt entry.1 entry.2)
    fun streams => .pure _

theorem compile (pipeline : Pipeline) (width height : UInt32) (config : Config) :
    Mirrors view (CompiledPipeline.compile pipeline width height config)
      (CompiledPipeline.compile pipeline width height config) := by
  intro state
  have hchecked : Mirrors view
      (do
        liftM (CompiledPipeline.check (Device.backend state) pipeline)
        let resources ← Resources.compile pipeline width height config
        return ⟨pipeline, config, resources⟩ :
          Attempt State CompileError (CompiledPipeline handles))
      (do
        liftM (CompiledPipeline.check (Device.backend (view state)) pipeline)
        let resources ← Resources.compile pipeline width height config
        return ⟨pipeline, config, resources⟩ :
          Attempt Twin CompileError (CompiledPipeline handles)) := by
    rw [hmirror.backend]
    exact (Mirrors.lift _).bind fun _ =>
      (hmirror.resources pipeline width height config).bind fun _ => .pure _
  exact hchecked state

end Device.IsMirror

end FramePlan
