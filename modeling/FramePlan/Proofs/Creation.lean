import FramePlan.Proofs.Compiled

/-!
# What compiling leaves as it is

A device that is asked for images, shaders and buffers may number what it hands out, but it does not
change what is bound. Whatever of a device no creation changes, the compilation of a pipeline does not
change either, whether it succeeds or fails on the way.

* `Device.CreationKeeps`: no creation changes a view of a device.
* `CompiledPipeline.keeps_compile`: then no compilation does.
* `CompiledPipeline.forall₂_textures`: what textures have been made with.
-/

namespace FramePlan

open Attempt (Keeps)

variable {State : Type} {handles : Handles} [Device State handles] {γ : Type}

/-- Whatever a device is asked for, a view of it is what it was. -/
structure Device.CreationKeeps (view : State → γ) : Prop where
  createImage : ∀ descriptor, Keeps view (Device.createImage descriptor)
  createRenderView : ∀ image, Keeps view (Device.createRenderView image)
  createDepthView : ∀ image, Keeps view (Device.createDepthView image)
  createSampler : ∀ descriptor, Keeps view (Device.createSampler descriptor)
  compileShader : ∀ stage source entryPoint profile,
    Keeps view (Device.compileShader stage source entryPoint profile)
  createInputLayout : ∀ vertex attributes,
    Keeps view (Device.createInputLayout vertex attributes)
  createVertexBuffer : ∀ contents, Keeps view (Device.createVertexBuffer contents)

namespace Device.CreationKeeps

variable {view : State → γ} (hkeeps : CreationKeeps view)

include hkeeps

theorem backBuffer (width height : UInt32) : Keeps view (BackBuffer.create width height) :=
  (hkeeps.createImage _).bind fun depthImage =>
    (hkeeps.createDepthView depthImage).bind fun _ =>
      (hkeeps.createImage _).bind fun colorImage =>
        (hkeeps.createRenderView colorImage).bind fun _ => .pure _

theorem compileTexture (descriptor : TextureDescriptor) :
    Keeps view (FramePlan.compileTexture descriptor) :=
  (hkeeps.createImage _).bind fun _ => (hkeeps.createSampler _).bind fun _ => .pure _

theorem addItem (textures : List (CompiledTexture handles)) (backBuffer : BackBuffer handles)
    (target : CompiledTarget handles) (item : TargetItem) :
    Keeps view (FramePlan.addItem textures backBuffer target item) := by
  apply (Keeps.lift (itemTexture textures item)).bind
  intro texture
  cases item.semantic with
  | color =>
    cases texture with
    | some texture => exact (hkeeps.createRenderView _).bind fun _ => .pure _
    | none => exact .pure _
  | depth =>
    cases texture with
    | some texture => exact (hkeeps.createDepthView _).bind fun _ => .pure _
    | none => exact .pure _
  | stencil =>
    cases texture with
    | some texture => exact (hkeeps.createDepthView _).bind fun _ => .pure _
    | none => exact .pure _

theorem compileProgramAt (config : Config) (descriptor : Program) (index : Nat) :
    Keeps view (FramePlan.compileProgramAt config descriptor index) := by
  unfold FramePlan.compileProgramAt
  split
  · exact .throw _
  · apply Keeps.adapt
    refine (hkeeps.compileShader _ _ _ _).bind fun vertex => ?_
    refine (hkeeps.compileShader _ _ _ _).bind fun fragment => ?_
    exact (hkeeps.createInputLayout _ _).bind fun _ => .pure _

theorem compileStreamsAt (descriptor : StreamData) (index : Nat) :
    Keeps view (FramePlan.compileStreamsAt descriptor index) := by
  unfold FramePlan.compileStreamsAt
  split
  · exact .throw _
  · apply Keeps.adapt
    refine Keeps.bind ?_ fun buffer => .pure _
    exact (hkeeps.createVertexBuffer _).bind fun _ => .pure _

theorem resources (pipeline : Pipeline) (width height : UInt32) (config : Config) :
    Keeps view (Resources.compile pipeline width height config) := by
  refine ((hkeeps.backBuffer width height).adapt _).bind fun backBuffer => ?_
  refine Keeps.bind (.mapM fun entry => (hkeeps.compileTexture entry.1).adapt _) fun textures => ?_
  refine Keeps.bind (.mapM fun entry => ?_) fun targets => ?_
  · exact (Keeps.foldlM (hkeeps.addItem textures backBuffer) {}).adapt _
  refine Keeps.bind (.mapM fun entry => hkeeps.compileProgramAt config entry.1 entry.2)
    fun programs => ?_
  exact Keeps.bind (.mapM fun entry => hkeeps.compileStreamsAt entry.1 entry.2)
    fun streams => .pure _

end Device.CreationKeeps

open Device (CreationKeeps)

namespace CompiledPipeline

variable {view : State → γ}

theorem keeps_compile (hkeeps : CreationKeeps view) (pipeline : Pipeline) (width height : UInt32)
    (config : Config) : Keeps view (compile pipeline width height config) := by
  have hget : Keeps view (get : Attempt State CompileError State) := fun _ => rfl
  refine hget.bind fun device => (Keeps.lift _).bind fun _ => ?_
  exact (hkeeps.resources pipeline width height config).bind fun _ => .pure _

/-- Every texture of a pipeline is made on a device that looks as it did before the compilation. -/
theorem forall₂_textures (hkeeps : CreationKeeps view) {pipeline : Pipeline} {width height : UInt32}
    {config : Config} {compiled : CompiledPipeline handles} {state last : State}
    (hok : compile pipeline width height config state = (.ok compiled, last)) :
    List.Forall₂ (fun descriptor texture => ∃ before after, view before = view state ∧
        compileTexture descriptor before = (.ok texture, after))
      compiled.description.textures compiled.resources.textures := by
  obtain ⟨_, resources, hresources, rfl⟩ := compile_eq_ok.1 hok
  obtain ⟨backBuffer, reached, hbackBuffer, hresources⟩ := Attempt.bind_eq_ok.1 hresources
  obtain ⟨textures, _, htextures, hresources⟩ := Attempt.bind_eq_ok.1 hresources
  obtain ⟨targets, _, _, hresources⟩ := Attempt.bind_eq_ok.1 hresources
  obtain ⟨programs, _, _, hresources⟩ := Attempt.bind_eq_ok.1 hresources
  obtain ⟨streams, _, _, hresources⟩ := Attempt.bind_eq_ok.1 hresources
  cases hresources
  have hreached : view reached = view state := by
    have hkept := (hkeeps.backBuffer width height).adapt CompileError.backBuffer state
    rw [hbackBuffer] at hkept
    exact hkept
  refine Attempt.forall₂_of_mapM_zipIdx_of_keeps
    (fun entry => (hkeeps.compileTexture entry.1).adapt _) htextures ?_
  intro descriptor index texture before after hview hmade
  exact ⟨before, after, hview.trans hreached, Attempt.adapt_eq_ok.1 hmade⟩

end CompiledPipeline

end FramePlan
