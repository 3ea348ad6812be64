import FramePlan.Proofs.Compiled
import FramePlan.Proofs.Frame.Outline

/-!
# Devices that simulate others

A device simulates another one if, from related states, it does whatever that one does: it creates what
the other creates, stays related whatever is bound, and draws what the other draws. Pipelines that the
first device compiles are then compiled by the second with one outline, and their frames report the
same commands and names; only the second may draw more.

* `Simulation`: what has to be shown of single calls.
* `Simulation.compile`: a whole pipeline.
* `Simulation.renderAll`: frames, one after the other.
-/

namespace FramePlan

open Attempt (Grants)
open Shader (ProgramStage)

variable {State Twin : Type} {handles twins : Handles} [Device State handles] [Device Twin twins]

/-- The second device does whatever the first one does. -/
structure Simulation (related : State → Twin → Prop) : Prop where
  backend : ∀ {state twin}, related state twin → Device.backend state = Device.backend twin
  createImage : ∀ descriptor, Grants related (fun _ _ => True)
    (Device.createImage descriptor : Attempt State DeviceError handles.Image)
    (Device.createImage descriptor : Attempt Twin DeviceError twins.Image)
  createRenderView : ∀ (image : handles.Image) (image' : twins.Image),
    Grants related (fun _ _ => True)
      (Device.createRenderView image : Attempt State DeviceError handles.RenderView)
      (Device.createRenderView image' : Attempt Twin DeviceError twins.RenderView)
  createDepthView : ∀ (image : handles.Image) (image' : twins.Image),
    Grants related (fun _ _ => True)
      (Device.createDepthView image : Attempt State DeviceError handles.DepthView)
      (Device.createDepthView image' : Attempt Twin DeviceError twins.DepthView)
  createSampler : ∀ descriptor, Grants related (fun _ _ => True)
    (Device.createSampler descriptor : Attempt State DeviceError handles.Sampler)
    (Device.createSampler descriptor : Attempt Twin DeviceError twins.Sampler)
  /-- Both devices read the same interface out of a source. -/
  compileShader : ∀ stage source entryPoint profile,
    Grants related (fun shader shader' => shader.interface = shader'.interface)
      (Device.compileShader stage source entryPoint profile :
        Attempt State DeviceError (CompiledShader handles.Shader))
      (Device.compileShader stage source entryPoint profile :
        Attempt Twin DeviceError (CompiledShader twins.Shader))
  createInputLayout : ∀ (shader : handles.Shader) (shader' : twins.Shader) attributes,
    Grants related (fun _ _ => True)
      (Device.createInputLayout shader attributes :
        Attempt State DeviceError handles.InputLayout)
      (Device.createInputLayout shader' attributes :
        Attempt Twin DeviceError twins.InputLayout)
  createVertexBuffer : ∀ contents, Grants related (fun _ _ => True)
    (Device.createVertexBuffer contents : Attempt State DeviceError handles.Buffer)
    (Device.createVertexBuffer contents : Attempt Twin DeviceError twins.Buffer)
  apply : ∀ {action : Action handles} {action' : Action twins},
    action.outline = action'.outline → ∀ {state twin}, related state twin →
      related (action.apply state) (action'.apply twin)
  draw : ∀ {state twin}, related state twin → ∀ primitive vertexCount,
    isAccepted (Device.draw primitive vertexCount state).1 = true →
      isAccepted (Device.draw primitive vertexCount twin).1 = true

namespace Simulation

variable {related : State → Twin → Prop} (hsimulation : Simulation related)

include hsimulation

/-! ## Compiling -/

theorem backBuffer (width height : UInt32) :
    Grants related (fun made made' => made.outline = made'.outline)
      (BackBuffer.create width height : Attempt State DeviceError (BackBuffer handles))
      (BackBuffer.create width height : Attempt Twin DeviceError (BackBuffer twins)) := by
  apply (hsimulation.createImage _).bind
  intro depthImage depthImage' _
  apply (hsimulation.createDepthView depthImage depthImage').bind
  intro _ _ _
  apply (hsimulation.createImage _).bind
  intro colorImage colorImage' _
  apply (hsimulation.createRenderView colorImage colorImage').bind
  intro _ _ _
  exact Grants.pure rfl

theorem compileTexture (descriptor : TextureDescriptor) :
    Grants related (fun made made' => made.outline = made'.outline)
      (FramePlan.compileTexture descriptor : Attempt State DeviceError (CompiledTexture handles))
      (FramePlan.compileTexture descriptor : Attempt Twin DeviceError (CompiledTexture twins)) := by
  apply (hsimulation.createImage _).bind
  intro _ _ _
  apply (hsimulation.createSampler _).bind
  intro _ _ _
  exact Grants.pure rfl

omit [Device State handles] [Device Twin twins] hsimulation in
/-- Textures with one outline are found or not found together. -/
theorem itemTexture_outline {textures : List (CompiledTexture handles)}
    {textures' : List (CompiledTexture twins)}
    (htextures : textures.map CompiledTexture.outline = textures'.map CompiledTexture.outline)
    (item : TargetItem) :
    (itemTexture textures item).map (Option.map CompiledTexture.outline) =
      (itemTexture textures' item).map (Option.map CompiledTexture.outline) := by
  unfold itemTexture
  cases item.textureIndex? with
  | none => rfl
  | some index =>
    have hindex : (textures[index]?).map CompiledTexture.outline =
        (textures'[index]?).map CompiledTexture.outline := by
      rw [← List.getElem?_map, ← List.getElem?_map, htextures]
    dsimp only
    cases htexture : textures[index]? with
    | none =>
      rw [htexture] at hindex
      rw [Option.map_eq_none_iff.1 hindex.symm]
      rfl
    | some texture =>
      rw [htexture] at hindex
      obtain ⟨texture', htexture', houtline⟩ := Option.map_eq_some_iff.1 hindex.symm
      rw [htexture']
      show Except.ok (some texture.outline) = Except.ok (some texture'.outline)
      rw [houtline]

theorem addItem {textures : List (CompiledTexture handles)}
    {textures' : List (CompiledTexture twins)}
    (htextures : textures.map CompiledTexture.outline = textures'.map CompiledTexture.outline)
    (backBuffer : BackBuffer handles) (backBuffer' : BackBuffer twins)
    {target : CompiledTarget handles} {target' : CompiledTarget twins}
    (htarget : target.outline = target'.outline) (item : TargetItem) :
    Grants related (fun made made' => made.outline = made'.outline)
      (FramePlan.addItem textures backBuffer target item :
        Attempt State DeviceError (CompiledTarget handles))
      (FramePlan.addItem textures' backBuffer' target' item :
        Attempt Twin DeviceError (CompiledTarget twins)) := by
  have hcolor (view : handles.RenderView) (view' : twins.RenderView) :
      ({ target with color := some view } : CompiledTarget handles).outline =
        ({ target' with color := some view' } : CompiledTarget twins).outline :=
    congrArg (fun made : CompiledTarget blank => { made with color := some () }) htarget
  have hdepth (view : handles.DepthView) (view' : twins.DepthView) :
      ({ target with depth := some view } : CompiledTarget handles).outline =
        ({ target' with depth := some view' } : CompiledTarget twins).outline :=
    congrArg (fun made : CompiledTarget blank => { made with depth := some () }) htarget
  have hfound (found : Option (CompiledTexture handles))
      (hok : itemTexture textures item = .ok found) :
      ∃ found', itemTexture textures' item = .ok found' ∧
        found.map CompiledTexture.outline = found'.map CompiledTexture.outline := by
    have houtline := itemTexture_outline htextures item
    rw [hok] at houtline
    cases hok' : itemTexture textures' item with
    | error error =>
      rw [hok'] at houtline
      cases houtline
    | ok found' =>
      rw [hok'] at houtline
      exact ⟨found', rfl, Except.ok.inj houtline⟩
  unfold FramePlan.addItem
  apply (Grants.lift hfound).bind
  intro found found' hsame
  cases found with
  | none =>
    rw [Option.map_none, eq_comm, Option.map_eq_none_iff] at hsame
    subst hsame
    cases item.semantic with
    | color => exact Grants.pure (hcolor _ _)
    | depth => exact Grants.pure (hdepth _ _)
    | stencil => exact Grants.pure (hdepth _ _)
  | some texture =>
    obtain ⟨texture', rfl, _⟩ := Option.map_eq_some_iff.1 hsame.symm
    cases item.semantic with
    | color =>
      apply (hsimulation.createRenderView texture.image texture'.image).bind
      intro view view' _
      exact Grants.pure (hcolor view view')
    | depth =>
      apply (hsimulation.createDepthView texture.image texture'.image).bind
      intro view view' _
      exact Grants.pure (hdepth view view')
    | stencil =>
      apply (hsimulation.createDepthView texture.image texture'.image).bind
      intro view view' _
      exact Grants.pure (hdepth view view')

theorem compileTarget {textures : List (CompiledTexture handles)}
    {textures' : List (CompiledTexture twins)}
    (htextures : textures.map CompiledTexture.outline = textures'.map CompiledTexture.outline)
    (backBuffer : BackBuffer handles) (backBuffer' : BackBuffer twins)
    (descriptor : RenderTarget) :
    Grants related (fun made made' => made.outline = made'.outline)
      (FramePlan.compileTarget textures backBuffer descriptor :
        Attempt State DeviceError (CompiledTarget handles))
      (FramePlan.compileTarget textures' backBuffer' descriptor :
        Attempt Twin DeviceError (CompiledTarget twins)) := by
  apply Grants.foldlM
  · intro target target' htarget item
    exact hsimulation.addItem htextures backBuffer backBuffer' htarget item
  · rfl

theorem compileProgram (config : Config) (descriptor : Program) :
    Grants related (fun made made' => made.outline = made'.outline)
      (FramePlan.compileProgram config descriptor :
        Attempt State DeviceError (CompiledProgram handles))
      (FramePlan.compileProgram config descriptor :
        Attempt Twin DeviceError (CompiledProgram twins)) := by
  apply (hsimulation.compileShader _ _ _ _).bind
  intro vertex vertex' hvertex
  apply (hsimulation.compileShader _ _ _ _).bind
  intro fragment fragment' hfragment
  rw [hvertex]
  apply (hsimulation.createInputLayout vertex.handle vertex'.handle _).bind
  intro layout layout' _
  apply Grants.pure
  simp only [CompiledProgram.outline, hfragment]

theorem compileStreams (primitive : Primitive) (descriptor : StreamData) :
    Grants related (fun made made' => made.outline = made'.outline)
      (FramePlan.compileStreams primitive descriptor :
        Attempt State DeviceError (CompiledStreams handles))
      (FramePlan.compileStreams primitive descriptor :
        Attempt Twin DeviceError (CompiledStreams twins)) := by
  have hbuffer : Grants related (fun buffer buffer' => buffer.outline = buffer'.outline)
      (Buffer.create descriptor.arrays.values : Attempt State DeviceError (Buffer handles.Buffer))
      (Buffer.create descriptor.arrays.values :
        Attempt Twin DeviceError (Buffer twins.Buffer)) := by
    apply (hsimulation.createVertexBuffer _).bind
    intro _ _ _
    exact Grants.pure rfl
  apply hbuffer.bind
  intro buffer buffer' hsame
  have hstreams : Streams.outline (dataStreams descriptor buffer) =
      Streams.outline (dataStreams descriptor buffer') := by
    rw [dataStreams_outline, dataStreams_outline, hsame]
  have hlength : shortestLength (dataStreams descriptor buffer) =
      shortestLength (dataStreams descriptor buffer') := by
    rw [← shortestLength_outline, hstreams, shortestLength_outline]
  apply Grants.pure
  simp only [CompiledStreams.outline, hstreams, hlength]

theorem compileProgramAt (config : Config) (descriptor : Program) (index : Nat) :
    Grants related (fun made made' => made.outline = made'.outline)
      (FramePlan.compileProgramAt config descriptor index :
        Attempt State CompileError (CompiledProgram handles))
      (FramePlan.compileProgramAt config descriptor index :
        Attempt Twin CompileError (CompiledProgram twins)) := by
  unfold FramePlan.compileProgramAt
  split
  · exact Grants.throw
  · exact (hsimulation.compileProgram config descriptor).adapt

theorem compileStreamsAt (descriptor : StreamData) (index : Nat) :
    Grants related (fun made made' => made.outline = made'.outline)
      (FramePlan.compileStreamsAt descriptor index :
        Attempt State CompileError (CompiledStreams handles))
      (FramePlan.compileStreamsAt descriptor index :
        Attempt Twin CompileError (CompiledStreams twins)) := by
  unfold FramePlan.compileStreamsAt
  split
  · exact Grants.throw
  · exact (hsimulation.compileStreams _ descriptor).adapt

theorem resources (pipeline : Pipeline) (width height : UInt32) (config : Config) :
    Grants related (fun made made' => made.outline = made'.outline)
      (Resources.compile pipeline width height config :
        Attempt State CompileError (Resources handles))
      (Resources.compile pipeline width height config :
        Attempt Twin CompileError (Resources twins)) := by
  apply (hsimulation.backBuffer width height).adapt.bind
  intro backBuffer backBuffer' hbackBuffer
  apply Grants.bind (Grants.mapM ?textures)
  case textures =>
    intro entry
    exact (hsimulation.compileTexture entry.1).adapt
  intro textures textures' htextures
  apply Grants.bind (Grants.mapM ?targets)
  case targets =>
    intro entry
    exact (hsimulation.compileTarget htextures backBuffer backBuffer' entry.1).adapt
  intro targets targets' htargets
  apply Grants.bind (Grants.mapM ?programs)
  case programs =>
    intro entry
    exact hsimulation.compileProgramAt config entry.1 entry.2
  intro programs programs' hprograms
  apply Grants.bind (Grants.mapM ?streams)
  case streams =>
    intro entry
    exact hsimulation.compileStreamsAt entry.1 entry.2
  intro streams streams' hstreams
  apply Grants.pure
  simp only [Resources.outline, hbackBuffer, htextures, htargets, hprograms, hstreams]

/-- A pipeline that one device compiles is compiled by the other one, with the same outline. -/
theorem compile (pipeline : Pipeline) (width height : UInt32) (config : Config) :
    Grants related (fun made made' => made.outline = made'.outline)
      (CompiledPipeline.compile pipeline width height config :
        Attempt State CompileError (CompiledPipeline handles))
      (CompiledPipeline.compile pipeline width height config :
        Attempt Twin CompileError (CompiledPipeline twins)) := by
  intro state twin hrelated compiled last hcompile
  obtain ⟨hcheck, resources, hresources, rfl⟩ := CompiledPipeline.compile_eq_ok.1 hcompile
  obtain ⟨resources', last', hresources', hsame, hlast⟩ :=
    hsimulation.resources pipeline width height config hrelated hresources
  rw [hsimulation.backend hrelated] at hcheck
  refine ⟨⟨pipeline, config, resources'⟩, last', ?_, ?_, hlast⟩
  · exact CompiledPipeline.compile_eq_ok.2 ⟨hcheck, resources', hresources', rfl⟩
  · simp only [CompiledPipeline.outline, hsame]

/-! ## Rendering -/

/-- Devices that are asked for the same stay related, and the second one accepts every draw that the
first one accepts. -/
theorem answers {actions : List (Action handles)} {actions' : List (Action twins)}
    (houtline : actions.map Action.outline = actions'.map Action.outline) {state : State}
    {twin : Twin} (hrelated : related state twin) :
    related (actions.foldl (fun device action => action.apply device) state)
        (actions'.foldl (fun device action => action.apply device) twin) ∧
      List.Forall₂ (fun answer answer' => isAccepted answer = true → isAccepted answer' = true)
        (FramePlan.answers actions state) (FramePlan.answers actions' twin) := by
  induction actions generalizing actions' state twin with
  | nil =>
    rw [List.map_nil, eq_comm, List.map_eq_nil_iff] at houtline
    subst houtline
    exact ⟨hrelated, .nil⟩
  | cons action rest ih =>
    obtain ⟨action', rest', rfl, haction, hrest⟩ :=
      List.map_eq_cons_iff.1 houtline.symm
    have hnext := hsimulation.apply haction.symm hrelated
    obtain ⟨hlast, hanswers⟩ := ih hrest.symm hnext
    refine ⟨hlast, ?_⟩
    -- both devices are asked to draw, or neither is
    rw [FramePlan.answers, FramePlan.answers]
    cases hdraw : action.isDraw with
    | false =>
      have hdraw' : action'.isDraw = false := by
        rw [← Action.isDraw_outline, haction, Action.isDraw_outline, hdraw]
      rw [Action.answer?_eq_none hdraw, Action.answer?_eq_none hdraw']
      exact hanswers
    | true =>
      obtain ⟨primitive, vertexCount, rfl⟩ := Action.exists_of_isDraw hdraw
      obtain rfl := Action.eq_draw_of_outline haction
      exact .cons (hsimulation.draw hrelated primitive vertexCount) hanswers

end Simulation

/-- The reports of frames, one after the other, each with the answers to its draws. -/
def CompiledPipeline.renderAll (compiled : CompiledPipeline handles) :
    List (Option (Scene handles.Buffer)) → State →
      List (FrameReport × List (Except DeviceError Unit))
  | [], _ => []
  | scene :: rest, device =>
    let (report, next) := compiled.render scene device
    (report, compiled.answers scene device) :: compiled.renderAll rest next

/-- A frame reports the same commands and names as another one, and whatever is drawn in it is drawn
in the other one. -/
structure IsOutdrawnBy (first second : FrameReport × List (Except DeviceError Unit)) : Prop where
  skippedCommands : first.1.skippedCommands = second.1.skippedCommands
  bindingErrors : first.1.bindingErrors = second.1.bindingErrors
  answers : List.Forall₂ (fun answer answer' => isAccepted answer = true → isAccepted answer' = true)
    first.2 second.2
  drawCalls : first.1.drawCalls ≤ second.1.drawCalls

/-- Where every element that is counted is matched by one, at least as many are counted. -/
theorem countP_le_of_forall₂ {α β : Type} {p : α → Bool} {q : β → Bool} {items : List α}
    {others : List β} (hall : List.Forall₂ (fun item other => p item = true → q other = true)
      items others) : items.countP p ≤ others.countP q := by
  induction hall with
  | nil => exact Nat.le_refl 0
  | @cons item other _ _ hhead _ ih =>
    rw [List.countP_cons, List.countP_cons]
    cases hitem : p item with
    | false =>
      simp only [Bool.false_eq_true, if_false]
      omega
    | true =>
      rw [hhead hitem]
      simp only [if_true]
      omega

namespace Simulation

variable {related : State → Twin → Prop} (hsimulation : Simulation related)
  {compiled : CompiledPipeline handles} {compiled' : CompiledPipeline twins}
  (hcompiled : compiled.outline = compiled'.outline)

include hsimulation hcompiled

/-- A frame leaves related devices related, and the second one draws what the first one draws. -/
theorem render {scene : Option (Scene handles.Buffer)} {scene' : Option (Scene twins.Buffer)}
    (hscene : scene.map Scene.outline = scene'.map Scene.outline) {state : State} {twin : Twin}
    (hrelated : related state twin) :
    related (compiled.render scene state).2 (compiled'.render scene' twin).2 ∧
      IsOutdrawnBy ((compiled.render scene state).1, compiled.answers scene state)
        ((compiled'.render scene' twin).1, compiled'.answers scene' twin) := by
  have hplan := CompiledPipeline.map_outline_plan_eq hcompiled hscene
  obtain ⟨hlast, hanswers⟩ := hsimulation.answers hplan hrelated
  rw [← CompiledPipeline.render_device, ← CompiledPipeline.render_device] at hlast
  refine ⟨hlast, ?_, ?_, hanswers, ?_⟩
  · calc
      (compiled.render scene state).1.skippedCommands =
          (compiled.plan scene).countP Action.isSkip := compiled.skippedCommands_render scene state
      _ = ((compiled.plan scene).map Action.outline).countP Action.isSkip :=
          (Action.countP_isSkip_outline _).symm
      _ = (compiled'.plan scene').countP Action.isSkip := by
          rw [hplan, Action.countP_isSkip_outline]
      _ = (compiled'.render scene' twin).1.skippedCommands :=
          (compiled'.skippedCommands_render scene' twin).symm
  · calc
      (compiled.render scene state).1.bindingErrors =
          (compiled.plan scene).filterMap Action.error? := compiled.bindingErrors_render scene state
      _ = ((compiled.plan scene).map Action.outline).filterMap Action.error? :=
          (Action.filterMap_error?_outline _).symm
      _ = (compiled'.plan scene').filterMap Action.error? := by
          rw [hplan, Action.filterMap_error?_outline]
      _ = (compiled'.render scene' twin).1.bindingErrors :=
          (compiled'.bindingErrors_render scene' twin).symm
  · rw [CompiledPipeline.drawCalls_render, CompiledPipeline.drawCalls_render]
    exact countP_le_of_forall₂ hanswers

/-- Frames with corresponding scenes, one after the other. -/
theorem renderAll {scenes : List (Option (Scene handles.Buffer) × Option (Scene twins.Buffer))}
    (hscenes : ∀ pair ∈ scenes, pair.1.map Scene.outline = pair.2.map Scene.outline)
    {state : State} {twin : Twin} (hrelated : related state twin) :
    List.Forall₂ IsOutdrawnBy (compiled.renderAll (scenes.map Prod.fst) state)
      (compiled'.renderAll (scenes.map Prod.snd) twin) := by
  induction scenes generalizing state twin with
  | nil => exact .nil
  | cons pair rest ih =>
    obtain ⟨hpair, hrest⟩ := List.forall_mem_cons.1 hscenes
    obtain ⟨hnext, hframe⟩ := hsimulation.render hcompiled hpair hrelated
    exact .cons hframe (ih hrest hnext)

end Simulation

end FramePlan
