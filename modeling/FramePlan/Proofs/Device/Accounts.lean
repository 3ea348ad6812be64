import FramePlan.Proofs.Device.Ledger
import FramePlan.Proofs.Frame.Log
import FramePlan.Proofs.Frame.Origin

/-!
# Accounts of what is handed out

A compilation asks for views of images, and for layouts of shaders, that it was handed before; a frame
refers to what its pipeline and its scene are made of. So accounts that are right stay right, whatever
fails on the way, and all that a pipeline is made of has been handed out.

* `Accounts`: an attempt that keeps accounts right, and makes something of what has been handed out.
* `Accounts.compile`: a compilation does.
* `CompiledPipeline.isAccounted_render`: so does a frame.
-/

namespace FramePlan

open Shader (ProgramStage)

/-! ## What things are made of -/

def BackBuffer.tokens (backBuffer : BackBuffer Recorder.handles) : List Token :=
  [⟨.image, backBuffer.depthImage.id⟩, ⟨.depthView, backBuffer.depthView.id⟩,
    ⟨.image, backBuffer.colorImage.id⟩, ⟨.renderView, backBuffer.colorView.id⟩]

def CompiledTexture.tokens (texture : CompiledTexture Recorder.handles) : List Token :=
  [⟨.image, texture.image.id⟩, ⟨.sampler, texture.sampler.id⟩]

def CompiledTarget.tokens (target : CompiledTarget Recorder.handles) : List Token :=
  target.color.toList.map (fun view => ⟨.renderView, view.id⟩) ++
    target.depth.toList.map (fun view => ⟨.depthView, view.id⟩)

/-- A target with another view for color is made of what it was made of and of this view. -/
theorem CompiledTarget.tokens_withColor (target : CompiledTarget Recorder.handles)
    (view : RecordedView) :
    ({ target with color := some view } : CompiledTarget Recorder.handles).tokens ⊆
      ⟨.renderView, view.id⟩ :: target.tokens := by
  simp [tokens]

theorem CompiledTarget.tokens_withDepth (target : CompiledTarget Recorder.handles)
    (view : RecordedView) :
    ({ target with depth := some view } : CompiledTarget Recorder.handles).tokens ⊆
      ⟨.depthView, view.id⟩ :: target.tokens := by
  simp [tokens]

def CompiledProgram.tokens (program : CompiledProgram Recorder.handles) : List Token :=
  [⟨.shader .vertex, program.vertex.id⟩, ⟨.shader .fragment, program.fragment.id⟩,
    ⟨.inputLayout, program.inputLayout.id⟩]

def Streams.tokens (streams : Streams RecordedBuffer) : List Token :=
  streams.values.map fun stream => ⟨.buffer, stream.buffer.handle.id⟩

def Resources.tokens (resources : Resources Recorder.handles) : List Token :=
  resources.backBuffer.tokens ++ resources.textures.flatMap CompiledTexture.tokens ++
    resources.targets.flatMap CompiledTarget.tokens ++
    resources.programs.flatMap CompiledProgram.tokens ++
    resources.streams.flatMap fun data => Streams.tokens data.streams

def Scene.tokens (scene : Scene RecordedBuffer) : List Token :=
  scene.objects.values.flatten.flatMap fun object => Streams.tokens object.streams

/-! ## Keeping accounts -/

variable {Error Failure α β γ : Type}

/-- Right accounts on a ledger stay right in an attempt that refers to known things, nothing is dropped
from the ledger, and whatever is made is made of things that have been handed out. -/
def Accounts (known : List Token) (attempt : Attempt Ledger Error α) (tokens : α → List Token) :
    Prop :=
  ∀ ledger : Ledger, ledger.recorder.IsAccounted ledger.issues → AreIssued ledger.issues known →
    (attempt ledger).2.recorder.IsAccounted (attempt ledger).2.issues ∧
      ledger.issues ⊆ (attempt ledger).2.issues ∧
      ∀ value, (attempt ledger).1 = .ok value → AreIssued (attempt ledger).2.issues (tokens value)

namespace Accounts

variable {known : List Token} {tokens : α → List Token}

/-! ## Attempts that are made of others -/

theorem pure {value : α} (htokens : tokens value ⊆ known) :
    Accounts known (Pure.pure value : Attempt Ledger Error α) tokens := by
  intro ledger haccounted hknown
  refine ⟨haccounted, List.Subset.refl _, fun made hmade => ?_⟩
  cases hmade
  exact hknown.mono (List.Subset.refl _) htokens

theorem throw {error : Error} :
    Accounts known (MonadExcept.throw error : Attempt Ledger Error α) tokens :=
  fun _ haccounted _ => ⟨haccounted, List.Subset.refl _, nofun⟩

theorem lift {outcome : Except Error α} (tokens : α → List Token)
    (htokens : ∀ value, outcome = .ok value → tokens value ⊆ known) :
    Accounts known (liftM outcome : Attempt Ledger Error α) tokens :=
  fun _ haccounted hknown => ⟨haccounted, List.Subset.refl _, fun value hvalue =>
    hknown.mono (List.Subset.refl _) (htokens value hvalue)⟩

/-- More things may be known than an attempt refers to. -/
theorem of_subset {fewer : List Token} {attempt : Attempt Ledger Error α}
    (haccounts : Accounts fewer attempt tokens) (hfewer : fewer ⊆ known) :
    Accounts known attempt tokens :=
  fun ledger haccounted hknown =>
    haccounts ledger haccounted (hknown.mono (List.Subset.refl _) hfewer)

/-- What one attempt makes is known to the next one. -/
theorem bind {tokens' : β → List Token} {first : Attempt Ledger Error α}
    {next : α → Attempt Ledger Error β} (hfirst : Accounts known first tokens)
    (hnext : ∀ value, Accounts (known ++ tokens value) (next value) tokens') :
    Accounts known (first >>= next) tokens' := by
  intro ledger haccounted hknown
  obtain ⟨hreached, hkept, hmade⟩ := hfirst ledger haccounted hknown
  rcases hrun : first ledger with ⟨error | value, reached⟩
  · rw [hrun] at hreached hkept
    rw [Attempt.bind_eq_error hrun]
    exact ⟨hreached, hkept, nofun⟩
  · rw [hrun] at hreached hkept hmade
    rw [Attempt.bind_eq_of_ok hrun]
    have hboth : AreIssued reached.issues (known ++ tokens value) :=
      areIssued_append.2 ⟨hknown.mono hkept (List.Subset.refl _), hmade value rfl⟩
    obtain ⟨hlast, hkept', hmade'⟩ := hnext value reached hreached hboth
    exact ⟨hlast, List.Subset.trans hkept hkept', hmade'⟩

theorem adapt {attempt : Attempt Ledger Error α} (wrap : Error → Failure)
    (haccounts : Accounts known attempt tokens) :
    Accounts known (ExceptT.adapt wrap attempt : Attempt Ledger Failure α) tokens := by
  intro ledger haccounted hknown
  obtain ⟨hreached, hkept, hmade⟩ := haccounts ledger haccounted hknown
  rcases hrun : attempt ledger with ⟨error | value, reached⟩
  · rw [hrun] at hreached hkept
    rw [Attempt.adapt_eq_error hrun]
    exact ⟨hreached, hkept, nofun⟩
  · rw [hrun] at hreached hkept hmade
    rw [Attempt.adapt_eq_ok.2 hrun]
    exact ⟨hreached, hkept, fun made hvalue => hmade made (by cases hvalue; rfl)⟩

theorem mapM {items : List γ} {attempt : γ → Attempt Ledger Error α}
    (haccounts : ∀ item, Accounts known (attempt item) tokens) :
    Accounts known (items.mapM attempt) (·.flatMap tokens) := by
  induction items with
  | nil => exact pure (List.nil_subset _)
  | cons item rest ih =>
    rw [List.mapM_cons]
    refine (haccounts item).bind fun result => ?_
    refine (ih.of_subset (List.subset_append_left _ _)).bind fun results => pure ?_
    rw [List.flatMap_cons, List.append_assoc]
    exact List.subset_append_right _ _

theorem foldlM {items : List γ} {step : α → γ → Attempt Ledger Error α}
    (haccounts : ∀ value item, Accounts (known ++ tokens value) (step value item) tokens)
    {start : α} (hstart : tokens start ⊆ known) :
    Accounts known (items.foldlM step start) tokens := by
  have hfold (start : α) : Accounts (known ++ tokens start) (items.foldlM step start) tokens := by
    induction items generalizing start with
    | nil => exact pure (List.subset_append_right _ _)
    | cons item rest ih =>
      rw [List.foldlM_cons]
      refine (haccounts start item).bind fun value => (ih value).of_subset ?_
      simp
  exact (hfold start).of_subset (List.append_subset.2 ⟨List.Subset.refl _, hstart⟩)

/-! ## Creations -/

/-- A creation that refers to known things is noted with its number. -/
theorem noting {kind : HandleKind} {id : α → Nat} {attempt : Attempt Recorder DeviceError α}
    (call : DeviceCall) {result : Recorder → Except DeviceError (Nat → α)}
    (hattempt : ∀ recorder, attempt recorder = Recorder.create call (result recorder) recorder)
    (hid : ∀ recorder make, result recorder = .ok make → ∀ number, id (make number) = number)
    (hkind : call.creates? = some kind) (htokens : call.tokens ⊆ known) :
    Accounts known (Ledger.noting kind id attempt) fun made => [⟨kind, id made⟩] := by
  intro ledger haccounted hknown
  have hissued := hknown.mono (List.Subset.refl _) htokens
  have hcalls (number : Nat) : ({ ledger.recorder.record call with nextId := number } :
      Recorder).calls.toList = ledger.recorder.calls.toList ++ [call] := Array.toList_push
  cases hresult : result ledger.recorder with
  | error error =>
    have hrun : Ledger.noting kind id attempt ledger =
        (.error error, ⟨ledger.recorder.record call, ledger.issues⟩) := by
      simp [Ledger.noting, hattempt, hresult, Recorder.create]
    rw [hrun]
    exact ⟨haccounted.record hissued rfl (hcalls _), List.Subset.refl _, nofun⟩
  | ok make =>
    have hrun : Ledger.noting kind id attempt ledger =
        (.ok (make ledger.recorder.nextId),
          ⟨{ ledger.recorder.record call with nextId := ledger.recorder.nextId + 1 },
            ledger.issues ++ [⟨⟨kind, ledger.recorder.nextId⟩, ledger.recorder.calls.size⟩]⟩) := by
      simp [Ledger.noting, hattempt, hresult, Recorder.create, hid _ _ hresult, Recorder.record]
    rw [hrun]
    refine ⟨haccounted.create hissued hkind rfl (hcalls _), List.subset_append_left _ _, ?_⟩
    intro made hmade
    cases hmade
    intro token htoken
    cases List.mem_singleton.1 htoken
    exact ⟨_, List.mem_append_right _ List.mem_cons_self, by simp [hid _ _ hresult]⟩

theorem createImage (descriptor : ImageDescriptor) :
    Accounts known (Device.createImage descriptor : Attempt Ledger DeviceError Recorder.handles.Image)
      fun image => [⟨.image, image.id⟩] := by
  refine noting (.createImage descriptor) (fun _ => rfl) ?_ rfl (List.nil_subset _)
  intro recorder make hmake number
  split at hmake <;> cases hmake
  rfl

theorem createRenderView {image : RecordedImage} (himage : ⟨.image, image.id⟩ ∈ known) :
    Accounts known
      (Device.createRenderView image : Attempt Ledger DeviceError Recorder.handles.RenderView)
      fun view => [⟨.renderView, view.id⟩] := by
  refine noting (.createRenderView image.id) (fun _ => rfl) ?_ rfl
    (by simpa [DeviceCall.tokens] using himage)
  intro recorder make hmake number
  cases hmake
  rfl

theorem createDepthView {image : RecordedImage} (himage : ⟨.image, image.id⟩ ∈ known) :
    Accounts known
      (Device.createDepthView image : Attempt Ledger DeviceError Recorder.handles.DepthView)
      fun view => [⟨.depthView, view.id⟩] := by
  refine noting (.createDepthView image.id) (fun _ => rfl) ?_ rfl
    (by simpa [DeviceCall.tokens] using himage)
  intro recorder make hmake number
  cases hmake
  rfl

theorem createSampler (descriptor : SamplerDescriptor) :
    Accounts known
      (Device.createSampler descriptor : Attempt Ledger DeviceError Recorder.handles.Sampler)
      fun sampler => [⟨.sampler, sampler.id⟩] := by
  refine noting (.createSampler descriptor) (fun _ => rfl) ?_ rfl (List.nil_subset _)
  intro recorder make hmake number
  cases hmake
  rfl

theorem compileShader (stage : ProgramStage) (source entryPoint profile : String) :
    Accounts known (Device.compileShader stage source entryPoint profile :
        Attempt Ledger DeviceError (CompiledShader Recorder.handles.Shader))
      fun shader => [⟨.shader stage, shader.handle.id⟩] := by
  refine noting (.compileShader stage entryPoint profile) (fun _ => rfl) ?_ rfl
    (List.nil_subset _)
  intro recorder make hmake number
  split at hmake <;> cases hmake
  rfl

theorem createInputLayout {vertex : RecordedShader} (hvertex : ⟨.shader .vertex, vertex.id⟩ ∈ known)
    (attributes : List VertexAttribute) :
    Accounts known (Device.createInputLayout vertex attributes :
        Attempt Ledger DeviceError Recorder.handles.InputLayout)
      fun layout => [⟨.inputLayout, layout.id⟩] := by
  refine noting (.createInputLayout vertex.id attributes) (fun _ => rfl) ?_ rfl
    (by simpa [DeviceCall.tokens] using hvertex)
  intro recorder make hmake number
  cases hmake
  rfl

theorem createVertexBuffer (contents : List UInt8) :
    Accounts known
      (Device.createVertexBuffer contents : Attempt Ledger DeviceError Recorder.handles.Buffer)
      fun buffer => [⟨.buffer, buffer.id⟩] := by
  refine noting (.createVertexBuffer contents.length) (fun _ => rfl) ?_ rfl
    (List.nil_subset _)
  intro recorder make hmake number
  cases hmake
  rfl

/-! ## Compilations -/

theorem backBuffer (width height : UInt32) :
    Accounts known (BackBuffer.create width height :
      Attempt Ledger DeviceError (BackBuffer Recorder.handles)) BackBuffer.tokens := by
  refine (createImage _).bind fun depthImage => ?_
  refine (createDepthView (by simp)).bind fun depthView => ?_
  refine (createImage _).bind fun colorImage => ?_
  refine (createRenderView (by simp)).bind fun colorView => pure ?_
  simp [BackBuffer.tokens]

theorem compileTexture (descriptor : TextureDescriptor) :
    Accounts known (FramePlan.compileTexture descriptor :
      Attempt Ledger DeviceError (CompiledTexture Recorder.handles)) CompiledTexture.tokens := by
  refine (createImage _).bind fun image => (createSampler _).bind fun sampler => pure ?_
  simp [CompiledTexture.tokens]

theorem mem_of_itemTexture {handles : Handles} {textures : List (CompiledTexture handles)}
    {item : TargetItem} {texture : CompiledTexture handles}
    (hok : itemTexture textures item = .ok (some texture)) : texture ∈ textures := by
  unfold itemTexture at hok
  split at hok
  · cases hok
  · split at hok
    · next hget =>
      cases hok
      exact List.mem_of_getElem? hget
    · cases hok

theorem addItem {textures : List (CompiledTexture Recorder.handles)}
    {backBuffer : BackBuffer Recorder.handles}
    (htextures : textures.flatMap CompiledTexture.tokens ⊆ known)
    (hbackBuffer : backBuffer.tokens ⊆ known) (target : CompiledTarget Recorder.handles)
    (item : TargetItem) :
    Accounts (known ++ target.tokens) (FramePlan.addItem textures backBuffer target item :
      Attempt Ledger DeviceError (CompiledTarget Recorder.handles)) CompiledTarget.tokens := by
  have hfound (found : Option (CompiledTexture Recorder.handles))
      (hok : itemTexture textures item = .ok found) :
      found.toList.flatMap CompiledTexture.tokens ⊆ known ++ target.tokens := by
    cases found with
    | none => exact List.nil_subset _
    | some texture =>
      refine List.Subset.trans ?_ (List.subset_append_of_subset_left _ htextures)
      intro token htoken
      exact List.mem_flatMap.2 ⟨texture, mem_of_itemTexture hok, by simpa using htoken⟩
  refine (lift (fun found => found.toList.flatMap CompiledTexture.tokens) hfound).bind ?_
  intro found
  have hviews : ⟨.renderView, backBuffer.colorView.id⟩ ∈ known ∧
      ⟨.depthView, backBuffer.depthView.id⟩ ∈ known := by
    simp [BackBuffer.tokens] at hbackBuffer
    tauto
  have hcolor (view : RecordedView) {more : List Token} (hmore : known ++ target.tokens ⊆ more)
      (hview : ⟨.renderView, view.id⟩ ∈ more) :
      ({ target with color := some view } : CompiledTarget Recorder.handles).tokens ⊆ more :=
    List.Subset.trans (target.tokens_withColor view)
      (List.cons_subset.2 ⟨hview, (List.append_subset.1 hmore).2⟩)
  have hdepth (view : RecordedView) {more : List Token} (hmore : known ++ target.tokens ⊆ more)
      (hview : ⟨.depthView, view.id⟩ ∈ more) :
      ({ target with depth := some view } : CompiledTarget Recorder.handles).tokens ⊆ more :=
    List.Subset.trans (target.tokens_withDepth view)
      (List.cons_subset.2 ⟨hview, (List.append_subset.1 hmore).2⟩)
  cases found with
  | none =>
    cases item.semantic with
    | color => exact pure (hcolor _ (by simp) (by simp [hviews]))
    | depth => exact pure (hdepth _ (by simp) (by simp [hviews]))
    | stencil => exact pure (hdepth _ (by simp) (by simp [hviews]))
  | some texture =>
    have himage : ⟨.image, texture.image.id⟩ ∈ known ++ target.tokens ++
        (some texture).toList.flatMap CompiledTexture.tokens := by
      simp [CompiledTexture.tokens]
    cases item.semantic with
    | color =>
      exact (createRenderView himage).bind fun view => pure (hcolor view (by simp) (by simp))
    | depth =>
      exact (createDepthView himage).bind fun view => pure (hdepth view (by simp) (by simp))
    | stencil =>
      exact (createDepthView himage).bind fun view => pure (hdepth view (by simp) (by simp))

theorem compileTarget {textures : List (CompiledTexture Recorder.handles)}
    {backBuffer : BackBuffer Recorder.handles}
    (htextures : textures.flatMap CompiledTexture.tokens ⊆ known)
    (hbackBuffer : backBuffer.tokens ⊆ known) (descriptor : RenderTarget) :
    Accounts known (FramePlan.compileTarget textures backBuffer descriptor :
      Attempt Ledger DeviceError (CompiledTarget Recorder.handles)) CompiledTarget.tokens :=
  foldlM (addItem htextures hbackBuffer) (List.nil_subset _)

theorem compileProgramAt (config : Config) (descriptor : Program) (index : Nat) :
    Accounts known (FramePlan.compileProgramAt config descriptor index :
      Attempt Ledger CompileError (CompiledProgram Recorder.handles)) CompiledProgram.tokens := by
  unfold FramePlan.compileProgramAt
  split
  · exact throw
  · apply adapt
    refine (compileShader _ _ _ _).bind fun vertex => ?_
    refine (compileShader _ _ _ _).bind fun fragment => ?_
    refine (createInputLayout (by simp) _).bind fun layout => pure ?_
    simp [CompiledProgram.tokens]

theorem pack (arrays : List ArrayValue) :
    Accounts known
      (Buffer.create arrays : Attempt Ledger DeviceError (Buffer Recorder.handles.Buffer))
      fun buffer => [⟨.buffer, buffer.handle.id⟩] :=
  (createVertexBuffer _).bind fun _ => pure (List.subset_append_right _ _)

theorem tokens_dataStreams (descriptor : StreamData) (buffer : Buffer RecordedBuffer) :
    Streams.tokens (dataStreams descriptor buffer) ⊆ [⟨.buffer, buffer.handle.id⟩] := by
  intro token htoken
  simp only [Streams.tokens, dataStreams, Table.values, Table.mapIdx, List.mem_map] at htoken
  obtain ⟨_, ⟨_, ⟨_, _, rfl⟩, rfl⟩, rfl⟩ := htoken
  exact List.mem_cons_self

theorem compileStreamsAt (descriptor : StreamData) (index : Nat) :
    Accounts known (FramePlan.compileStreamsAt descriptor index :
        Attempt Ledger CompileError (CompiledStreams Recorder.handles))
      fun data => Streams.tokens data.streams := by
  unfold FramePlan.compileStreamsAt
  split
  · exact throw
  · refine ((pack _).bind fun buffer => pure ?_).adapt _
    exact List.subset_append_of_subset_right _ (tokens_dataStreams descriptor buffer)

theorem resources (pipeline : Pipeline) (width height : UInt32) (config : Config) :
    Accounts known (Resources.compile pipeline width height config :
      Attempt Ledger CompileError (Resources Recorder.handles)) Resources.tokens := by
  refine ((backBuffer width height).adapt _).bind fun backBuffer => ?_
  refine bind (mapM fun entry => (compileTexture entry.1).adapt _) fun textures => ?_
  refine bind (mapM fun entry => (compileTarget ?_ ?_ entry.1).adapt _) fun targets => ?_
  · exact List.subset_append_right _ _
  · exact List.subset_append_of_subset_left _ (List.subset_append_right _ _)
  refine bind (mapM fun entry => compileProgramAt config entry.1 entry.2) fun programs => ?_
  refine bind (mapM fun entry => compileStreamsAt entry.1 entry.2) fun streams => pure ?_
  simp only [Resources.tokens, List.append_assoc]
  exact List.subset_append_right _ _

/-- A compilation keeps accounts, and all that a pipeline is made of has been handed out. -/
theorem compile (pipeline : Pipeline) (width height : UInt32) (config : Config) :
    Accounts known (CompiledPipeline.compile pipeline width height config :
        Attempt Ledger CompileError (CompiledPipeline Recorder.handles))
      fun compiled => compiled.resources.tokens := by
  intro ledger
  have hchecked : Accounts known
      (do
        liftM (CompiledPipeline.check (Device.backend ledger) pipeline)
        let resources ← Resources.compile pipeline width height config
        return ⟨pipeline, config, resources⟩ :
          Attempt Ledger CompileError (CompiledPipeline Recorder.handles))
      fun compiled => compiled.resources.tokens :=
    (lift (fun _ => []) fun _ _ => List.nil_subset _).bind fun _ =>
      (resources pipeline width height config).bind fun _ => pure (List.subset_append_right _ _)
  exact hchecked ledger

end Accounts

/-! ## Frames -/

/-- All that a frame may refer to: what its pipeline is made of, and the buffers of its scene. -/
def Frame.tokens (frame : Frame Recorder.handles) : List Token :=
  frame.resources.tokens ++ frame.scene.toList.flatMap Scene.tokens

theorem Action.creates?_eq_none {action : Action Recorder.handles} {call : DeviceCall}
    (hcall : action.call? = some call) : call.creates? = none := by
  cases action <;> cases hcall <;> rfl

theorem Streams.mem_tokens {streams : Streams RecordedBuffer} {name : String}
    {stream : Stream RecordedBuffer} (hget : streams.get? name = some stream) :
    ⟨.buffer, stream.buffer.handle.id⟩ ∈ Streams.tokens streams :=
  List.mem_map_of_mem (List.mem_map.2 ⟨(name, stream), Table.get?_eq_some_iff.1 hget, rfl⟩)

theorem Submission.tokens_subset {submission : Submission Recorder.handles}
    {policy : UnboundUniformPolicy} {action : Action Recorder.handles}
    (hmem : action ∈ submission.actions policy) {call : DeviceCall}
    (hcall : action.call? = some call) :
    call.tokens ⊆ Streams.tokens submission.drawable.streams := by
  rcases submission.mem_actions hmem with
    ⟨slot, value, rfl⟩ | ⟨error, rfl, _⟩ | ⟨location, binding, rfl⟩ | rfl
  · cases hcall
    exact List.nil_subset _
  · cases hcall
  · cases hcall
    obtain ⟨entry, _, _, hbound⟩ := exists_of_setVertexStream_mem hmem
    obtain ⟨stream, hget, _, hbinding⟩ := streamBinding_eq_ok hbound
    have hbuffer := (Stream.binding_eq_ok hbinding).2.1
    simpa [DeviceCall.tokens, hbuffer] using Streams.mem_tokens hget
  · cases hcall
    exact List.nil_subset _

theorem ClearRequest.tokens_subset {request : ClearRequest}
    {target : CompiledTarget Recorder.handles} {action : Action Recorder.handles}
    (hmem : action ∈ request.actions target) {call : DeviceCall}
    (hcall : action.call? = some call) : call.tokens ⊆ target.tokens := by
  rcases List.mem_append.1 hmem with hcolor | hdepth
  · cases hrequest : request.color <;> cases hview : target.color <;>
      simp [hrequest, hview] at hcolor
    cases hcolor
    cases hcall
    simp [DeviceCall.tokens, CompiledTarget.tokens, hview]
  · cases hview : target.depth with
    | none => simp [hview] at hdepth
    | some view =>
      simp only [hview, List.mem_ite_nil_right, List.mem_singleton] at hdepth
      cases hdepth.2
      cases hcall
      simp [DeviceCall.tokens, CompiledTarget.tokens, hview]

namespace Frame

variable {frame : Frame Recorder.handles} {cursor : Cursor} {command : Command}

/-- What a command submits views buffers of the scene or of the pipeline. -/
theorem tokens_of_mem_submissions? {submissions : List (Submission Recorder.handles)}
    (hsome : frame.submissions? cursor command = some submissions)
    {submission : Submission Recorder.handles} (hmem : submission ∈ submissions) :
    Streams.tokens submission.drawable.streams ⊆ frame.tokens := by
  have hscene := (of_mem_submissions? hsome hmem).2
  cases command with
  | renderSlot slot =>
    simp only [submissions?] at hsome
    split at hsome
    · next program scene hprogram hfound =>
      obtain ⟨objects, hobjects, rfl⟩ := Option.map_eq_some_iff.1 hsome
      obtain ⟨object, hobject, rfl⟩ := List.mem_map.1 hmem
      obtain ⟨slot, _, hget⟩ := Option.bind_eq_some_iff.1 hobjects
      have hdrawn : object ∈ objects := by
        rw [drawnObjects, List.mem_mergeSort, List.mem_filter] at hobject
        exact hobject.1
      have hobjects : objects ∈ scene.objects.values :=
        List.mem_map.2 ⟨(slot.name, objects), Table.get?_eq_some_iff.1 hget, rfl⟩
      have hobject : object ∈ scene.objects.values.flatten :=
        List.mem_flatten.2 ⟨objects, hobjects, hdrawn⟩
      intro token htoken
      refine List.mem_append_right _ (List.mem_flatMap.2 ⟨scene, by simp [hfound], ?_⟩)
      exact List.mem_flatMap.2 ⟨object, hobject, htoken⟩
    · cases hsome
  | renderStream stream =>
    simp only [submissions?] at hsome
    split at hsome
    · next program scene hprogram hfound =>
      obtain ⟨data, hdata, rfl⟩ := Option.map_eq_some_iff.1 hsome
      cases List.mem_singleton.1 hmem
      intro token htoken
      refine List.mem_append_left _ (List.mem_append_right _ ?_)
      exact List.mem_flatMap.2 ⟨data, List.mem_of_getElem? hdata, htoken⟩
    · cases hsome
  | _ =>
    cases hsome
    cases hmem

theorem tokens_subset_of_mem_textures {texture : CompiledTexture Recorder.handles}
    (hmem : texture ∈ frame.resources.textures) : texture.tokens ⊆ frame.tokens := by
  intro token htoken
  have hmade := List.mem_flatMap_of_mem hmem htoken
  simp [tokens, Resources.tokens, -List.mem_flatMap, hmade]

theorem tokens_subset_of_mem_programs {program : CompiledProgram Recorder.handles}
    (hmem : program ∈ frame.resources.programs) : program.tokens ⊆ frame.tokens := by
  intro token htoken
  have hmade := List.mem_flatMap_of_mem hmem htoken
  simp [tokens, Resources.tokens, -List.mem_flatMap, hmade]

theorem tokens_subset_of_mem_targets {target : CompiledTarget Recorder.handles}
    (hmem : target ∈ frame.resources.targets) : target.tokens ⊆ frame.tokens := by
  intro token htoken
  have hmade := List.mem_flatMap_of_mem hmem htoken
  simp [tokens, Resources.tokens, -List.mem_flatMap, hmade]

theorem tokens_subset_of_mem_renderActions {action : Action Recorder.handles}
    (hmem : action ∈ frame.renderActions (frame.submissions? cursor command)) {call : DeviceCall}
    (hcall : action.call? = some call) : call.tokens ⊆ frame.tokens := by
  cases hsome : frame.submissions? cursor command with
  | none =>
    rw [hsome] at hmem
    cases List.mem_singleton.1 hmem
    cases hcall
  | some submissions =>
    rw [hsome] at hmem
    obtain ⟨submission, hsubmission, haction⟩ := List.mem_flatMap.1 hmem
    exact List.Subset.trans (Submission.tokens_subset haction hcall)
      (tokens_of_mem_submissions? hsome hsubmission)

/-- What a command refers to is part of the pipeline or of the scene. -/
theorem tokens_subset {action : Action Recorder.handles} (hmem : action ∈ frame.actions cursor command)
    {call : DeviceCall} (hcall : action.call? = some call) : call.tokens ⊆ frame.tokens := by
  cases command with
  | setRasterContext context =>
    cases List.mem_singleton.1 hmem
    cases hcall
    exact List.nil_subset _
  | setAccumulationContext context =>
    cases List.mem_singleton.1 hmem
    cases hcall
    exact List.nil_subset _
  | setTexture textureUnit index =>
    simp only [actions] at hmem
    split at hmem <;> cases List.mem_singleton.1 hmem <;> cases hcall
    next texture hget => exact tokens_subset_of_mem_textures (List.mem_of_getElem? hget)
  | setProgram index =>
    simp only [actions] at hmem
    split at hmem <;> cases List.mem_singleton.1 hmem <;> cases hcall
    next program hget => exact tokens_subset_of_mem_programs (List.mem_of_getElem? hget)
  | setRenderTarget index =>
    simp only [actions] at hmem
    split at hmem
    · next target hget =>
      rcases List.mem_cons.1 hmem with rfl | hviewport
      · cases hcall
        have htarget : target.tokens ⊆ frame.tokens :=
          tokens_subset_of_mem_targets (List.mem_of_getElem? hget)
        simpa [DeviceCall.tokens, CompiledTarget.tokens, Option.toList_map, Function.comp_def]
          using htarget
      · obtain ⟨_, _, rfl⟩ := List.mem_map.1 hviewport
        cases hcall
        exact List.nil_subset _
    · cases List.mem_singleton.1 hmem
      cases hcall
  | clearRenderTarget images =>
    simp only [actions] at hmem
    split at hmem
    · next target hbound =>
      obtain ⟨index, _, hget⟩ := Option.bind_eq_some_iff.1 hbound
      exact List.Subset.trans (ClearRequest.tokens_subset hmem hcall)
        (tokens_subset_of_mem_targets (List.mem_of_getElem? hget))
    · cases List.mem_singleton.1 hmem
      cases hcall
  | setSamplerUniform name textureUnit =>
    simp only [actions] at hmem
    split at hmem
    · split at hmem <;> cases List.mem_singleton.1 hmem <;> cases hcall
      exact List.nil_subset _
    · cases List.mem_singleton.1 hmem
      cases hcall
  | renderSlot slot => exact tokens_subset_of_mem_renderActions hmem hcall
  | renderStream stream => exact tokens_subset_of_mem_renderActions hmem hcall

end Frame

namespace Recorder

variable {recorder : Recorder} {issues : List Issue}

theorem nextId_apply (action : Action Recorder.handles) (recorder : Recorder) :
    (action.apply recorder).nextId = recorder.nextId := by
  cases action <;> rfl

/-- Actions that refer to nothing but what has been handed out keep accounts right. -/
theorem IsAccounted.foldl_apply {actions : List (Action Recorder.handles)}
    (hissued : ∀ action ∈ actions, ∀ call, action.call? = some call → AreIssued issues call.tokens)
    (haccounted : recorder.IsAccounted issues) :
    (actions.foldl (fun device action => action.apply device) recorder).IsAccounted issues := by
  induction actions generalizing recorder with
  | nil => exact haccounted
  | cons action rest ih =>
    obtain ⟨haction, hrest⟩ := List.forall_mem_cons.1 hissued
    apply ih hrest
    show (action.apply recorder).IsAccounted issues
    have hcalls := action.calls_apply recorder
    cases hcall : action.call? with
    | none =>
      have hquiet : action.apply recorder = recorder := by
        cases action <;> first | rfl | cases hcall
      rw [hquiet]
      exact haccounted
    | some call =>
      rw [hcall] at hcalls
      exact haccounted.record (haction call hcall) (nextId_apply action recorder) hcalls

end Recorder

namespace CompiledPipeline

variable (compiled : CompiledPipeline Recorder.handles) (scene : Option (Scene RecordedBuffer))
  (recorder : Recorder)

theorem nextId_render : (compiled.render scene recorder).2.nextId = recorder.nextId := by
  have hfold (actions : List (Action Recorder.handles)) (recorder : Recorder) :
      (actions.foldl (fun device action => action.apply device) recorder).nextId =
        recorder.nextId := by
    induction actions generalizing recorder with
    | nil => rfl
    | cons action rest ih => rw [List.foldl_cons, ih, Recorder.nextId_apply]
  rw [render_device]
  exact hfold _ recorder

theorem creates?_eq_none_of_mem_calls {call : DeviceCall} (hmem : call ∈ compiled.calls scene) :
    call.creates? = none := by
  obtain ⟨action, _, hcall⟩ := List.mem_filterMap.1 hmem
  exact Action.creates?_eq_none hcall

variable {compiled scene recorder}

/-- A frame keeps accounts right if its pipeline and the buffers of its scene have been handed out. -/
theorem isAccounted_render {issues : List Issue} (haccounted : recorder.IsAccounted issues)
    (hcompiled : AreIssued issues compiled.resources.tokens)
    (hscene : ∀ input ∈ scene, AreIssued issues input.tokens) :
    (compiled.render scene recorder).2.IsAccounted issues := by
  rw [render_device]
  refine haccounted.foldl_apply fun action haction call hcall => ?_
  obtain ⟨place, _, hmem⟩ := List.mem_flatMap.1 haction
  have hframe : AreIssued issues (compiled.frame scene).tokens := by
    refine areIssued_append.2 ⟨hcompiled, fun token htoken => ?_⟩
    obtain ⟨input, hinput, htoken⟩ := List.mem_flatMap.1 htoken
    exact hscene input (by simpa using hinput) token htoken
  exact hframe.mono (List.Subset.refl _) (Frame.tokens_subset hmem hcall)

end CompiledPipeline

end FramePlan
