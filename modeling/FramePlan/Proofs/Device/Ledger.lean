import FramePlan.Device.Recorder
import FramePlan.Proofs.Mirror

/-!
# What a recorder has handed out

The numbers of a recorder have no kinds: images, views, samplers, shaders, layouts and
buffers share them, and a call that fails leaves the same entry in the log as one that does not. A ledger is
a recorder with a list of what it has handed out. It answers as the recorder does.

* `DeviceCall.tokens`: what a call refers to.
* `Ledger`: a recorder that notes what it hands out.
* `Ledger.isMirror_recorder`: apart from its notes, a ledger is the recorder.
* `Recorder.IsAccounted`: whatever is referred to in a log has been handed out before.
-/

namespace FramePlan

open Attempt (Mirrors)
open Shader (ProgramStage)

/-- The kinds of what a recorder hands out. -/
inductive HandleKind where
  | image
  | renderView
  | depthView
  | sampler
  | shader (stage : ProgramStage)
  | inputLayout
  | buffer
deriving DecidableEq, Repr

/-- What a number stands for in a call: the thing of a kind that has this number. -/
structure Token where
  kind : HandleKind
  id : Nat
deriving DecidableEq, Repr

/-- Something that has been handed out, and where the call that created it stands in the log. -/
structure Issue where
  token : Token
  place : Nat
deriving DecidableEq, Repr

namespace DeviceCall

/-- The kind of what a call creates, if it creates something. -/
def creates? : DeviceCall → Option HandleKind
  | .createImage _ => some .image
  | .createRenderView _ => some .renderView
  | .createDepthView _ => some .depthView
  | .createSampler _ => some .sampler
  | .compileShader stage _ _ => some (.shader stage)
  | .createInputLayout _ _ => some .inputLayout
  | .createVertexBuffer _ => some .buffer
  | _ => none

/-- What a call refers to. -/
def tokens : DeviceCall → List Token
  | .createRenderView image | .createDepthView image => [⟨.image, image⟩]
  | .createInputLayout shader _ => [⟨.shader .vertex, shader⟩]
  | .setShaders vertex fragment layout =>
    [⟨.shader .vertex, vertex⟩, ⟨.shader .fragment, fragment⟩, ⟨.inputLayout, layout⟩]
  | .setRenderTargets color depth =>
    color.toList.map (⟨.renderView, ·⟩) ++ depth.toList.map (⟨.depthView, ·⟩)
  | .setTexture _ image sampler => [⟨.image, image⟩, ⟨.sampler, sampler⟩]
  | .setVertexStream _ buffer _ _ _ => [⟨.buffer, buffer⟩]
  | .clearRenderView view _ => [⟨.renderView, view⟩]
  | .clearDepthStencilView view _ _ => [⟨.depthView, view⟩]
  | .createImage _ | .createSampler _ | .compileShader _ _ _ | .createVertexBuffer _
  | .setViewport _ | .setRasterState _ | .setAccumulationState _ | .setSamplerUniform _ _
  | .setUniform _ _ | .draw _ _ => []

end DeviceCall

/-! ## Ledgers -/

/-- A recorder with what it has handed out, oldest first. -/
structure Ledger where
  recorder : Recorder
  issues : List Issue := []
deriving DecidableEq, Repr

namespace Ledger

variable {α : Type}

/-- Asks the recorder for something, and notes it if it is handed out. -/
def noting (kind : HandleKind) (id : α → Nat) (attempt : Attempt Recorder DeviceError α) :
    Attempt Ledger DeviceError α := fun ledger =>
  match attempt ledger.recorder with
  | (.ok made, recorder) =>
    (.ok made, ⟨recorder, ledger.issues ++ [⟨⟨kind, id made⟩, ledger.recorder.calls.size⟩]⟩)
  | (.error error, recorder) => (.error error, { ledger with recorder })

def calling (step : Recorder → Recorder) (ledger : Ledger) : Ledger :=
  { ledger with recorder := step ledger.recorder }

instance : Device Ledger Recorder.handles where
  backend ledger := Device.backend ledger.recorder
  createImage descriptor := noting .image (·.id) (Device.createImage descriptor)
  createRenderView image := noting .renderView (·.id) (Device.createRenderView image)
  createDepthView image := noting .depthView (·.id) (Device.createDepthView image)
  createSampler descriptor := noting .sampler (·.id) (Device.createSampler descriptor)
  compileShader stage source entryPoint profile :=
    noting (.shader stage) (·.handle.id) (Device.compileShader stage source entryPoint profile)
  createInputLayout vertex attributes :=
    noting .inputLayout (·.id) (Device.createInputLayout vertex attributes)
  createVertexBuffer contents := noting .buffer (·.id) (Device.createVertexBuffer contents)
  setShaders vertex fragment layout := calling (Device.setShaders vertex fragment layout)
  setRenderTargets color depth := calling (Device.setRenderTargets color depth)
  setViewport viewport := calling (Device.setViewport viewport)
  setRasterState context := calling (Device.setRasterState context)
  setAccumulationState context := calling (Device.setAccumulationState context)
  setTexture textureUnit image sampler := calling (Device.setTexture textureUnit image sampler)
  setSamplerUniform slot textureUnit := calling (Device.setSamplerUniform slot textureUnit)
  setUniform slot value := calling (Device.setUniform slot value)
  setVertexStream location binding := calling (Device.setVertexStream location binding)
  clearRenderView view color := calling (Device.clearRenderView view color)
  clearDepthStencilView view depth stencil :=
    calling (Device.clearDepthStencilView view depth stencil)
  draw primitive vertexCount ledger :=
    ((Device.draw primitive vertexCount ledger.recorder).1,
      ledger.calling fun recorder => (Device.draw primitive vertexCount recorder).2)

theorem mirrors_noting (kind : HandleKind) (id : α → Nat)
    (attempt : Attempt Recorder DeviceError α) :
    Mirrors recorder (noting kind id attempt) attempt := by
  intro ledger
  unfold noting
  rcases attempt ledger.recorder with ⟨error | made, last⟩ <;> rfl

/-- An action of a frame is one on the recorder; nothing is handed out for it. -/
theorem apply_eq (action : Action Recorder.handles) (ledger : Ledger) :
    action.apply ledger = { ledger with recorder := action.apply ledger.recorder } := by
  cases action <;> rfl

/-- Whatever is asked of a ledger, it answers as its recorder does, and leaves its recorder as that would
be. -/
theorem isMirror_recorder : Device.IsMirror recorder where
  backend _ := rfl
  createImage _ := mirrors_noting _ _ _
  createRenderView _ := mirrors_noting _ _ _
  createDepthView _ := mirrors_noting _ _ _
  createSampler _ := mirrors_noting _ _ _
  compileShader _ _ _ _ := mirrors_noting _ _ _
  createInputLayout _ _ := mirrors_noting _ _ _
  createVertexBuffer _ := mirrors_noting _ _ _

theorem issues_render (compiled : CompiledPipeline Recorder.handles)
    (scene : Option (Scene RecordedBuffer)) (ledger : Ledger) :
    (compiled.render scene ledger).2.issues = ledger.issues := by
  have hfold (actions : List (Action Recorder.handles)) (ledger : Ledger) :
      (actions.foldl (fun device action => action.apply device) ledger).issues =
        ledger.issues := by
    induction actions generalizing ledger with
    | nil => rfl
    | cons action rest ih => rw [List.foldl_cons, ih, apply_eq]
  rw [CompiledPipeline.render_device]
  exact hfold _ ledger

end Ledger

/-! ## Accounts -/

/-- All of some things are among those that have been handed out. -/
def AreIssued (issues : List Issue) (tokens : List Token) : Prop :=
  ∀ token ∈ tokens, ∃ issue ∈ issues, issue.token = token

theorem AreIssued.mono {issues later : List Issue} {tokens fewer : List Token}
    (hissued : AreIssued issues tokens) (hissues : issues ⊆ later) (htokens : fewer ⊆ tokens) :
    AreIssued later fewer := by
  intro token htoken
  obtain ⟨issue, hissue, rfl⟩ := hissued token (htokens htoken)
  exact ⟨issue, hissues hissue, rfl⟩

theorem areIssued_append {issues : List Issue} {first last : List Token} :
    AreIssued issues (first ++ last) ↔ AreIssued issues first ∧ AreIssued issues last := by
  simp only [AreIssued, List.mem_append, or_imp, forall_and]

namespace Recorder

/-- A recorder that has handed out some things: the numbers count up, each thing has been created by a call
for its kind, and a call refers to nothing that has not been created before it. -/
structure IsAccounted (recorder : Recorder) (issues : List Issue) : Prop where
  numbered : issues.map (·.token.id) = List.range recorder.nextId
  created : ∀ issue ∈ issues, ∃ call, recorder.calls.toList[issue.place]? = some call ∧
    call.creates? = some issue.token.kind
  referred : ∀ place call, recorder.calls.toList[place]? = some call → ∀ token ∈ call.tokens,
    ∃ issue ∈ issues, issue.token = token ∧ issue.place < place

namespace IsAccounted

variable {recorder last : Recorder} {issues : List Issue} {call : DeviceCall}

/-- No place behind the end of the log has been handed anything. -/
theorem place_lt (haccounted : recorder.IsAccounted issues) {issue : Issue} (hissue : issue ∈ issues) :
    issue.place < recorder.calls.toList.length := by
  obtain ⟨call, hcall, _⟩ := haccounted.created issue hissue
  exact (List.getElem?_eq_some_iff.1 hcall).1

/-- A call that refers to things that have been handed out may come next. -/
theorem referred_concat (haccounted : recorder.IsAccounted issues) (hissued : AreIssued issues call.tokens)
    {place : Nat} {found : DeviceCall}
    (hfound : (recorder.calls.toList ++ [call])[place]? = some found) {token : Token}
    (htoken : token ∈ found.tokens) :
    ∃ issue ∈ issues, issue.token = token ∧ issue.place < place := by
  by_cases hplace : place < recorder.calls.toList.length
  · rw [List.getElem?_append_left hplace] at hfound
    exact haccounted.referred place found hfound token htoken
  · rw [List.getElem?_append_right (Nat.le_of_not_lt hplace), List.getElem?_singleton] at hfound
    split at hfound
    · cases hfound
      obtain ⟨issue, hissue, rfl⟩ := hissued token htoken
      have hlt := haccounted.place_lt hissue
      exact ⟨issue, hissue, rfl, by omega⟩
    · cases hfound

/-- A call for which nothing is handed out. -/
theorem record (haccounted : recorder.IsAccounted issues) (hissued : AreIssued issues call.tokens)
    (hnextId : last.nextId = recorder.nextId)
    (hcalls : last.calls.toList = recorder.calls.toList ++ [call]) : last.IsAccounted issues where
  numbered := by rw [hnextId, haccounted.numbered]
  created issue hissue := by
    obtain ⟨creation, hcreation, hkind⟩ := haccounted.created issue hissue
    rw [hcalls, List.getElem?_append_left (haccounted.place_lt hissue)]
    exact ⟨creation, hcreation, hkind⟩
  referred place found hfound token htoken := by
    rw [hcalls] at hfound
    exact haccounted.referred_concat hissued hfound htoken

/-- A call that creates what is handed out for it. -/
theorem create (haccounted : recorder.IsAccounted issues) (hissued : AreIssued issues call.tokens)
    {kind : HandleKind} (hkind : call.creates? = some kind)
    (hnextId : last.nextId = recorder.nextId + 1)
    (hcalls : last.calls.toList = recorder.calls.toList ++ [call]) :
    last.IsAccounted (issues ++ [⟨⟨kind, recorder.nextId⟩, recorder.calls.size⟩]) where
  numbered := by simp [hnextId, haccounted.numbered, List.range_succ]
  created issue hissue := by
    rw [hcalls]
    rcases List.mem_append.1 hissue with hold | hnew
    · obtain ⟨creation, hcreation, hfound⟩ := haccounted.created issue hold
      rw [List.getElem?_append_left (haccounted.place_lt hold)]
      exact ⟨creation, hcreation, hfound⟩
    · cases List.mem_singleton.1 hnew
      exact ⟨call, by simp, hkind⟩
  referred place found hfound token htoken := by
    rw [hcalls] at hfound
    obtain ⟨issue, hissue, hplace⟩ := haccounted.referred_concat hissued hfound htoken
    exact ⟨issue, List.mem_append_left _ hissue, hplace⟩

end IsAccounted

end Recorder

end FramePlan
