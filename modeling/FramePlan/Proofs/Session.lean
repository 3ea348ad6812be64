import FramePlan.Proofs.Device.Accounts
import FramePlan.Sample

/-!
# Sessions on a recorder

A host compiles pipelines on a recorder, packs arrays into buffers, and renders frames of its pipelines with
objects in its buffers, in any order. Compilations may fail, early or late. Whatever comes of it, no number
is handed out twice, and no call refers to a thing that has not been handed out before: an image in the
place of an image, and a view in the place of a view of its kind.

* `Session`: a recorder, what it has handed out, and what the host has made.
* `Session.Reached`: a session after some compilations, buffers and frames.
* `Session.Reached.isSound`: what is true of any of them.
* `handles_are_issued_first`: what can be read off the log.
-/

namespace FramePlan

/-- A host at work on a recorder. -/
structure Session where
  recorder : Recorder
  /-- What the recorder has handed out, oldest first. -/
  issues : List Issue := []
  made : List (CompiledPipeline Recorder.handles) := []
  buffers : List (Buffer RecordedBuffer) := []

/-- A scene with no buffers but some. -/
def Scene.Uses {Handle : Type} (scene : Scene Handle) (buffers : List (Buffer Handle)) : Prop :=
  ∀ objects ∈ scene.objects.values, ∀ object ∈ objects, ∀ stream ∈ object.streams.values,
    stream.buffer ∈ buffers

namespace Session

/-- The recorder with what it has handed out. -/
def ledger (session : Session) : Ledger := ⟨session.recorder, session.issues⟩

/-- Compiles a pipeline, or fails to. -/
def compile (session : Session) (pipeline : Pipeline) (width height : UInt32) (config : Config) :
    Session where
  recorder := (CompiledPipeline.compile pipeline width height config session.recorder).2
  issues := (CompiledPipeline.compile pipeline width height config session.ledger).2.issues
  made :=
    (CompiledPipeline.compile pipeline width height config session.recorder).1.toOption.toList ++
      session.made
  buffers := session.buffers

def pack (session : Session) (arrays : List ArrayValue) : Session where
  recorder := (Buffer.create arrays session.recorder).2
  issues := (Buffer.create arrays session.ledger).2.issues
  made := session.made
  buffers := (Buffer.create arrays session.recorder).1.toOption.toList ++ session.buffers

def render (session : Session) (compiled : CompiledPipeline Recorder.handles)
    (scene : Option (Scene RecordedBuffer)) : Session :=
  { session with
    recorder := (compiled.render scene session.recorder).2
    issues := (compiled.render scene session.ledger).2.issues }

theorem issues_render (session : Session) (compiled : CompiledPipeline Recorder.handles)
    (scene : Option (Scene RecordedBuffer)) :
    (session.render compiled scene).issues = session.issues :=
  Ledger.issues_render compiled scene session.ledger

/-- A session on a new recorder, after pipelines have been compiled, or could not be, arrays have been
packed, and frames of the pipelines have been rendered with objects in the buffers, in any order. -/
inductive Reached : Session → Prop where
  | new (backend : Backend) (greatestSide : UInt32) :
    Reached { recorder := { backend, greatestSide } }
  | compile {session : Session} (hreached : Reached session) (pipeline : Pipeline)
      (width height : UInt32) (config : Config) :
    Reached (session.compile pipeline width height config)
  | pack {session : Session} (hreached : Reached session) (arrays : List ArrayValue) :
    Reached (session.pack arrays)
  | render {session : Session} (hreached : Reached session)
      {compiled : CompiledPipeline Recorder.handles} (hmem : compiled ∈ session.made)
      {scene : Option (Scene RecordedBuffer)} (hscene : ∀ input ∈ scene, input.Uses session.buffers) :
    Reached (session.render compiled scene)

/-- Accounts are right, and all that the host has made has been handed out. -/
structure IsSound (session : Session) : Prop where
  accounted : session.recorder.IsAccounted session.issues
  made : ∀ compiled ∈ session.made, AreIssued session.issues compiled.resources.tokens
  buffers : ∀ buffer ∈ session.buffers, AreIssued session.issues [⟨.buffer, buffer.handle.id⟩]

namespace IsSound

variable {session : Session}

theorem new (backend : Backend) (greatestSide : UInt32) :
    IsSound { recorder := { backend, greatestSide } } where
  accounted := ⟨rfl, nofun, fun place call hcall => by simp at hcall⟩
  made := nofun
  buffers := nofun

/-- What has been made stays handed out when more is. -/
theorem mono_made (hsound : session.IsSound) {later : List Issue} (hlater : session.issues ⊆ later)
    {compiled : CompiledPipeline Recorder.handles} (hmem : compiled ∈ session.made) :
    AreIssued later compiled.resources.tokens :=
  (hsound.made compiled hmem).mono hlater (List.Subset.refl _)

theorem mono_buffers (hsound : session.IsSound) {later : List Issue}
    (hlater : session.issues ⊆ later) {buffer : Buffer RecordedBuffer}
    (hmem : buffer ∈ session.buffers) : AreIssued later [⟨.buffer, buffer.handle.id⟩] :=
  (hsound.buffers buffer hmem).mono hlater (List.Subset.refl _)

theorem compile (hsound : session.IsSound) (pipeline : Pipeline) (width height : UInt32)
    (config : Config) : (session.compile pipeline width height config).IsSound := by
  have haccounts : Accounts [] (CompiledPipeline.compile pipeline width height config) _ :=
    Accounts.compile pipeline width height config
  obtain ⟨haccounted, hkept, hmade⟩ := haccounts session.ledger hsound.accounted nofun
  -- the recorder answers what the ledger answers
  have hmirror := Ledger.isMirror_recorder.compile pipeline width height config session.ledger
  have hrecorder : (session.compile pipeline width height config).recorder =
      (CompiledPipeline.compile pipeline width height config session.ledger).2.recorder :=
    congrArg Prod.snd hmirror
  constructor
  · rw [hrecorder]
    exact haccounted
  · intro compiled hmem
    rcases List.mem_append.1 hmem with hnew | hold
    · apply hmade
      have houtcome : (CompiledPipeline.compile pipeline width height config session.recorder).1 =
          (CompiledPipeline.compile pipeline width height config session.ledger).1 :=
        congrArg Prod.fst hmirror
      exact houtcome.symm.trans (eq_ok_of_mem_toOption hnew)
    · exact hsound.mono_made hkept hold
  · intro buffer hmem
    exact hsound.mono_buffers hkept hmem

theorem pack (hsound : session.IsSound) (arrays : List ArrayValue) :
    (session.pack arrays).IsSound := by
  have haccounts : Accounts [] (Buffer.create arrays) _ := Accounts.pack arrays
  obtain ⟨haccounted, hkept, hmade⟩ := haccounts session.ledger hsound.accounted nofun
  have hmirror := Ledger.isMirror_recorder.pack arrays session.ledger
  have hrecorder : (session.pack arrays).recorder =
      (Buffer.create arrays session.ledger).2.recorder := congrArg Prod.snd hmirror
  constructor
  · rw [hrecorder]
    exact haccounted
  · intro compiled hmem
    exact hsound.mono_made hkept hmem
  · intro buffer hmem
    rcases List.mem_append.1 hmem with hnew | hold
    · apply hmade
      have houtcome : (Buffer.create arrays session.recorder).1 =
          (Buffer.create arrays session.ledger).1 := congrArg Prod.fst hmirror
      exact houtcome.symm.trans (eq_ok_of_mem_toOption hnew)
    · exact hsound.mono_buffers hkept hold

/-- Objects in the buffers of a host view what has been handed out. -/
theorem areIssued_scene (hsound : session.IsSound) {scene : Scene RecordedBuffer}
    (huses : scene.Uses session.buffers) : AreIssued session.issues scene.tokens := by
  intro token htoken
  obtain ⟨object, hobject, htoken⟩ := List.mem_flatMap.1 htoken
  obtain ⟨objects, hobjects, hobject⟩ := List.mem_flatten.1 hobject
  obtain ⟨stream, hstream, rfl⟩ := List.mem_map.1 htoken
  have hbuffer := huses objects hobjects object hobject stream hstream
  exact hsound.buffers _ hbuffer _ List.mem_cons_self

theorem render (hsound : session.IsSound) {compiled : CompiledPipeline Recorder.handles}
    (hmem : compiled ∈ session.made) {scene : Option (Scene RecordedBuffer)}
    (hscene : ∀ input ∈ scene, input.Uses session.buffers) :
    (session.render compiled scene).IsSound := by
  constructor
  · rw [issues_render]
    exact CompiledPipeline.isAccounted_render hsound.accounted (hsound.made compiled hmem)
      fun input hinput => hsound.areIssued_scene (hscene input hinput)
  · rw [issues_render]
    exact hsound.made
  · rw [issues_render]
    exact hsound.buffers

end IsSound

theorem Reached.isSound {session : Session} (hreached : session.Reached) : session.IsSound := by
  induction hreached with
  | new backend greatestSide => exact .new backend greatestSide
  | compile _ pipeline width height config ih => exact ih.compile pipeline width height config
  | pack _ arrays ih => exact ih.pack arrays
  | render _ hmem hscene ih => exact ih.render hmem hscene

end Session

/-- Whatever a host does on a recorder, and whatever fails, no number is handed out twice. A call refers to
nothing but what a call before it has created and what was handed out for that: an image for a view or a
texture unit, a view of the right kind for a target or a clear, and so for samplers, shaders, layouts and
buffers. A frame creates nothing, and uses no number up. -/
theorem handles_are_issued_first {session : Session} (hreached : session.Reached) :
    (session.issues.map (·.token.id)).Nodup ∧
    (∀ place call, session.recorder.calls.toList[place]? = some call → ∀ token ∈ call.tokens,
      ∃ issue ∈ session.issues, issue.token = token ∧ issue.place < place ∧
        ∃ creation, session.recorder.calls.toList[issue.place]? = some creation ∧
          creation.creates? = some token.kind) ∧
    ∀ (compiled : CompiledPipeline Recorder.handles) (scene : Option (Scene RecordedBuffer)),
      (session.render compiled scene).issues = session.issues ∧
      (session.render compiled scene).recorder.nextId = session.recorder.nextId ∧
      ∃ calls, (session.render compiled scene).recorder.calls.toList =
          session.recorder.calls.toList ++ calls ∧
        ∀ call ∈ calls, call.creates? = none := by
  have haccounted := hreached.isSound.accounted
  refine ⟨?_, ?_, fun compiled scene => ⟨?_, ?_, ?_⟩⟩
  · rw [haccounted.numbered]
    exact List.nodup_range
  · intro place call hcall token htoken
    obtain ⟨issue, hissue, rfl, hplace⟩ := haccounted.referred place call hcall token htoken
    exact ⟨issue, hissue, rfl, hplace, haccounted.created issue hissue⟩
  · exact session.issues_render compiled scene
  · exact compiled.nextId_render scene session.recorder
  · exact ⟨compiled.calls scene, compiled.calls_render scene session.recorder,
      fun call => compiled.creates?_eq_none_of_mem_calls scene⟩

namespace Sample

/-- The sample with a texture that has no texels. -/
def withoutTexels : Pipeline :=
  { pipeline with textures := [⟨.texture2D, 0, 4, .color, {}, 0, 0⟩] }

/-- A host that packs the corners of a triangle, fails to compile a pipeline once its back buffer is there,
and compiles another one. -/
def session : Session :=
  ((({ recorder : Session }).pack [corners]).compile withoutTexels 8 8 config).compile pipeline 8 8
    config

theorem uses_buffers_session : (scene recordedBuffer).Uses session.buffers := by
  have hbuffers : session.buffers = [⟨recordedBuffer, BufferArray.layout 0 [corners]⟩] := rfl
  have hobjects : (scene recordedBuffer).objects.values =
      [[{ object recordedBuffer with streams := .empty }],
        [object recordedBuffer, { object recordedBuffer with enabled := false }]] := rfl
  have hstreams : (object recordedBuffer).streams.values = [stream recordedBuffer] := rfl
  have hempty : Table.values (Table.empty : Streams RecordedBuffer) = [] := rfl
  simp [Scene.Uses, hbuffers, hobjects, hstreams, hempty, stream]

end Sample

/-- The host of the sample has been handed a buffer, a back buffer for nothing, and what the other pipeline
is made of. It may then render a frame that draws its objects, and its buffer is the first thing that was
handed out. -/
theorem handles_are_issued_first_sample : ∃ compiled ∈ Sample.session.made,
    let session := Sample.session.render compiled (some (Sample.scene Sample.recordedBuffer))
    session.Reached ∧ session.issues.length = 13 ∧
    session.issues[0]? = some ⟨⟨.buffer, Sample.recordedBuffer.id⟩, 0⟩ ∧
    (session.issues.map (·.token.id)).Nodup ∧
    ∀ place call, session.recorder.calls.toList[place]? = some call → ∀ token ∈ call.tokens,
      ∃ issue ∈ session.issues, issue.token = token ∧ issue.place < place ∧
        ∃ creation, session.recorder.calls.toList[issue.place]? = some creation ∧
          creation.creates? = some token.kind := by
  obtain ⟨hmade, hissues, hbuffer⟩ : 0 < Sample.session.made.length ∧
      Sample.session.issues.length = 13 ∧
      Sample.session.issues[0]? = some ⟨⟨.buffer, Sample.recordedBuffer.id⟩, 0⟩ := by
    decide +kernel
  obtain ⟨compiled, hmem⟩ := List.exists_mem_of_length_pos hmade
  have hsession : Sample.session.Reached :=
    .compile (.compile (.pack (.new .webGpu 8192) _) _ 8 8 _) _ 8 8 _
  have hreached : (Sample.session.render compiled
      (some (Sample.scene Sample.recordedBuffer))).Reached :=
    .render hsession hmem (by simpa using Sample.uses_buffers_session)
  obtain ⟨hnodup, hreferred, _⟩ := handles_are_issued_first hreached
  refine ⟨compiled, hmem, hreached, ?_, ?_, hnodup, hreferred⟩
  · rw [Session.issues_render, hissues]
  · rw [Session.issues_render, hbuffer]

end FramePlan
