import FramePlan.Proofs.Frame.Coherence
import FramePlan.Proofs.Frame.Feeding

/-!
# Faults that cannot happen

Binding can fail for a stream whose type has no vertex format, and for a uniform whose type has no zero. No
program has such streams and uniforms: a stream that a program keeps has the format of an input of the
vertex stage, and a uniform has a type that a stage has for its values. Whatever a pipeline declares and a
scene holds, these faults are not reported, and where uniforms without a value are zero none is missing.

* `CompiledProgram.IsBindable`: every uniform of a program can be zero, and every stream has a format.
* `CompiledProgram.MadeFrom.isBindable`: so it is for programs that a device has compiled.
* `Submission.fail_missingUniform_mem_actions_iff`: which uniforms are missing for a drawable.
* `impossible_faults_unreported`: which of the faults a frame reports.
-/

namespace FramePlan

variable {State : Type} {handles : Handles}

/-! ## Binding -/

section Binding

variable {Handle : Type} {name : String}

/-- A uniform is missing if nothing has its name and it is not to be zero, or cannot be. -/
theorem uniformValue_eq_missingUniform_iff {slot : UniformSlot} {object : Option (Object Handle)}
    {scene : Scene Handle} {policy : UnboundUniformPolicy} {missing : String} :
    uniformValue name slot object scene policy = .error (.missingUniform missing) ↔
      name = missing ∧ resolveUniform? name object scene = none ∧
        (policy = .skip ∨ Value.zero? slot.type = none) := by
  unfold uniformValue
  cases resolveUniform? name object scene with
  | some value => by_cases htype : value.inputType = slot.type <;> simp [htype]
  | none => cases policy <;> cases Value.zero? slot.type <;> simp

/-- A stream is of an unsupported type only if the type that is declared for it has no format. -/
theorem ofInputType?_of_streamBinding {slot : StreamSlot} {streams : Streams Handle}
    {type : InputType} (herror : streamBinding slot streams = .error (.unsupportedStreamType name type)) :
    VertexFormat.ofInputType? slot.type = none := by
  unfold streamBinding at herror
  cases hget : streams.get? slot.stream with
  | none => simp [hget] at herror
  | some stream =>
    simp only [hget] at herror
    split at herror
    · next htype =>
      rw [← htype]
      unfold Stream.binding at herror
      split at herror
      · next hformat => exact hformat
      · split at herror
        · cases herror
        · split at herror <;> cases herror
    · cases herror

end Binding

/-! ## Programs that can be bound -/

/-- Every uniform of a program can be zero, and every stream of it has a format. -/
structure CompiledProgram.IsBindable (program : CompiledProgram handles) : Prop where
  zeros : ∀ entry ∈ program.uniforms.entries, (Value.zero? entry.2.type).isSome = true
  formats : ∀ entry ∈ program.streams.entries, (VertexFormat.ofInputType? entry.2.type).isSome = true

section Made

variable [Device State handles] [Device.Reflects State] {config : Config}

theorem CompiledProgram.MadeFrom.isBindable {descriptor : Program}
    {vertex fragment : CompiledShader handles.Shader} {program : CompiledProgram handles}
    (hmade : program.MadeFrom State config descriptor vertex fragment) : program.IsBindable where
  zeros := by
    intro entry hmem
    rw [Value.zero?_isSome, hmade.isSampler hmem]
    rfl
  formats := by
    intro entry hmem
    rw [hmade.streams] at hmem
    obtain ⟨_, format, _, hformat⟩ :=
      get?_streamSlots_eq_some_iff.1 (Table.get?_eq_some_iff.2 hmem)
    rw [hformat]
    rfl

/-- What a frame submits is drawn with a program that can be bound. -/
theorem CompiledPipeline.IsCompiled.isBindable {pipeline : Pipeline}
    {compiled : CompiledPipeline handles} (hcompiled : compiled.IsCompiled State pipeline config)
    {scene : Option (Scene handles.Buffer)} {submission : Submission handles}
    (hmem : submission ∈ compiled.submissions scene) : submission.program.IsBindable := by
  obtain ⟨_, hprogram⟩ := exists_program_of_mem_submissions hmem
  obtain ⟨_, _, _, _, hmade⟩ := hcompiled.exists_madeFrom hprogram
  exact hmade.isBindable

end Made

/-! ## What a drawable fails with -/

namespace Submission

variable {submission : Submission handles} {policy : UnboundUniformPolicy}

theorem uniformAction_eq_fail_iff {entry : String × UniformSlot} {error : BindingError} :
    submission.uniformAction policy entry = .fail error ↔
      uniformValue entry.1 entry.2 submission.drawable.object submission.scene policy =
        .error error := by
  unfold uniformAction
  cases uniformValue entry.1 entry.2 submission.drawable.object submission.scene policy with
  | ok value => simp
  | error found => simp

/-- An error about a uniform comes from a uniform of the program. -/
theorem fail_mem_actions_iff_of_uniform {error : BindingError} (hsubject : error.subject = .uniform) :
    .fail error ∈ submission.actions policy ↔
      ∃ entry ∈ submission.program.uniforms.entries,
        uniformValue entry.1 entry.2 submission.drawable.object submission.scene policy =
          .error error := by
  rw [actions, List.mem_append, List.mem_map]
  simp only [uniformAction_eq_fail_iff]
  constructor
  · rintro (huniform | hstream)
    · exact huniform
    · rcases submission.mem_streamActions hstream with
        ⟨_, _, _, haction, herror⟩ | ⟨_, _, _, haction, _⟩ | haction
      · cases haction
        have hstreamed := subject_of_streamBinding herror
        rw [hsubject] at hstreamed
        cases hstreamed
      · cases haction
      · cases haction
  · exact .inl

/-- An error about a stream comes from a stream of the program. -/
theorem exists_of_fail_mem_actions_of_stream {error : BindingError} (hsubject : error.subject = .stream)
    (hmem : .fail error ∈ submission.actions policy) :
    ∃ entry ∈ submission.program.streams.entries,
      streamBinding entry.2 submission.drawable.streams = .error error := by
  rcases List.mem_append.1 hmem with huniform | hstream
  · obtain ⟨entry, _, hfail⟩ := List.mem_map.1 huniform
    have hvalued := subject_of_uniformValue (uniformAction_eq_fail_iff.1 hfail)
    rw [hsubject] at hvalued
    cases hvalued
  · rcases submission.mem_streamActions hstream with
      ⟨slot, hslot, _, haction, herror⟩ | ⟨_, _, _, haction, _⟩ | haction
    · cases haction
      obtain ⟨entry, hentry, rfl⟩ := List.mem_map.1 hslot
      exact ⟨entry, hentry, herror⟩
    · cases haction
    · cases haction

/-- The uniforms that are missing for a drawable are those of its program that nothing has a value for, if
they are not to be zero. -/
theorem fail_missingUniform_mem_actions_iff (hbindable : submission.program.IsBindable) {name : String} :
    .fail (.missingUniform name) ∈ submission.actions policy ↔
      policy = .skip ∧ (submission.program.uniforms.get? name).isSome = true ∧
        resolveUniform? name submission.drawable.object submission.scene = none := by
  rw [fail_mem_actions_iff_of_uniform rfl]
  simp only [uniformValue_eq_missingUniform_iff]
  constructor
  · rintro ⟨⟨found, slot⟩, hmem, rfl, hresolve, hskip | hzero⟩
    · exact ⟨hskip, Option.isSome_iff_exists.2 ⟨slot, Table.get?_eq_some_iff.2 hmem⟩, hresolve⟩
    · have hsome := hbindable.zeros _ hmem
      rw [hzero] at hsome
      cases hsome
  · rintro ⟨hskip, hsome, hresolve⟩
    obtain ⟨slot, hget⟩ := Option.isSome_iff_exists.1 hsome
    exact ⟨(name, slot), Table.get?_eq_some_iff.1 hget, rfl, hresolve, .inl hskip⟩

theorem fail_unsupportedStreamType_notMem_actions (hbindable : submission.program.IsBindable)
    (name : String) (type : InputType) :
    .fail (.unsupportedStreamType name type) ∉ submission.actions policy := by
  intro hmem
  obtain ⟨entry, hentry, herror⟩ := exists_of_fail_mem_actions_of_stream rfl hmem
  have hsome := hbindable.formats entry hentry
  rw [ofInputType?_of_streamBinding herror] at hsome
  cases hsome

/-- Where uniforms without a value are zero, those that nothing has a value for are set to the zero of their
type. -/
theorem exists_zero_of_resolveUniform? (hbindable : submission.program.IsBindable) {name : String}
    {slot : UniformSlot} (hget : submission.program.uniforms.get? name = some slot)
    (hresolve : resolveUniform? name submission.drawable.object submission.scene = none) :
    ∃ zero, Value.zero? slot.type = some zero ∧
      .setUniform slot.slot zero ∈ submission.actions .zero := by
  obtain ⟨zero, hzero⟩ :=
    Option.isSome_iff_exists.1 (hbindable.zeros _ (Table.get?_eq_some_iff.1 hget))
  refine ⟨zero, hzero, submission.setUniform_mem_actions hget ?_⟩
  simp only [uniformValue, hresolve, hzero]

end Submission

/-! ## What a frame fails with -/

namespace Frame

/-- What is done for a submission of a command is done by the command. -/
theorem mem_actions_of_mem_submissions? {frame : Frame handles} {cursor : Cursor} {command : Command}
    {submissions : List (Submission handles)}
    (hsome : frame.submissions? cursor command = some submissions) {submission : Submission handles}
    (hmem : submission ∈ submissions) {action : Action handles}
    (haction : action ∈ submission.actions frame.policy) : action ∈ frame.actions cursor command := by
  have hrender : action ∈ frame.renderActions (frame.submissions? cursor command) := by
    rw [hsome]
    exact List.mem_flatMap.2 ⟨submission, hmem, haction⟩
  cases command with
  | renderSlot slot => exact hrender
  | renderStream stream => exact hrender
  | _ =>
    cases hsome
    cases hmem

theorem mem_plan_of_mem_submissions {frame : Frame handles} {commands : List Command}
    {submission : Submission handles} (hmem : submission ∈ frame.submissions commands)
    {action : Action handles} (haction : action ∈ submission.actions frame.policy) :
    action ∈ frame.plan commands := by
  obtain ⟨place, hplace, made, hsome, hmade⟩ := mem_submissions_iff.1 hmem
  exact List.mem_flatMap.2 ⟨place, hplace, mem_actions_of_mem_submissions? hsome hmade haction⟩

/-- An error that is not about a sampler comes from something that is submitted. -/
theorem fail_mem_plan_iff {frame : Frame handles} {commands : List Command} {error : BindingError}
    (hsubject : error.subject ≠ .sampler) :
    .fail error ∈ frame.plan commands ↔
      ∃ submission ∈ frame.submissions commands, .fail error ∈ submission.actions frame.policy := by
  constructor
  · intro hmem
    obtain ⟨place, hplace, hmem⟩ := List.mem_flatMap.1 hmem
    rcases mem_actions hmem with ⟨submissions, hsome, submission, hsubmission, haction⟩ |
      ⟨_, _, _, _, _, ⟨_, _, haction⟩ | ⟨_, haction⟩⟩ | hgeneral
    · exact ⟨submission, mem_submissions_iff.2 ⟨place, hplace, submissions, hsome, hsubmission⟩, haction⟩
    · cases haction
    · cases haction
      exact absurd rfl hsubject
    · cases hgeneral
  · rintro ⟨submission, hmem, haction⟩
    exact mem_plan_of_mem_submissions hmem haction

end Frame

namespace CompiledPipeline

theorem mem_errors_render_iff [Device State handles] {compiled : CompiledPipeline handles}
    {scene : Option (Scene handles.Buffer)} {device : State} {error : BindingError}
    (hsubject : error.subject ≠ .sampler) :
    .binding error ∈ (compiled.render scene device).1.errors ↔
      ∃ submission ∈ compiled.submissions scene,
        .fail error ∈ submission.actions compiled.config.unboundUniforms := by
  rw [← FrameReport.mem_bindingErrors, bindingErrors_render, List.mem_filterMap]
  refine Iff.trans ?_ (Frame.fail_mem_plan_iff hsubject)
  constructor
  · rintro ⟨action, hmem, herror⟩
    cases action with
    | fail found =>
      cases herror
      exact hmem
    | _ => cases herror
  · intro hmem
    exact ⟨.fail error, hmem, rfl⟩

end CompiledPipeline

/-- No frame of a compiled pipeline reports a stream of an unsupported type, whatever the pipeline declares
and the scene holds. A uniform is reported as missing just when uniforms without a value are passed over and
something is submitted whose program has the uniform and for which nothing has a value. Where they are zero
instead none is missing, and each of them is set to the zero of its type. -/
theorem impossible_faults_unreported [Device State handles] [Device.Reflects State]
    {pipeline : Pipeline} {width height : UInt32} {config : Config} {start ready : State}
    {compiled : CompiledPipeline handles}
    (hcompile : CompiledPipeline.compile pipeline width height config start = (.ok compiled, ready))
    (scene : Option (Scene handles.Buffer)) (device : State) :
    (∀ name type, .binding (.unsupportedStreamType name type) ∉
      (compiled.render scene device).1.errors) ∧
    (∀ name, .binding (.missingUniform name) ∈ (compiled.render scene device).1.errors ↔
      config.unboundUniforms = .skip ∧ ∃ submission ∈ compiled.submissions scene,
        (submission.program.uniforms.get? name).isSome = true ∧
        resolveUniform? name submission.drawable.object submission.scene = none) ∧
    (config.unboundUniforms = .zero →
      (∀ name, .binding (.missingUniform name) ∉ (compiled.render scene device).1.errors) ∧
      ∀ submission ∈ compiled.submissions scene, ∀ name slot,
        submission.program.uniforms.get? name = some slot →
        resolveUniform? name submission.drawable.object submission.scene = none →
          ∃ zero, Value.zero? slot.type = some zero ∧
            .setUniform slot.slot zero ∈ compiled.plan scene) := by
  have hcompiled := CompiledPipeline.isCompiled_of_compile_eq_ok hcompile
  have hmissing (name : String) :
      .binding (.missingUniform name) ∈ (compiled.render scene device).1.errors ↔
        config.unboundUniforms = .skip ∧ ∃ submission ∈ compiled.submissions scene,
          (submission.program.uniforms.get? name).isSome = true ∧
          resolveUniform? name submission.drawable.object submission.scene = none := by
    rw [CompiledPipeline.mem_errors_render_iff (by simp [BindingError.subject]), hcompiled.config]
    constructor
    · rintro ⟨submission, hmem, hfail⟩
      obtain ⟨hskip, hlacks⟩ :=
        (Submission.fail_missingUniform_mem_actions_iff (hcompiled.isBindable hmem)).1 hfail
      exact ⟨hskip, submission, hmem, hlacks⟩
    · rintro ⟨hskip, submission, hmem, hlacks⟩
      exact ⟨submission, hmem, (Submission.fail_missingUniform_mem_actions_iff
        (hcompiled.isBindable hmem)).2 ⟨hskip, hlacks⟩⟩
  refine ⟨?_, hmissing, fun hzero => ⟨?_, ?_⟩⟩
  · intro name type hreported
    obtain ⟨submission, hmem, hfail⟩ :=
      (CompiledPipeline.mem_errors_render_iff (by simp [BindingError.subject])).1 hreported
    exact Submission.fail_unsupportedStreamType_notMem_actions (hcompiled.isBindable hmem) name type
      hfail
  · intro name hreported
    have hskip := ((hmissing name).1 hreported).1
    rw [hzero] at hskip
    cases hskip
  · intro submission hmem name slot hget hresolve
    obtain ⟨zero, hvalue, haction⟩ :=
      Submission.exists_zero_of_resolveUniform? (hcompiled.isBindable hmem) hget hresolve
    have hpolicy : (compiled.frame scene).policy = .zero := by
      rw [← hzero, ← hcompiled.config]
      rfl
    rw [← hpolicy] at haction
    exact ⟨zero, hvalue, Frame.mem_plan_of_mem_submissions hmem haction⟩

/-! ## A program that declares what no stage has -/

namespace Sample

/-- Takes positions that it does not use, and gives a column of a uniform matrix. -/
def mistypedVertexShader : String :=
  "@group(0)@binding(0)var<uniform>t:mat4x4f;@group(0)@binding(1)var d:texture_2d<f32>;" ++
  "@vertex fn v(@location(0)p:vec4f)->@builtin(position)vec4f\x7breturn t[0];\x7d"

/-- A program that declares a matrix for its positions, and textures as uniforms. -/
def mistyped : Program where
  uniforms := .ofList [("t", .matrix .four), ("d", .texture .float), ("b", .texture .float)]
  streams := .ofList [("p", ⟨"position", .matrix .four⟩)]
  textures := .empty
  vertexShader := mistypedVertexShader
  geometryShader := none
  fragmentShader := fragmentShader

/-- The positions are declared as matrices as well. -/
def mistypedPipeline : Pipeline :=
  { pipeline with
    programs := [mistyped]
    streams := [{ triangle with types := .ofList [("position", .matrix .four)] }]
    commands := [.setProgram 0, .renderStream 0] }

/-- A scene that holds nothing. -/
def bareScene {Handle : Type} : Scene Handle := ⟨.empty, .empty, 8, 8⟩

/-- Of what is submitted, the uniforms of the program and what there is for the matrix. -/
def mistypedUniforms (submission : Submission Recorder.handles) :
    List (String × UniformSlot) × Option Value :=
  (submission.program.uniforms.entries,
    resolveUniform? "t" submission.drawable.object submission.scene)

theorem recorder_compiles_mistyped : ∃ compiled ready,
    CompiledPipeline.compile mistypedPipeline 8 8 config recorder = (.ok compiled, ready) ∧
    (compiled.submissions (some bareScene)).map mistypedUniforms =
      [([("t", ⟨⟨0, 0⟩, .matrix .four⟩)], none)] :=
  Attempt.exists_of_yields (by decide +kernel)

end Sample

/-- Textures and the matrices for the positions are left out, and the uniform matrix is zero. -/
theorem impossible_faults_unreported_mistyped : ∃ compiled ready,
    CompiledPipeline.compile Sample.mistypedPipeline 8 8 Sample.config Sample.recorder =
      (.ok compiled, ready) ∧
    Sample.config.unboundUniforms = .zero ∧
    (∀ name type, .binding (.unsupportedStreamType name type) ∉
      (compiled.render (some Sample.bareScene) ready).1.errors) ∧
    (∀ name, .binding (.missingUniform name) ∉
      (compiled.render (some Sample.bareScene) ready).1.errors) ∧
    .setUniform ⟨0, 0⟩ (.matrix .four (.replicate _ (.replicate _ .zero))) ∈
      compiled.plan (some Sample.bareScene) := by
  obtain ⟨compiled, ready, hcompile, hsubmissions⟩ := Sample.recorder_compiles_mistyped
  obtain ⟨hformats, _, hzeros⟩ := impossible_faults_unreported hcompile (some Sample.bareScene) ready
  obtain ⟨hpresent, hset⟩ := hzeros rfl
  refine ⟨compiled, ready, hcompile, rfl, hformats, hpresent, ?_⟩
  obtain ⟨submission, hmem, hseen⟩ := List.mem_map.1 (hsubmissions ▸ List.mem_singleton_self _)
  obtain ⟨huniforms, hresolve⟩ := Prod.mk.inj hseen
  have hget : submission.program.uniforms.get? "t" = some ⟨⟨0, 0⟩, .matrix .four⟩ := by
    rw [Table.get?_eq_some_iff, huniforms]
    exact List.mem_singleton_self _
  obtain ⟨zero, hzero, hmem⟩ := hset submission hmem "t" _ hget hresolve
  cases hzero
  exact hmem

end FramePlan
