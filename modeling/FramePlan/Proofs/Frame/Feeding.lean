import FramePlan.Proofs.Device.Recorder
import FramePlan.Proofs.Frame.Log
import FramePlan.Proofs.Slots
import FramePlan.Sample

/-!
# Which stage is fed

A program keeps one slot for a uniform and one for a texture. The vertex stage is asked for it first, so
wherever this stage has the name, what is submitted under the name goes to its slot. The fragment stage
is fed where the vertex stage does not have the name, or has it at the same slot.

* `get?_uniformSlots_of_declared`: the slot that a program keeps for a uniform.
* `slots_are_fed`: what is resolved for a name goes to the slot of the first stage that has it.
* `fragment_stage_starves`: a fragment stage that has the names at slots of its own gets nothing.
-/

namespace FramePlan

open Shader (Interface UniformInfo)

variable {State : Type} {handles : Handles}

/-- A stage takes values of a type under a name, at a slot. -/
def Shader.Interface.TakesUniform (interface : Interface) (name : String) (type : InputType)
    (slot : ResourceSlot) : Prop :=
  ∃ info, interface.uniforms.get? name = some info ∧ info.slot = slot ∧
    info.type = some type.written

/-- A declared uniform keeps the slot of the first stage that has the name, if this stage takes values
of the declared type. -/
theorem get?_uniformSlots_of_declared {declared : Table String InputType}
    {vertex fragment : Interface} {name : String} {type : InputType}
    (hdeclared : declared.get? name = some type) (slot : ResourceSlot) :
    (uniformSlots declared vertex fragment).get? name = some ⟨slot, type⟩ ↔
      vertex.TakesUniform name type slot ∨
        vertex.uniforms.get? name = none ∧ fragment.TakesUniform name type slot := by
  rw [get?_uniformSlots_eq_some_iff]
  constructor
  · rintro ⟨_, info, hinfo, hslot, htype⟩
    rcases ofStages_eq_some_iff.1 hinfo with hvertex | ⟨hnone, hfragment⟩
    · exact .inl ⟨info, hvertex, hslot, htype⟩
    · exact .inr ⟨hnone, info, hfragment, hslot, htype⟩
  · rintro (⟨info, hvertex, hslot, htype⟩ | ⟨hnone, info, hfragment, hslot, htype⟩)
    · exact ⟨hdeclared, info, ofStages_eq_some_iff.2 (.inl hvertex), hslot, htype⟩
    · exact ⟨hdeclared, info, ofStages_eq_some_iff.2 (.inr ⟨hnone, hfragment⟩), hslot, htype⟩

/-- A value that is resolved for a uniform goes to the slot of this uniform. -/
theorem Submission.setUniform_mem_actions (submission : Submission handles) {name : String}
    {slot : UniformSlot} (hget : submission.program.uniforms.get? name = some slot)
    {policy : UnboundUniformPolicy} {value : Value}
    (hvalue : uniformValue name slot submission.drawable.object submission.scene policy =
      .ok value) :
    .setUniform slot.slot value ∈ submission.actions policy := by
  have haction : submission.uniformAction policy (name, slot) = .setUniform slot.slot value := by
    rw [uniformAction, hvalue]
  refine List.mem_append_left _ (List.mem_map.2 ⟨(name, slot), ?_, haction⟩)
  exact Table.get?_eq_some_iff.1 hget

theorem Frame.step_setSamplerUniform [Device State handles] {frame : Frame handles}
    {state : FrameState State} {program : CompiledProgram handles}
    (hbound : frame.boundProgram? state.cursor = some program) {name : String} {slot : SamplerSlot}
    (hget : program.samplers.get? name = some slot) (textureUnit : UInt32) :
    frame.step state (.setSamplerUniform name textureUnit) =
      state.call (Device.setSamplerUniform slot textureUnit) := by
  simp only [step, hbound, samplerSlot, hget]

/-- A program keeps for a declared uniform the slot of the vertex stage if this stage has the name, or
else that of the fragment stage, and none if the stage takes another type. Every draw that resolves a
value for the uniform submits it there: so the vertex stage is fed wherever it takes the uniform, and
the fragment stage where the vertex stage does not have the name or takes it at the same slot. Likewise
a texture unit goes to the texture of the vertex stage, or to that of the fragment stage if the vertex
stage does not have the name. -/
theorem slots_are_fed [Device State handles] {config : Config} {descriptor : Program}
    {program : CompiledProgram handles} {before after : State}
    (hok : compileProgram config descriptor before = (.ok program, after)) :
    ∃ vertex fragment, program.MadeFrom State config descriptor vertex fragment ∧
      (∀ name type slot, descriptor.uniforms.get? name = some type →
        (program.uniforms.get? name = some ⟨slot, type⟩ ↔
          vertex.interface.TakesUniform name type slot ∨
            vertex.interface.uniforms.get? name = none ∧
              fragment.interface.TakesUniform name type slot)) ∧
      (∀ name type slot, descriptor.uniforms.get? name = some type →
        vertex.interface.TakesUniform name type slot ∨
          fragment.interface.TakesUniform name type slot ∧
            (vertex.interface.uniforms.get? name = none ∨
              vertex.interface.TakesUniform name type slot) →
        ∀ (frame : Frame handles) (scene : Scene handles.Buffer)
          (drawable : Drawable handles.Buffer) (state : FrameState State) (value : Value),
          uniformValue name ⟨slot, type⟩ drawable.object scene frame.policy = .ok value →
          frame.draw program scene state drawable =
            ((⟨program, scene, drawable⟩ : Submission handles).actions frame.policy).foldl
              FrameState.perform state ∧
          .setUniform slot value ∈
            (⟨program, scene, drawable⟩ : Submission handles).actions frame.policy) ∧
      ∀ name texture, (descriptor.textures.get? name).isSome = true →
        vertex.interface.textures.get? name = some texture ∨
          fragment.interface.textures.get? name = some texture ∧
            (vertex.interface.textures.get? name = none ∨
              vertex.interface.textures.get? name = some texture) →
        ∃ sampler, ∀ (frame : Frame handles) (state : FrameState State) (textureUnit : UInt32),
          frame.boundProgram? state.cursor = some program →
          frame.step state (.setSamplerUniform name textureUnit) =
            state.call (Device.setSamplerUniform ⟨texture, sampler⟩ textureUnit) := by
  obtain ⟨vertex, fragment, hmade⟩ := CompiledProgram.exists_madeFrom hok
  refine ⟨vertex, fragment, hmade, ?_, ?_, ?_⟩
  · intro name type slot hdeclared
    rw [hmade.uniforms]
    exact get?_uniformSlots_of_declared hdeclared slot
  · intro name type slot hdeclared htakes frame scene drawable state value hvalue
    have hfirst : vertex.interface.TakesUniform name type slot ∨
        vertex.interface.uniforms.get? name = none ∧
          fragment.interface.TakesUniform name type slot := by
      rcases htakes with hvertex | ⟨hfragment, hnone | hvertex⟩
      · exact .inl hvertex
      · exact .inr ⟨hnone, hfragment⟩
      · exact .inl hvertex
    have hget : program.uniforms.get? name = some ⟨slot, type⟩ := by
      rw [hmade.uniforms]
      exact (get?_uniformSlots_of_declared hdeclared slot).2 hfirst
    refine ⟨Submission.draw_eq_perform frame ⟨program, scene, drawable⟩ state, ?_⟩
    exact Submission.setUniform_mem_actions ⟨program, scene, drawable⟩ hget hvalue
  · intro name texture hdeclared hhas
    have hfirst : ofStages (·.textures.get? name) vertex.interface fragment.interface =
        some texture := by
      rw [ofStages_eq_some_iff]
      rcases hhas with hvertex | ⟨hfragment, hnone | hvertex⟩
      · exact .inl hvertex
      · exact .inr ⟨hnone, hfragment⟩
      · exact .inl hvertex
    have hget : ∃ sampler, program.samplers.get? name = some ⟨texture, sampler⟩ := by
      rw [hmade.samplers]
      exact ⟨_, get?_samplerSlots_eq_some_iff.2 ⟨hdeclared, hfirst, rfl⟩⟩
    obtain ⟨sampler, hsampler⟩ := hget
    exact ⟨sampler, fun frame state textureUnit hbound =>
      Frame.step_setSamplerUniform hbound hsampler textureUnit⟩

/-! ## Two stages with slots of their own -/

namespace Sample

/-- Declares a uniform and a texture at two bindings. -/
def tintBindings (tint diffuse : String) : String :=
  "@group(0)@binding(" ++ tint ++ ")var<uniform>t:vec4f;" ++
  "@group(0)@binding(" ++ diffuse ++ ")var d:texture_2d<f32>;"

/-- The color that both stages give. -/
def tintedBody : String := "\x7breturn t;\x7d"

/-- A program whose stages have the same names at different slots. -/
def tinted : Program where
  uniforms := .ofList [("t", vector)]
  streams := .empty
  textures := .ofList [("d", .texture .float)]
  vertexShader := tintBindings "0" "1" ++ "@vertex fn v()->@builtin(position)vec4f" ++ tintedBody
  geometryShader := none
  fragmentShader := tintBindings "2" "3" ++ "@fragment fn f()->@location(0)vec4f" ++ tintedBody

def tintedPipeline : Pipeline :=
  { pipeline with
    programs := [tinted]
    commands := [.setProgram 0, .setSamplerUniform "d" 5, .renderStream 0] }

/-- A scene that gives the tint. -/
def tintedScene {Handle : Type} : Scene Handle :=
  (⟨.empty, .empty, 8, 8⟩ : Scene Handle).setUniform "t" ones

/-- The calls of a frame; the draw is refused since no target is bound. -/
def tintedCalls : List DeviceCall :=
  [.setShaders 4 5 6, .setSamplerUniform ⟨⟨0, 1⟩, none⟩ 5, .setUniform ⟨0, 0⟩ ones,
    .draw .triangleList 3]

/-- Where a stage has the tint and the texture. -/
def tintedSlots (interface : Interface) : Option UniformInfo × Option ResourceSlot :=
  (interface.uniforms.get? "t", interface.textures.get? "d")

/-- A frame on a recorder, and what both stages expose. -/
theorem recorder_draws_tinted : ∃ compiled ready,
    CompiledPipeline.compile tintedPipeline 8 8 config recorder = (.ok compiled, ready) ∧
    (compiled.render (some tintedScene) ready).2.calls.toList =
      ready.calls.toList ++ tintedCalls ∧
    (Interface.ofSource tinted.vertexShader .vertex config.vertexEntryPoint).toOption.map
      tintedSlots = some (some ⟨⟨0, 0⟩, 16, some vector⟩, some ⟨0, 1⟩) ∧
    (Interface.ofSource tinted.fragmentShader .fragment config.fragmentEntryPoint).toOption.map
      tintedSlots = some (some ⟨⟨0, 2⟩, 16, some vector⟩, some ⟨0, 3⟩) :=
  Attempt.exists_of_yields (by decide +kernel)

end Sample

/-- Both stages take the tint and have the texture, each at slots of its own. A frame that has a value
for the tint submits it to the vertex stage, and the fragment stage gets neither it nor the texture
unit. -/
theorem fragment_stage_starves : ∃ vertex fragment compiled ready,
    Interface.ofSource Sample.tinted.vertexShader .vertex "v" = .ok vertex ∧
    Interface.ofSource Sample.tinted.fragmentShader .fragment "f" = .ok fragment ∧
    vertex.TakesUniform "t" Sample.vector ⟨0, 0⟩ ∧
    fragment.TakesUniform "t" Sample.vector ⟨0, 2⟩ ∧
    vertex.textures.get? "d" = some ⟨0, 1⟩ ∧
    fragment.textures.get? "d" = some ⟨0, 3⟩ ∧
    CompiledPipeline.compile Sample.tintedPipeline 8 8 Sample.config Sample.recorder =
      (.ok compiled, ready) ∧
    ∃ own, (compiled.render (some Sample.tintedScene) ready).2.calls.toList =
        ready.calls.toList ++ own ∧
      .setUniform ⟨0, 0⟩ Sample.ones ∈ own ∧ .draw .triangleList 3 ∈ own ∧
      (∀ value, .setUniform ⟨0, 2⟩ value ∉ own) ∧
      ∀ slot textureUnit, .setSamplerUniform slot textureUnit ∈ own → slot.texture ≠ ⟨0, 3⟩ := by
  obtain ⟨compiled, ready, hcompile, hcalls, hvertex, hfragment⟩ := Sample.recorder_draws_tinted
  obtain ⟨vertex, hvertex, hslots⟩ := Attempt.exists_of_map_toOption hvertex
  obtain ⟨fragment, hfragment, hslots'⟩ := Attempt.exists_of_map_toOption hfragment
  obtain ⟨htint, hdiffuse⟩ := Prod.mk.inj hslots
  obtain ⟨htint', hdiffuse'⟩ := Prod.mk.inj hslots'
  refine ⟨vertex, fragment, compiled, ready, hvertex, hfragment, ⟨_, htint, rfl, rfl⟩,
    ⟨_, htint', rfl, rfl⟩, hdiffuse, hdiffuse', hcompile, Sample.tintedCalls, hcalls, ?_, ?_, ?_, ?_⟩
  · decide
  · decide
  · intro value hmem
    simp [Sample.tintedCalls] at hmem
  · intro slot textureUnit hmem
    simp only [Sample.tintedCalls, List.mem_cons, DeviceCall.setSamplerUniform.injEq, reduceCtorEq,
      false_or, or_false, List.not_mem_nil] at hmem
    rw [hmem.1]
    decide

/-- The tint of a scene is submitted at the slot of the vertex stage, and a texture unit goes to the
texture of this stage. -/
theorem slots_are_fed_tinted : ∃ compiled ready program,
    CompiledPipeline.compile Sample.tintedPipeline 8 8 Sample.config Sample.recorder =
      (.ok compiled, ready) ∧
    program ∈ compiled.resources.programs ∧
    (∀ (frame : Frame Recorder.handles) (drawable : Drawable RecordedBuffer), drawable.object = none →
      .setUniform ⟨0, 0⟩ Sample.ones ∈
        (⟨program, Sample.tintedScene, drawable⟩ : Submission Recorder.handles).actions
          frame.policy) ∧
    ∃ sampler, ∀ (frame : Frame Recorder.handles) (state : FrameState Recorder),
      frame.boundProgram? state.cursor = some program →
      frame.step state (.setSamplerUniform "d" 5) =
        state.call (Device.setSamplerUniform ⟨⟨0, 1⟩, sampler⟩ 5) := by
  obtain ⟨compiled, ready, hcompile, _, hvertex, _⟩ := Sample.recorder_draws_tinted
  obtain ⟨vertex, hvertex, hslots⟩ := Attempt.exists_of_map_toOption hvertex
  obtain ⟨htint, hdiffuse⟩ := Prod.mk.inj hslots
  have hcompiled := CompiledPipeline.isCompiled_of_compile_eq_ok hcompile
  have hprograms : List.Forall₂ (fun descriptor program => ∃ before after : Recorder,
      compileProgram Sample.config descriptor before = (.ok program, after))
      [Sample.tinted] compiled.resources.programs := hcompiled.resources.programs
  obtain ⟨program, _, ⟨before, after, hok⟩, _, hlist⟩ := List.forall₂_cons_left_iff.1 hprograms
  have hmem : program ∈ compiled.resources.programs := by simp [hlist]
  obtain ⟨vertexShader, fragmentShader, hmade, _, huniform, htexture⟩ := slots_are_fed hok
  have hexposed : vertexShader.interface = vertex := by
    obtain ⟨_, _, hshader⟩ := hmade.vertex_compiled
    have hsource := Recorder.ofSource_of_compileShader hshader
    exact Except.ok.inj (hsource.symm.trans hvertex)
  refine ⟨compiled, ready, program, hcompile, hmem, ?_, ?_⟩
  · intro frame drawable hobject
    have hvalue : uniformValue "t" ⟨⟨0, 0⟩, Sample.vector⟩ drawable.object
        (Sample.tintedScene : Scene RecordedBuffer) frame.policy = .ok Sample.ones := by
      rw [hobject]
      rfl
    have htakes : vertexShader.interface.TakesUniform "t" Sample.vector ⟨0, 0⟩ := by
      rw [hexposed]
      exact ⟨_, htint, rfl, rfl⟩
    exact (huniform "t" Sample.vector ⟨0, 0⟩ rfl (.inl htakes) frame Sample.tintedScene drawable
      { device := before } Sample.ones hvalue).2
  · obtain ⟨sampler, hstep⟩ := htexture "d" ⟨0, 1⟩ rfl (.inl (by rw [hexposed, hdiffuse]))
    exact ⟨sampler, fun frame state hbound => hstep frame state 5 hbound⟩

end FramePlan
