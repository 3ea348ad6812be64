import FramePlan.Proofs.Device.InputLayout
import FramePlan.Proofs.Frame.Log
import FramePlan.Proofs.Frame.Origin
import FramePlan.Proofs.Frame.Skip

/-!
# What a frame sets suits the program

Slot maps are made when a program is compiled, values and streams are looked up when it is drawn with,
and which program that is depends on the commands before. All the same a frame sets nothing that the
stages of the bound program do not take there: a stream has the location and the format of an attribute
of the layout, a value has the type of the uniform at its slot, and a texture unit goes to a texture.

* `Action.Suits`: what an action sets is what the stages of a program take.
* `CompiledProgram.MadeFrom.suits_of_offers`: what a program offers is of this kind.
* `frame_suits_programs`: so is everything that a frame sets.
-/

namespace FramePlan

open Shader (Interface InputInfo CompiledStage)

variable {State : Type} {handles : Handles}

/-- What an action sets is what the stages of a program take. A stream has the location and the format
of an attribute of the layout. A value has the type that the program declares for a uniform, and goes to
the slot of this uniform in the vertex stage, or in the fragment stage if the vertex stage does not
expose the name; there it is taken as the type as which it is written. A texture unit goes to a texture
that one of the stages exposes. -/
def Action.Suits (descriptor : Program) (vertex fragment : Interface) : Action handles → Prop
  | .setVertexStream location binding => ∃ listed ∈ inputAttributes vertex,
    listed.location = location ∧ listed.format = binding.format
  | .setUniform slot value => ∃ name info,
    descriptor.uniforms.get? name = some value.inputType ∧
      (vertex.uniforms.get? name = some info ∨
        vertex.uniforms.get? name = none ∧ fragment.uniforms.get? name = some info) ∧
      info.slot = slot ∧ info.type = some value.inputType.written
  | .setSamplerUniform slot _ => ∃ name, (descriptor.textures.get? name).isSome = true ∧
    (vertex.textures.get? name = some slot.texture ∨
      fragment.textures.get? name = some slot.texture)
  | _ => True

section Made

variable [Device State handles] {config : Config} {descriptor : Program}
  {vertex fragment : CompiledShader handles.Shader} {program : CompiledProgram handles}

theorem CompiledProgram.MadeFrom.suits_of_offers
    (hmade : program.MadeFrom State config descriptor vertex fragment) {action : Action handles}
    (hoffers : program.Offers action) :
    action.Suits descriptor vertex.interface fragment.interface := by
  cases action with
  | setUniform slot value =>
    obtain ⟨⟨name, found⟩, hentry, hslot, htype⟩ := hoffers
    rw [hmade.uniforms, ← Table.get?_eq_some_iff, get?_uniformSlots_eq_some_iff] at hentry
    obtain ⟨hdeclared, info, hinfo, hplace, hwritten⟩ := hentry
    have hsame : found.type = value.inputType := htype
    rw [hsame] at hdeclared hwritten
    exact ⟨name, info, hdeclared, ofStages_eq_some_iff.1 hinfo, hplace.trans hslot, hwritten⟩
  | setVertexStream location binding =>
    obtain ⟨⟨name, slot⟩, hentry, rfl, hformat⟩ := hoffers
    rw [hmade.streams, ← Table.get?_eq_some_iff, get?_streamSlots_eq_some_iff] at hentry
    obtain ⟨_, format, hinput, hdeclared⟩ := hentry
    have hsame : format = binding.format := Option.some.inj (hdeclared.symm.trans hformat)
    exact ⟨⟨name, slot.location, format⟩, mem_inputAttributes.2 hinput, rfl, hsame⟩
  | setSamplerUniform slot textureUnit =>
    obtain ⟨⟨name, found⟩, hentry, rfl⟩ := hoffers
    rw [hmade.samplers, ← Table.get?_eq_some_iff, get?_samplerSlots_eq_some_iff] at hentry
    obtain ⟨hdeclared, htexture, _⟩ := hentry
    refine ⟨name, hdeclared, ?_⟩
    rcases ofStages_eq_some_iff.1 htexture with hvertex | ⟨_, hfragment⟩
    · exact .inl hvertex
    · exact .inr hfragment
  | _ => trivial

theorem CompiledProgram.MadeFrom.nodup_locations [Device.Reflects State]
    (hmade : program.MadeFrom State config descriptor vertex fragment) :
    (program.streams.values.map StreamSlot.location).Nodup := by
  obtain ⟨_, _, hvertex⟩ := hmade.vertex_compiled
  obtain ⟨stage, hstage, hinterface⟩ := Device.Reflects.exists_stage hvertex
  rw [hmade.streams, hinterface]
  apply nodup_location_streamSlots
  intro name other info otherInfo hget hother
  exact CompiledStage.name_eq_of_location_eq hstage hget hother

end Made

namespace Frame

theorem programOf?_eq_none {frame : Frame handles} {cursor : Cursor} {command : Command}
    {action : Action handles} (hmem : action ∈ frame.actions cursor command)
    (hfeeds : action.feedsProgram = true) : frame.programOf? command = none := by
  cases command with
  | setProgram index =>
    simp only [actions] at hmem
    split at hmem <;>
    · cases List.mem_singleton.1 hmem
      cases hfeeds
  | _ => rfl

/-- What a plan sets is offered by the program that its shaders come from, and this program is the one
that earlier commands have bound. -/
theorem offers_of_plan_eq {frame : Frame handles} {commands : List Command}
    {before after : List (Action handles)} {action : Action handles}
    (hplan : frame.plan commands = before ++ action :: after)
    (hfeeds : action.feedsProgram = true) :
    ∃ earlier command later inside program, commands = earlier ++ command :: later ∧
      before = frame.plan earlier ++ inside ∧
      frame.boundProgram? (frame.cursorAfter earlier) = some program ∧
      (before.filterMap Action.shaders?).getLast? = some program.shaders ∧
      program.Offers action := by
  obtain ⟨earlier, command, later, inside, rest, hcommands, hactions, rfl⟩ :=
    exists_of_plan_eq hplan
  have hmem : action ∈ frame.actions (frame.cursorAfter earlier) command := by simp [hactions]
  obtain ⟨program, hbound, hoffers⟩ := offers_of_mem_actions hmem hfeeds
  -- the command itself binds no shaders, so those of the earlier commands stay bound
  have hshaders := frame.filterMap_shaders?_actions (frame.cursorAfter earlier) command
  rw [programOf?_eq_none hmem hfeeds, hactions, List.filterMap_append] at hshaders
  have hinside : inside.filterMap Action.shaders? = [] := (List.append_eq_nil_iff.1 hshaders).1
  refine ⟨earlier, command, later, inside, program, hcommands, rfl, hbound, ?_, hoffers⟩
  rw [List.filterMap_append, hinside, List.append_nil, getLast?_shaders?_plan, hbound]
  rfl

end Frame

namespace CompiledPipeline

variable {compiled : CompiledPipeline handles} {scene : Option (Scene handles.Buffer)}

/-- What a frame submits is drawn with a program of the pipeline. -/
theorem exists_program_of_mem_submissions {submission : Submission handles}
    (hmem : submission ∈ compiled.submissions scene) :
    ∃ index : Nat, compiled.resources.programs[index]? = some submission.program := by
  obtain ⟨_, _, _, hsome, hmade⟩ := Frame.mem_submissions_iff.1 hmem
  obtain ⟨index, _, hprogram⟩ :=
    Option.bind_eq_some_iff.1 (Frame.of_mem_submissions? hsome hmade).1
  exact ⟨index, hprogram⟩

theorem IsCompiled.nodup_locations [Device State handles] [Device.Reflects State]
    {pipeline : Pipeline} {config : Config} (hcompiled : compiled.IsCompiled State pipeline config)
    {submission : Submission handles} (hmem : submission ∈ compiled.submissions scene)
    (policy : UnboundUniformPolicy) :
    ((submission.actions policy).filterMap Action.location?).Nodup := by
  obtain ⟨index, hprogram⟩ := exists_program_of_mem_submissions hmem
  obtain ⟨descriptor, vertex, fragment, _, hmade⟩ := hcompiled.exists_madeFrom hprogram
  have hnodup := hmade.nodup_locations
  obtain ⟨rest, hlocations⟩ := submission.exists_filterMap_location?_actions policy
  rw [hlocations] at hnodup
  exact hnodup.of_append_left

end CompiledPipeline

/-- A frame of a compiled pipeline performs its plan, whatever the state of the device. Whenever
the plan sets a uniform, a stream or a texture unit, a program of the pipeline is bound, the last one
that earlier commands have asked for, and what is set suits its stages. Streams are bound for drawables
only, and no location is bound twice for one of them. -/
theorem frame_suits_programs [Device State handles] [Device.Reflects State] {pipeline : Pipeline}
    {width height : UInt32} {config : Config} {start ready : State}
    {compiled : CompiledPipeline handles}
    (hcompile : CompiledPipeline.compile pipeline width height config start =
      (.ok compiled, ready))
    (scene : Option (Scene handles.Buffer)) (device : State) :
    (compiled.render scene device).2 =
      (compiled.plan scene).foldl (fun device action => action.apply device) device ∧
    (∀ before action after, compiled.plan scene = before ++ action :: after →
      action.feedsProgram = true →
      ∃ earlier command later inside, pipeline.commands = earlier ++ command :: later ∧
        before = (compiled.frame scene).plan earlier ++ inside ∧
        ∃ index descriptor program vertex fragment, lastProgram? earlier = some index ∧
          pipeline.programs[index]? = some descriptor ∧
          compiled.resources.programs[index]? = some program ∧
          (before.filterMap Action.shaders?).getLast? = some program.shaders ∧
          program.MadeFrom State config descriptor vertex fragment ∧
          action.Suits descriptor vertex.interface fragment.interface) ∧
    (compiled.plan scene).filterMap Action.location? =
      (compiled.submissions scene).flatMap (fun submission =>
        (submission.actions config.unboundUniforms).filterMap Action.location?) ∧
    ∀ submission ∈ compiled.submissions scene,
      ((submission.actions config.unboundUniforms).filterMap Action.location?).Nodup := by
  have hcompiled := CompiledPipeline.isCompiled_of_compile_eq_ok hcompile
  refine ⟨compiled.render_device scene device, ?_, ?_, ?_⟩
  · intro before action after hplan hfeeds
    obtain ⟨earlier, command, later, inside, program, hcommands, hbefore, hbound, hshaders, hoffers⟩ :=
      Frame.offers_of_plan_eq hplan hfeeds
    rw [hcompiled.description] at hcommands
    have hreach : ∀ other ∈ earlier, compiled.Reaches other := fun other hother kind index =>
      hcompiled.index_lt (hcommands ▸ List.mem_append_left _ hother)
    rw [CompiledPipeline.boundProgram?_eq scene hreach] at hbound
    obtain ⟨index, hlast, hprogram⟩ := Option.bind_eq_some_iff.1 hbound
    obtain ⟨descriptor, vertex, fragment, hdescriptor, hmade⟩ := hcompiled.exists_madeFrom hprogram
    exact ⟨earlier, command, later, inside, hcommands, hbefore, index, descriptor, program, vertex,
      fragment, hlast, hdescriptor, hprogram, hshaders, hmade, hmade.suits_of_offers hoffers⟩
  · have hpolicy : (compiled.frame scene).policy = config.unboundUniforms := by
      rw [← hcompiled.config]
      rfl
    rw [← hpolicy]
    exact (compiled.frame scene).filterMap_location?_plan _
  · intro submission hmem
    exact hcompiled.nodup_locations hmem _

/-- The last stream that the sample binds feeds an attribute of its only program. -/
theorem frame_suits_programs_sample : ∃ compiled ready,
    CompiledPipeline.compile Sample.pipeline 8 8 Sample.config Sample.recorder =
      (.ok compiled, ready) ∧
    ∃ (before : List (Action Recorder.handles)) (action : Action Recorder.handles)
      (after : List (Action Recorder.handles)) (vertex fragment : CompiledShader RecordedShader)
      (program : CompiledProgram Recorder.handles),
      compiled.plan (some (Sample.scene Sample.recordedBuffer)) = before ++ action :: after ∧
      action.call? = some (.setVertexStream 0 7 0 ⟨.float, .four⟩ .perVertex) ∧
      program.MadeFrom Recorder Sample.config Sample.program vertex fragment ∧
      (before.filterMap Action.shaders?).getLast? = some program.shaders ∧
      action.Suits Sample.program vertex.interface fragment.interface := by
  obtain ⟨compiled, ready, hcompile, _, hcalls⟩ := Sample.recorder_compiles
  have hsplit : compiled.calls (some (Sample.scene Sample.recordedBuffer)) =
      Sample.callsBeforeDraw.dropLast ++
        .setVertexStream 0 7 0 ⟨.float, .four⟩ .perVertex :: [.draw .triangleList 3] := by
    rw [compiled.calls_render, List.append_cancel_left_eq] at hcalls
    exact hcalls
  obtain ⟨before, action, after, hplan, _, hcall⟩ := exists_of_filterMap_eq hsplit
  have hfeeds : action.feedsProgram = true := by
    cases action with
    | setVertexStream location binding => rfl
    | _ => cases hcall
  obtain ⟨_, _, _, _, _, _, index, descriptor, program, vertex, fragment, _, hdescriptor, _,
    hshaders, hmade, hsuits⟩ := (frame_suits_programs hcompile
      (some (Sample.scene Sample.recordedBuffer)) ready).2.1 before action after hplan hfeeds
  have honly : descriptor = Sample.program := by
    cases index with
    | zero => exact (Option.some.inj hdescriptor).symm
    | succ index => cases hdescriptor
  rw [honly] at hmade hsuits
  exact ⟨compiled, ready, hcompile, before, action, after, vertex, fragment, program, hplan, hcall,
    hmade, hshaders, hsuits⟩

end FramePlan
