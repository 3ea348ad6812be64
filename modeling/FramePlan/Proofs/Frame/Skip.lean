import FramePlan.Proofs.Compiled
import FramePlan.Proofs.Frame.Report
import FramePlan.Sample

/-!
# Skipped commands

A frame skips a command that has nothing to work on. For a compiled pipeline this depends on the
description and the scene alone: whether a target or a program is bound depends on the commands
before, and an index never leads nowhere.

* `Pipeline.skips`: when a command is skipped, given those before it.
* `CompiledPipeline.boundProgram?_eq`, `boundTarget?_eq`: what is bound was bound by the last command
  that binds anything of its kind.
* `skippedCommands_eq_skipCount`: the commands skipped are those, each counted once.
-/

namespace FramePlan

variable {State : Type} {handles : Handles}

def Command.program? : Command → Option Nat
  | .setProgram program => some program
  | _ => none

def Command.target? : Command → Option Nat
  | .setRenderTarget target => some target
  | _ => none

theorem Command.reference?_of_program? {command : Command} {index : Nat}
    (hprogram : command.program? = some index) : command.reference? = some (.program, index) := by
  cases command <;> cases hprogram
  rfl

theorem Command.reference?_of_target? {command : Command} {index : Nat}
    (htarget : command.target? = some index) : command.reference? = some (.target, index) := by
  cases command <;> cases htarget
  rfl

/-- The last program that some commands bind. -/
def lastProgram? (commands : List Command) : Option Nat :=
  (commands.filterMap Command.program?).getLast?

/-- The last target that some commands bind. -/
def lastTarget? (commands : List Command) : Option Nat :=
  (commands.filterMap Command.target?).getLast?

namespace Pipeline

/-- The objects that the scene, if there is one, has for a slot. -/
def group? {Handle : Type} (pipeline : Pipeline) (scene : Option (Scene Handle)) (slot : Nat) :
    Option (List (Object Handle)) := do
  let scene ← scene
  let slot ← pipeline.slots[slot]?
  scene.objects.get? slot.name

/-- Whether a command is skipped, given the commands before it: a clear without a target, a sampler or
a draw without a program, a draw without a scene, or a draw of a slot for which the scene has no
objects. -/
def skips {Handle : Type} (pipeline : Pipeline) (scene : Option (Scene Handle))
    (earlier : List Command) : Command → Bool
  | .clearRenderTarget _ => (lastTarget? earlier).isNone
  | .setSamplerUniform _ _ => (lastProgram? earlier).isNone
  | .renderSlot slot => (lastProgram? earlier).isNone || (pipeline.group? scene slot).isNone
  | .renderStream _ => (lastProgram? earlier).isNone || scene.isNone
  | .setRasterContext _ | .setAccumulationContext _ | .setTexture _ _ | .setProgram _
  | .setRenderTarget _ => false

def skipCount {Handle : Type} (pipeline : Pipeline) (scene : Option (Scene Handle)) : Nat :=
  (withEarlier [] pipeline.commands).countP fun place => pipeline.skips scene place.1 place.2

end Pipeline

theorem Submission.countP_isSkip_actions (policy : UnboundUniformPolicy)
    (submission : Submission handles) :
    (submission.actions policy).countP Action.isSkip = 0 := by
  rw [List.countP_eq_zero]
  intro action hmem
  rcases submission.mem_actions hmem with ⟨_, _, rfl⟩ | ⟨_, rfl, _⟩ | ⟨_, _, rfl⟩ | rfl
  · exact Bool.false_ne_true
  · exact Bool.false_ne_true
  · exact Bool.false_ne_true
  · exact Bool.false_ne_true

namespace Frame

/-- Whether a command finds nothing to work on. -/
def idles (frame : Frame handles) (cursor : Cursor) : Command → Bool
  | .setTexture _ index => (frame.resources.textures[index]?).isNone
  | .setProgram index => (frame.resources.programs[index]?).isNone
  | .setRenderTarget index => (frame.resources.targets[index]?).isNone
  | .clearRenderTarget _ => (frame.boundTarget? cursor).isNone
  | .setSamplerUniform _ _ => (frame.boundProgram? cursor).isNone
  | .renderSlot slot => (frame.submissions? cursor (.renderSlot slot)).isNone
  | .renderStream stream => (frame.submissions? cursor (.renderStream stream)).isNone
  | .setRasterContext _ | .setAccumulationContext _ => false

theorem countP_isSkip_renderActions (frame : Frame handles)
    (submissions : Option (List (Submission handles))) :
    (frame.renderActions submissions).countP Action.isSkip =
      submissions.isNone.toNat := by
  cases submissions with
  | none => rfl
  | some submissions =>
    simp [renderActions, List.countP_flatMap, Function.comp_def,
      Submission.countP_isSkip_actions]

/-- A command is skipped once if it finds nothing to work on, and otherwise not at all. -/
theorem countP_isSkip_actions (frame : Frame handles) (cursor : Cursor) (command : Command) :
    (frame.actions cursor command).countP Action.isSkip =
      (frame.idles cursor command).toNat := by
  cases command with
  | setRasterContext context => rfl
  | setAccumulationContext context => rfl
  | setTexture textureUnit index =>
    simp only [actions, idles]
    cases frame.resources.textures[index]? with
    | none => rfl
    | some texture => rfl
  | setProgram index =>
    simp only [actions, idles]
    cases frame.resources.programs[index]? with
    | none => rfl
    | some program => rfl
  | setRenderTarget index =>
    simp only [actions, idles]
    cases frame.resources.targets[index]? with
    | none => rfl
    | some target =>
      cases frame.viewport? with
      | none => rfl
      | some viewport => rfl
  | clearRenderTarget images =>
    simp only [actions, idles]
    cases frame.boundTarget? cursor with
    | none => rfl
    | some target =>
      apply List.countP_eq_zero.2
      intro action hmem
      obtain ⟨_, _, rfl⟩ | ⟨_, _, _, rfl⟩ := ClearRequest.mem_actions hmem
      · exact Bool.false_ne_true
      · exact Bool.false_ne_true
  | setSamplerUniform name textureUnit =>
    simp only [actions, idles]
    cases frame.boundProgram? cursor with
    | none => rfl
    | some program =>
      dsimp only
      cases samplerSlot name program with
      | error error => rfl
      | ok slot => rfl
  | renderSlot slot => exact countP_isSkip_renderActions frame _
  | renderStream stream => exact countP_isSkip_renderActions frame _

end Frame

namespace CompiledPipeline

variable (compiled : CompiledPipeline handles) (scene : Option (Scene handles.Buffer))

/-- Whether what a command refers to has been compiled. -/
def Reaches (command : Command) : Prop :=
  ∀ kind index, command.reference? = some (kind, index) → index < compiled.count kind

variable {compiled}

theorem advance_program {command : Command} (hreach : compiled.Reaches command) (cursor : Cursor) :
    ((compiled.frame scene).advance cursor command).program =
      command.program?.or cursor.program := by
  cases command with
  | setProgram index =>
    have hindex : index < compiled.resources.programs.length := hreach .program index rfl
    simp [Frame.advance, frame, Command.program?, hindex]
  | setRenderTarget index =>
    simp only [Frame.advance]
    split
    · rfl
    · rfl
  | _ => rfl

theorem advance_target {command : Command} (hreach : compiled.Reaches command) (cursor : Cursor) :
    ((compiled.frame scene).advance cursor command).target =
      command.target?.or cursor.target := by
  cases command with
  | setProgram index =>
    simp only [Frame.advance]
    split
    · rfl
    · rfl
  | setRenderTarget index =>
    have hindex : index < compiled.resources.targets.length := hreach .target index rfl
    simp [Frame.advance, frame, Command.target?, hindex]
  | _ => rfl

variable {commands : List Command} (hreach : ∀ command ∈ commands, compiled.Reaches command)

include hreach

/-- The program that is bound is the last one that a command has bound. -/
theorem boundProgram?_eq :
    (compiled.frame scene).boundProgram? ((compiled.frame scene).cursorAfter commands) =
      (lastProgram? commands).bind fun index => compiled.resources.programs[index]? := by
  have hlast := foldl_eq_getLast? Cursor.program (compiled.frame scene).advance
    (fun cursor command hmem => advance_program scene (hreach command hmem) cursor) {}
  rw [Frame.boundProgram?, Frame.cursorAfter, hlast, Option.or_none]
  rfl

/-- The target that is bound is the last one that a command has bound. -/
theorem boundTarget?_eq :
    (compiled.frame scene).boundTarget? ((compiled.frame scene).cursorAfter commands) =
      (lastTarget? commands).bind fun index => compiled.resources.targets[index]? := by
  have hlast := foldl_eq_getLast? Cursor.target (compiled.frame scene).advance
    (fun cursor command hmem => advance_target scene (hreach command hmem) cursor) {}
  rw [Frame.boundTarget?, Frame.cursorAfter, hlast, Option.or_none]
  rfl

/-- The last index of a kind that commands bind leads somewhere. -/
theorem lt_count_of_getLast? {binds? : Command → Option Nat} {kind : ResourceKind}
    (hbinds : ∀ command index, binds? command = some index →
      command.reference? = some (kind, index))
    {index : Nat} (hlast : (commands.filterMap binds?).getLast? = some index) :
    index < compiled.count kind := by
  obtain ⟨command, hmem, hindex⟩ := List.mem_filterMap.1 (List.mem_of_getLast? hlast)
  exact hreach command hmem kind index (hbinds command index hindex)

theorem isNone_boundProgram? :
    ((compiled.frame scene).boundProgram? ((compiled.frame scene).cursorAfter commands)).isNone =
      (lastProgram? commands).isNone := by
  rw [boundProgram?_eq scene hreach]
  cases hlast : lastProgram? commands with
  | none => rfl
  | some index =>
    have hindex : index < compiled.resources.programs.length :=
      lt_count_of_getLast? hreach (fun _ _ => Command.reference?_of_program?) hlast
    simp [hindex]

theorem isNone_boundTarget? :
    ((compiled.frame scene).boundTarget? ((compiled.frame scene).cursorAfter commands)).isNone =
      (lastTarget? commands).isNone := by
  rw [boundTarget?_eq scene hreach]
  cases hlast : lastTarget? commands with
  | none => rfl
  | some index =>
    have hindex : index < compiled.resources.targets.length :=
      lt_count_of_getLast? hreach (fun _ _ => Command.reference?_of_target?) hlast
    simp [hindex]

/-- A command finds nothing to work on just when `Pipeline.skips` holds of it. -/
theorem idles_eq_skips {command : Command} (hcommand : compiled.Reaches command) :
    (compiled.frame scene).idles ((compiled.frame scene).cursorAfter commands) command =
      compiled.description.skips scene commands command := by
  have hprogram := isNone_boundProgram? scene hreach
  cases command with
  | setRasterContext context => rfl
  | setAccumulationContext context => rfl
  | setTexture textureUnit index =>
    have hindex : index < compiled.resources.textures.length := hcommand .texture index rfl
    simp [Frame.idles, Pipeline.skips, frame, hindex]
  | setProgram index =>
    have hindex : index < compiled.resources.programs.length := hcommand .program index rfl
    simp [Frame.idles, Pipeline.skips, frame, hindex]
  | setRenderTarget index =>
    have hindex : index < compiled.resources.targets.length := hcommand .target index rfl
    simp [Frame.idles, Pipeline.skips, frame, hindex]
  | clearRenderTarget images => exact isNone_boundTarget? scene hreach
  | setSamplerUniform name textureUnit => exact hprogram
  | renderSlot slot =>
    simp only [Frame.idles, Pipeline.skips, ← hprogram, Frame.submissions?, Pipeline.group?]
    cases (compiled.frame scene).boundProgram? _ with
    | none => rfl
    | some program =>
      cases scene with
      | none => rfl
      | some scene =>
        simp only [frame, Option.isNone_map]
        rfl
  | renderStream stream =>
    have hindex : stream < compiled.resources.streams.length := hcommand .stream stream rfl
    simp only [Frame.idles, Pipeline.skips, ← hprogram, Frame.submissions?]
    cases (compiled.frame scene).boundProgram? _ with
    | none => rfl
    | some program =>
      cases scene with
      | none => rfl
      | some scene => simp [frame, hindex]

end CompiledPipeline

/-- A compiled pipeline, on whatever device, reaches everything that its commands refer to. In a frame a
command is skipped, once, just when `Pipeline.skips` holds of it, and the report counts these commands.
-/
theorem skippedCommands_eq_skipCount [Device State handles] {pipeline : Pipeline}
    {width height : UInt32} {config : Config} {before after : State}
    {compiled : CompiledPipeline handles}
    (hcompile : CompiledPipeline.compile pipeline width height config before =
      (.ok compiled, after))
    (scene : Option (Scene handles.Buffer)) (device : State) :
    (∀ command ∈ pipeline.commands, ∀ kind index, command.reference? = some (kind, index) →
      index < compiled.count kind) ∧
    (∀ earlier command later, pipeline.commands = earlier ++ command :: later →
      (((compiled.frame scene).step ((compiled.frame scene).run earlier device)
          command).report.skippedCommands =
        ((compiled.frame scene).run earlier device).report.skippedCommands +
          (pipeline.skips scene earlier command).toNat)) ∧
    (compiled.render scene device).1.skippedCommands = pipeline.skipCount scene := by
  have hcompiled := CompiledPipeline.isCompiled_of_compile_eq_ok hcompile
  have hreach : ∀ command ∈ pipeline.commands, compiled.Reaches command :=
    fun command hmem kind index hreference => hcompiled.index_lt hmem hreference
  have hskips : ∀ earlier command later, pipeline.commands = earlier ++ command :: later →
      (compiled.frame scene).idles ((compiled.frame scene).cursorAfter earlier) command =
        pipeline.skips scene earlier command := by
    intro earlier command later hcommands
    have hearlier : ∀ other ∈ earlier, compiled.Reaches other := fun other hother =>
      hreach other (hcommands ▸ List.mem_append_left _ hother)
    have hcommand : compiled.Reaches command := hreach command (by simp [hcommands])
    rw [CompiledPipeline.idles_eq_skips scene hearlier hcommand, hcompiled.description]
  refine ⟨hreach, ?_, ?_⟩
  · intro earlier command later hcommands
    rw [Frame.step_eq_perform, Frame.run_eq_perform]
    dsimp only
    rw [FrameState.foldl_perform_withCursor]
    dsimp only
    rw [foldl_perform_skippedCommands, Frame.countP_isSkip_actions,
      hskips earlier command later hcommands]
  · rw [CompiledPipeline.skippedCommands_render, CompiledPipeline.plan, hcompiled.description]
    apply countP_flatMap_eq_countP
    intro place hplace
    obtain ⟨later, hlater⟩ := exists_append_of_mem_withEarlier hplace
    rw [Frame.countP_isSkip_actions, hskips place.1 place.2 later hlater]

/-! ## A pipeline with commands of every kind -/

namespace Sample

/-- The sample is compiled by a recorder, which then renders it. -/
theorem recorder_compiles : ∃ compiled ready,
    CompiledPipeline.compile pipeline 8 8 config recorder = (.ok compiled, ready) ∧
    (compiled.render (some (scene recordedBuffer)) ready).1 = report ∧
    (compiled.render (some (scene recordedBuffer)) ready).2.calls.toList =
      ready.calls.toList ++ (callsBeforeDraw ++ [.draw .triangleList 3]) :=
  Attempt.exists_of_yields (by decide +kernel)

end Sample

/-- Four commands of the sample come too early or draw a slot without objects. Without a scene every
command that draws is skipped. -/
theorem skippedCommands_sample : ∃ compiled after,
    CompiledPipeline.compile Sample.pipeline 8 8 Sample.config Sample.recorder =
      (.ok compiled, after) ∧
    (compiled.render (some (Sample.scene Sample.recordedBuffer)) after).1.skippedCommands = 4 ∧
    (compiled.render none after).1.skippedCommands = 8 := by
  obtain ⟨compiled, after, hcompile, _⟩ := Sample.recorder_compiles
  refine ⟨compiled, after, hcompile, ?_, ?_⟩
  · exact (skippedCommands_eq_skipCount hcompile (some (Sample.scene Sample.recordedBuffer)) after).2.2.trans
      (by decide)
  · exact (skippedCommands_eq_skipCount hcompile none after).2.2.trans (by decide)

end FramePlan
