import FramePlan.Proofs.Frame.Log
import FramePlan.Proofs.Frame.Standing

/-!
# Frames that replay

A frame records the same calls whatever has happened before on the recorder, and skips and misses the
same names. Only the answers to its draws can differ. They never ask for shaders, which the frame has
bound itself, so they are up to the target; and a frame that binds a target before it draws settles that
too.

* `foldl_perform_report_eq`: equal answers make equal reports.
* `Frame.answer?_of_turn`: what a recorder answers to a draw of a frame.
* `frames_replay`: one frame on two recorders.
-/

namespace FramePlan

variable {State : Type} {handles : Handles}

def Command.draws : Command → Bool
  | .renderSlot _ | .renderStream _ => true
  | _ => false

section Answers

variable [Device State handles]

/-- What is reported of actions differs only where an answer does. -/
theorem foldl_perform_report_eq {actions : List (Action handles)} {first second : FrameState State}
    (hreport : first.report = second.report)
    (hanswers : ∀ before action after, actions = before ++ action :: after →
      action.answer? (before.foldl (fun device action => action.apply device) first.device) =
        action.answer? (before.foldl (fun device action => action.apply device) second.device)) :
    (actions.foldl FrameState.perform first).report =
      (actions.foldl FrameState.perform second).report := by
  induction actions generalizing first second with
  | nil => exact hreport
  | cons action rest ih =>
    apply ih
    · have hanswer : action.answer? first.device = action.answer? second.device :=
        hanswers [] action rest rfl
      simp only [FrameState.perform, hreport, hanswer]
    · intro before other after hrest
      exact hanswers (action :: before) other after (congrArg (action :: ·) hrest)

/-- Every answer is one to an action, given after those before it. -/
theorem exists_of_mem_answers {actions : List (Action handles)} {device : State}
    {answer : Except DeviceError Unit} (hmem : answer ∈ answers actions device) :
    ∃ before action after, actions = before ++ action :: after ∧
      action.answer? (before.foldl (fun device action => action.apply device) device) =
        some answer := by
  induction actions generalizing device with
  | nil => cases hmem
  | cons action rest ih =>
    rcases List.mem_append.1 hmem with hown | hlater
    · exact ⟨[], action, rest, rfl, Option.mem_toList.1 hown⟩
    · obtain ⟨before, other, after, rfl, hanswer⟩ := ih hlater
      exact ⟨action :: before, other, after, rfl, hanswer⟩

end Answers

namespace Recorder

/-- A recorder with shaders refuses a draw for the target only. -/
theorem draw_of_shadersBound {recorder : Recorder} (hshaders : recorder.shadersBound = true)
    (primitive : Primitive) (vertexCount : UInt32) :
    (draw primitive vertexCount recorder).1 =
      if recorder.targetsBound then .ok () else .error (.incompleteState .renderTarget) := by
  rw [draw, missingState?, hshaders]
  cases recorder.targetsBound with
  | false => rfl
  | true => rfl

end Recorder

namespace Frame

/-- What commands that bind a target leave bound is up to them alone. -/
theorem exists_bindsTarget?_plan (frame : Frame handles) {commands : List Command}
    {index : Nat} (hmem : .setRenderTarget index ∈ commands)
    (hindex : index < frame.resources.targets.length) :
    ∃ bound ∈ frame.plan commands, bound.bindsTarget?.isSome = true := by
  have htarget : (frame.resources.targets[index]).hasView ∈
      (frame.plan commands).filterMap Action.bindsTarget? := by
    rw [filterMap_bindsTarget?_plan]
    refine List.mem_map_of_mem (List.mem_filterMap.2 ⟨_, hmem, ?_⟩)
    exact List.getElem?_eq_getElem hindex
  obtain ⟨action, haction, hbinds⟩ := List.mem_filterMap.1 htarget
  exact ⟨action, haction, by rw [hbinds]; rfl⟩

variable {frame : Frame Recorder.handles} {commands : List Command}
  {before after : List (Action Recorder.handles)} {draw : Action Recorder.handles}

/-- The answer of a recorder to a draw of a frame depends on the last action before it that binds a
target or none, and without one as the target that was bound when the frame began. -/
theorem answer?_of_turn (hplan : frame.plan commands = before ++ draw :: after)
    (hdraw : draw.isDraw = true) (recorder : Recorder) :
    draw.answer? (before.foldl (fun device action => action.apply device) recorder) =
      some (if (before.filterMap Action.bindsTarget?).getLast?.getD recorder.targetsBound then .ok ()
        else .error (.incompleteState .renderTarget)) := by
  have hshaders : (before.foldl (fun device action => action.apply device)
      recorder).shadersBound = true := by
    refine (hasShaders_foldl_apply before recorder).trans ?_
    rw [any_bindsShaders_of_turn hplan hdraw, Bool.true_or]
  have htarget : (before.foldl (fun device action => action.apply device)
      recorder).targetsBound =
        (before.filterMap Action.bindsTarget?).getLast?.getD recorder.targetsBound :=
    hasTarget_foldl_apply before recorder
  cases draw with
  | draw primitive vertexCount =>
    rw [← htarget]
    exact congrArg some (Recorder.draw_of_shadersBound hshaders primitive vertexCount)
  | _ => cases hdraw

/-- Once a target is bound, a draw is answered alike on all recorders. -/
theorem answer?_eq_of_turn (hplan : frame.plan commands = before ++ draw :: after)
    (hdraw : draw.isDraw = true) {bound : Action Recorder.handles} (hmem : bound ∈ before)
    (hbinds : bound.bindsTarget?.isSome = true) (first second : Recorder) :
    draw.answer? (before.foldl (fun device action => action.apply device) first) =
      draw.answer? (before.foldl (fun device action => action.apply device) second) := by
  rw [answer?_of_turn hplan hdraw, answer?_of_turn hplan hdraw]
  obtain ⟨view, hview⟩ := Option.isSome_iff_exists.1 hbinds
  have hlast : (before.filterMap Action.bindsTarget?).getLast?.isSome = true :=
    List.getLast?_isSome.2 (List.ne_nil_of_mem (List.mem_filterMap.2 ⟨bound, hmem, hview⟩))
  obtain ⟨last, hlast⟩ := Option.isSome_iff_exists.1 hlast
  rw [hlast]
  rfl

/-- No draw of a frame is refused for missing shaders. -/
theorem shaders_notMem_answers (frame : Frame Recorder.handles) (commands : List Command)
    (recorder : Recorder) :
    .error (.incompleteState .shaders) ∉ answers (frame.plan commands) recorder := by
  intro hmem
  obtain ⟨before, action, after, hplan, hanswer⟩ := exists_of_mem_answers hmem
  cases hdraw : action.isDraw with
  | true =>
    rw [answer?_of_turn hplan hdraw] at hanswer
    split at hanswer
    · cases hanswer
    · cases hanswer
  | false =>
    cases action with
    | draw primitive vertexCount => cases hdraw
    | _ => cases hanswer

/-- A command that submits something draws. -/
theorem draws_of_mem_submissions? {frame : Frame handles} {cursor : Cursor} {command : Command}
    {submissions : List (Submission handles)}
    (hsome : frame.submissions? cursor command = some submissions)
    {submission : Submission handles} (hmem : submission ∈ submissions) :
    command.draws = true := by
  cases command with
  | renderSlot slot => rfl
  | renderStream stream => rfl
  | _ =>
    cases hsome
    cases hmem

end Frame

/-- Whatever has happened before on two recorders, a frame records the same calls on both. It skips as
many commands on both, and reports the same names in the same order. No draw of it is ever refused for
lack of shaders. If every command that draws comes after one that binds a target, both report the same
in full. -/
theorem frames_replay {pipeline : Pipeline} {width height : UInt32} {config : Config}
    {before after : Recorder} {compiled : CompiledPipeline Recorder.handles}
    (hcompile : CompiledPipeline.compile pipeline width height config before =
      (.ok compiled, after))
    (scene : Option (Scene RecordedBuffer)) (first second : Recorder) :
    (∃ calls,
      (compiled.render scene first).2.calls.toList = first.calls.toList ++ calls ∧
      (compiled.render scene second).2.calls.toList = second.calls.toList ++ calls) ∧
    (compiled.render scene first).1.skippedCommands =
      (compiled.render scene second).1.skippedCommands ∧
    (compiled.render scene first).1.bindingErrors =
      (compiled.render scene second).1.bindingErrors ∧
    .device (.incompleteState .shaders) ∉ (compiled.render scene first).1.errors ∧
    ((∀ earlier command later, pipeline.commands = earlier ++ command :: later →
        command.draws = true → ∃ index, .setRenderTarget index ∈ earlier) →
      (compiled.render scene first).1 = (compiled.render scene second).1) := by
  have hcompiled := CompiledPipeline.isCompiled_of_compile_eq_ok hcompile
  refine ⟨⟨compiled.calls scene, compiled.calls_render scene first,
    compiled.calls_render scene second⟩, ?_, ?_, ?_, ?_⟩
  · rw [compiled.skippedCommands_render, compiled.skippedCommands_render]
  · rw [compiled.bindingErrors_render, compiled.bindingErrors_render]
  · intro hmem
    have herror := FrameReport.mem_deviceErrors.2 hmem
    rw [compiled.deviceErrors_render] at herror
    obtain ⟨answer, hanswer, hrefused⟩ := List.mem_filterMap.1 herror
    cases answer with
    | ok _ => cases hrefused
    | error error =>
      cases hrefused
      exact Frame.shaders_notMem_answers _ _ first hanswer
  · intro htargets
    rw [compiled.render_report, compiled.render_report]
    refine foldl_perform_report_eq rfl fun early action late hplan => ?_
    cases hdraw : action.isDraw with
    | false => rw [Action.answer?_eq_none hdraw, Action.answer?_eq_none hdraw]
    | true =>
      -- the target is bound by a command before the one that draws
      obtain ⟨earlier, command, later, passed, submission, rest, hcommands, hsome, hearly, _, _⟩ :=
        Frame.exists_turn hplan hdraw
      rw [hcompiled.description] at hcommands
      obtain ⟨index, hindex⟩ := htargets earlier command later hcommands
        (Frame.draws_of_mem_submissions? hsome (List.mem_append_cons_self))
      have hcommand : .setRenderTarget index ∈ pipeline.commands := by
        rw [hcommands]
        exact List.mem_append_left _ hindex
      have hreached : index < compiled.count .target := hcompiled.index_lt hcommand rfl
      obtain ⟨bound, hbound, hbinds⟩ :=
        (compiled.frame scene).exists_bindsTarget?_plan hindex hreached
      have hmem : bound ∈ early := by
        rw [hearly]
        exact List.mem_append_left _ (List.mem_append_left _ hbound)
      exact Frame.answer?_eq_of_turn hplan hdraw hmem hbinds first second

namespace Sample

/-- The sample, binding its target before it draws its stream data. -/
def targetFirst : Pipeline :=
  { pipeline with commands := [.setRenderTarget 0, .setProgram 0, .renderStream 0] }

theorem recorder_draws_on_target : ∃ compiled ready,
    CompiledPipeline.compile targetFirst 8 8 config recorder = (.ok compiled, ready) ∧
    (compiled.render (some (scene recordedBuffer)) ready).1 = { drawCalls := 1 } :=
  Attempt.exists_of_yields (by decide +kernel)

end Sample

/-- The sample reports the same on a recorder that has drawn before as on one that has not. -/
theorem frames_replay_targetFirst : ∃ compiled ready,
    CompiledPipeline.compile Sample.targetFirst 8 8 Sample.config Sample.recorder =
      (.ok compiled, ready) ∧
    (∀ earlier command later, Sample.targetFirst.commands = earlier ++ command :: later →
      command.draws = true → ∃ index, .setRenderTarget index ∈ earlier) ∧
    (compiled.render (some (Sample.scene Sample.recordedBuffer))
      (compiled.render (some (Sample.scene Sample.recordedBuffer)) ready).2).1 =
        { drawCalls := 1 } := by
  obtain ⟨compiled, ready, hcompile, hreport⟩ := Sample.recorder_draws_on_target
  have htargets : ∀ earlier command later,
      Sample.targetFirst.commands = earlier ++ command :: later →
        command.draws = true → ∃ index, .setRenderTarget index ∈ earlier := by
    intro earlier command later hcommands hdraws
    cases earlier with
    | nil =>
      cases hcommands
      cases hdraws
    | cons head rest =>
      obtain ⟨rfl, _⟩ := List.cons.inj hcommands
      exact ⟨0, List.mem_cons_self⟩
  have hreplay := frames_replay hcompile (some (Sample.scene Sample.recordedBuffer))
    (compiled.render (some (Sample.scene Sample.recordedBuffer)) ready).2 ready
  exact ⟨compiled, ready, hcompile, htargets, (hreplay.2.2.2.2 htargets).trans hreport⟩

end FramePlan
