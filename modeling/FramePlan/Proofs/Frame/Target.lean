import FramePlan.Proofs.Frame.Skip
import FramePlan.Proofs.Frame.Standing

/-!
# Draws before a target

What a frame draws before it binds a target goes to the target that earlier frames left bound. Where they
left none, it is refused: the frame counts no draw for it, and reports every drawable that it has the
streams for.

* `hasTarget_renderHistory`: the target that frames leave bound.
* `Frame.getLast?_targets?_early`: the target of a draw that comes before the targets of its frame.
* `Frame.answers_actions_untargeted`: what a command draws without a target.
* `early_draws_need_standing_target`: draws before the first target of a frame.
-/

namespace FramePlan

variable {State : Type} {handles : Handles}

open Device (Retains)

/-- The targets that a frame binds, in order. -/
def CompiledPipeline.boundTargets (compiled : CompiledPipeline handles) :
    List (CompiledTarget handles) :=
  compiled.description.commands.filterMap compiled.resources.targetOf?

/-- The target that frames have bound last. -/
def standingTarget? (history : List (CompiledPipeline handles × Option (Scene handles.Buffer))) :
    Option (CompiledTarget handles) :=
  (history.flatMap (·.1.boundTargets)).getLast?

/-- Whether frames leave a target bound on a device that had one or not. -/
def leavesTarget (history : List (CompiledPipeline handles × Option (Scene handles.Buffer)))
    (initially : Bool) : Bool :=
  ((standingTarget? history).map CompiledTarget.hasView).getD initially

/-- The actions of frames, one after the other. -/
def historyPlan (history : List (CompiledPipeline handles × Option (Scene handles.Buffer))) :
    List (Action handles) :=
  history.flatMap fun frame => frame.1.plan frame.2

/-- Frames bind the targets of their commands. -/
theorem filterMap_targets?_historyPlan
    (history : List (CompiledPipeline handles × Option (Scene handles.Buffer))) :
    (historyPlan history).filterMap Action.targets? =
      (history.flatMap (·.1.boundTargets)).map CompiledTarget.views := by
  have hframe : ∀ frame ∈ history,
      (frame.1.plan frame.2).filterMap Action.targets? =
        frame.1.boundTargets.map CompiledTarget.views := fun frame _ =>
    (frame.1.frame frame.2).filterMap_targets?_plan frame.1.description.commands
  rw [historyPlan, List.filterMap_flatMap, List.map_flatMap]
  exact List.flatMap_congr hframe

theorem Resources.filterMap_targetOf?_eq_nil (resources : Resources handles)
    {commands : List Command} (hnone : lastTarget? commands = none) :
    commands.filterMap resources.targetOf? = [] := by
  have htargets : commands.filterMap Command.target? = [] := List.getLast?_eq_none_iff.1 hnone
  rw [List.filterMap_eq_nil_iff] at htargets ⊢
  intro command hmem
  have hcommand := htargets command hmem
  cases command with
  | setRenderTarget index => cases hcommand
  | _ => rfl

/-- Nothing is submitted where no program is bound. -/
theorem Frame.exists_boundProgram? {frame : Frame handles} {cursor : Cursor} {command : Command}
    (hsubmits : (frame.submissions? cursor command).getD [] ≠ []) :
    ∃ program, frame.boundProgram? cursor = some program := by
  cases hsome : frame.submissions? cursor command with
  | none =>
    rw [hsome] at hsubmits
    exact absurd rfl hsubmits
  | some submissions =>
    rw [hsome] at hsubmits
    obtain ⟨submission, hmem⟩ := List.exists_mem_of_ne_nil _ hsubmits
    exact ⟨submission.program, (of_mem_submissions? hsome hmem).1⟩

theorem Frame.submits_of_isDraw {frame : Frame handles} {cursor : Cursor} {command : Command}
    {draw : Action handles} (hmem : draw ∈ frame.actions cursor command)
    (hdraw : draw.isDraw = true) : (frame.submissions? cursor command).getD [] ≠ [] := by
  intro hnone
  have hdraws := frame.filterMap_draw?_actions cursor command
  rw [hnone] at hdraws
  have hasks := List.filterMap_eq_nil_iff.1 hdraws draw hmem
  cases draw with
  | draw primitive vertexCount => cases hasks
  | _ => cases hdraw

theorem Frame.filterMap_targets?_eq_nil {frame : Frame handles} {cursor : Cursor}
    {command : Command} (hsubmits : (frame.submissions? cursor command).getD [] ≠ []) :
    (frame.actions cursor command).filterMap Action.targets? = [] := by
  rw [frame.filterMap_targets?_actions]
  cases command with
  | setRenderTarget index => exact absurd rfl hsubmits
  | _ => rfl

/-- What a command draws before the first target of its frame, it draws to the target that the earlier
frames have bound last. -/
theorem Frame.getLast?_targets?_early
    (history : List (CompiledPipeline handles × Option (Scene handles.Buffer)))
    {frame : Frame handles} {cursor : Cursor} {earlier : List Command} {command : Command}
    (hearly : lastTarget? earlier = none) {before after : List (Action handles)}
    {draw : Action handles} (hactions : frame.actions cursor command = before ++ draw :: after)
    (hdraw : draw.isDraw = true) :
    ((historyPlan history ++ frame.plan earlier ++ before).filterMap Action.targets?).getLast? =
      (standingTarget? history).map CompiledTarget.views := by
  have hmem : draw ∈ frame.actions cursor command := by simp [hactions]
  have hnone := filterMap_targets?_eq_nil (submits_of_isDraw hmem hdraw)
  rw [hactions, List.filterMap_append, List.append_eq_nil_iff] at hnone
  rw [List.filterMap_append, List.filterMap_append, hnone.1, frame.filterMap_targets?_plan,
    frame.resources.filterMap_targetOf?_eq_nil hearly, List.map_nil, List.append_nil,
    List.append_nil, filterMap_targets?_historyPlan, List.getLast?_map, standingTarget?]

section History

variable [Device State handles]

/-- The device after frames, one after the other. -/
def renderHistory (history : List (CompiledPipeline handles × Option (Scene handles.Buffer)))
    (device : State) : State :=
  history.foldl (fun device frame => (frame.1.render frame.2 device).2) device

theorem renderHistory_eq_foldl
    (history : List (CompiledPipeline handles × Option (Scene handles.Buffer)))
    (device : State) :
    renderHistory history device =
      (historyPlan history).foldl (fun device action => action.apply device) device := by
  rw [renderHistory, historyPlan, List.foldl_flatMap]
  congr 1
  funext device frame
  exact CompiledPipeline.render_device frame.1 frame.2 device

/-- What a frame has reached after some commands comes of the actions of the earlier frames and of those
commands. -/
theorem Frame.device_run_renderHistory (frame : Frame handles) (earlier : List Command)
    (history : List (CompiledPipeline handles × Option (Scene handles.Buffer)))
    (device : State) :
    (frame.run earlier (renderHistory history device)).device =
      (historyPlan history ++ frame.plan earlier).foldl
        (fun device action => action.apply device) device := by
  rw [List.foldl_append, ← renderHistory_eq_foldl, run_eq_perform]
  exact foldl_perform_device _ _

end History

section Retaining

variable [Device State handles] [Retains State]

/-- Frames leave the target bound that they have bound last. -/
theorem hasTarget_renderHistory
    (history : List (CompiledPipeline handles × Option (Scene handles.Buffer)))
    (device : State) :
    Retains.hasTarget (renderHistory history device) =
      leavesTarget history (Retains.hasTarget device) := by
  rw [renderHistory_eq_foldl, hasTarget_foldl_apply, Action.filterMap_bindsTarget?,
    filterMap_targets?_historyPlan, List.getLast?_map, List.getLast?_map, Option.map_map]
  rfl

/-- Without a target, whatever a command draws is refused. -/
theorem Frame.answers_actions_untargeted (frame : Frame handles) (earlier : List Command)
    (command : Command) {device : State}
    (htarget : Retains.hasTarget (frame.run earlier device).device = false) :
    answers (frame.actions (frame.cursorAfter earlier) command) (frame.run earlier device).device =
      ((((frame.submissions? (frame.cursorAfter earlier) command).getD []).filter
        (·.hasStreams)).map fun submission =>
          untargeted (Retains.draws State) submission.drawable.primitive).map .error := by
  have hdraws := frame.filterMap_draw?_actions (frame.cursorAfter earlier) command
  by_cases hsubmits : (frame.submissions? (frame.cursorAfter earlier) command).getD [] = []
  · rw [hsubmits] at hdraws ⊢
    rw [answers_eq_nil hdraws]
    rfl
  · obtain ⟨program, hbound⟩ := exists_boundProgram? hsubmits
    have hkeeps : (frame.actions (frame.cursorAfter earlier) command).filterMap
        Action.bindsTarget? = [] := by
      rw [Action.filterMap_bindsTarget?, filterMap_targets?_eq_nil hsubmits, List.map_nil]
    rw [answers_untargeted hkeeps (hasShaders_run hbound device) htarget, hdraws]
    exact congrArg (List.map Except.error) List.map_map

/-- Frames leave bound the last target that they bound, and what a later frame draws before its first
target goes to that one. If there is none, or it has nothing to draw to, every drawable with streams is
refused, whichever command draws it: no draw is counted, and each is reported for the missing target,
unless the device draws no primitives of its kind at all. -/
theorem early_draws_need_standing_target
    (history : List (CompiledPipeline handles × Option (Scene handles.Buffer))) (start : State)
    (compiled : CompiledPipeline handles) (scene : Option (Scene handles.Buffer))
    {earlier later : List Command} {command : Command}
    (hcommands : compiled.description.commands = earlier ++ command :: later)
    (hearly : lastTarget? earlier = none) :
    let device := renderHistory history start
    let frame := compiled.frame scene
    let reached := frame.run earlier device
    let next := frame.step reached command
    let done := historyPlan history ++ frame.plan earlier
    compiled.render scene device =
        ((later.foldl frame.step next).report, (later.foldl frame.step next).device) ∧
      reached.device = done.foldl (fun device action => action.apply device) start ∧
      (∀ before draw after, frame.actions reached.cursor command = before ++ draw :: after →
        draw.isDraw = true →
        ((done ++ before).filterMap Action.targets?).getLast? =
          (standingTarget? history).map CompiledTarget.views) ∧
      Retains.hasTarget reached.device = leavesTarget history (Retains.hasTarget start) ∧
      (leavesTarget history (Retains.hasTarget start) = false →
        next.report.drawCalls = reached.report.drawCalls ∧
        next.report.deviceErrors = reached.report.deviceErrors ++
          (((frame.submissions? reached.cursor command).getD []).filter (·.hasStreams)).map
            fun submission => untargeted (Retains.draws State) submission.drawable.primitive) := by
  intro device frame reached next done
  have hcursor : reached.cursor = frame.cursorAfter earlier := by
    rw [show reached = frame.run earlier device from rfl, Frame.run_eq_perform]
  have hstanding : Retains.hasTarget reached.device =
      leavesTarget history (Retains.hasTarget start) := by
    rw [← hasTarget_renderHistory, frame.hasTarget_run,
      frame.resources.filterMap_targetOf?_eq_nil hearly]
    rfl
  refine ⟨?_, frame.device_run_renderHistory earlier history start, ?_, hstanding, ?_⟩
  · have hrun : frame.run compiled.description.commands device = later.foldl frame.step next := by
      rw [hcommands, Frame.run, List.foldl_append]
      rfl
    rw [← hrun]
    rfl
  · intro before draw after hactions hdraw
    exact Frame.getLast?_targets?_early history hearly hactions hdraw
  · intro hnone
    have hanswers := frame.answers_actions_untargeted earlier command (hstanding.trans hnone)
    have hnext : next.report =
        ((frame.actions reached.cursor command).foldl FrameState.perform reached).report :=
      (congrArg FrameState.report (frame.step_eq_perform reached command)).trans rfl
    rw [hnext, foldl_perform_drawCalls, foldl_perform_deviceErrors, hcursor, hanswers,
      countP_isAccepted_map_error, filterMap_refusal?_map_error]
    exact ⟨rfl, rfl⟩

end Retaining

namespace Sample

/-- The sample, drawing its stream data before it binds its target. -/
def lateTarget : Pipeline :=
  { pipeline with commands := [.setProgram 0, .renderStream 0, .setRenderTarget 0] }

/-- The sample, binding a target without items. -/
def bareTarget : Pipeline :=
  { pipeline with targets := [⟨[]⟩], commands := [.setRenderTarget 0] }

/-- The first frame is refused its draw; the second one finds the target of the first. -/
theorem recorder_draws_late : ∃ compiled ready,
    CompiledPipeline.compile lateTarget 8 8 config recorder = (.ok compiled, ready) ∧
    (compiled.render (some (scene recordedBuffer))
      (compiled.render (some (scene recordedBuffer)) ready).2).1 = { drawCalls := 1 } :=
  Attempt.exists_of_yields (by decide +kernel)

/-- A frame of the second one leaves a target without views, and a frame of the first one after it is
refused its draw. -/
theorem recorder_binds_bare : ∃ pair : CompiledPipeline Recorder.handles ×
      CompiledPipeline Recorder.handles, ∃ ready,
    (do
      let late ← CompiledPipeline.compile lateTarget 8 8 config
      let bare ← CompiledPipeline.compile bareTarget 8 8 config
      return (late, bare) : Attempt Recorder CompileError (CompiledPipeline Recorder.handles ×
        CompiledPipeline Recorder.handles)) recorder = (.ok pair, ready) ∧
    leavesTarget [(pair.1, some (scene recordedBuffer))] ready.targetsBound = true ∧
    leavesTarget [(pair.1, some (scene recordedBuffer)), (pair.2, none)]
      ready.targetsBound = false ∧
    (pair.1.render (some (scene recordedBuffer)) (renderHistory
      [(pair.1, some (scene recordedBuffer)), (pair.2, none)] ready)).1 =
        { errors := [.device (.incompleteState .renderTarget)] } :=
  Attempt.exists_of_yields (by decide +kernel)

end Sample

/-- The only draw of this frame comes before the only target, yet it is accepted in the second frame, for
the first frame has left its target bound. -/
theorem early_draw_accepted : ∃ compiled ready,
    CompiledPipeline.compile Sample.lateTarget 8 8 Sample.config Sample.recorder =
      (.ok compiled, ready) ∧
    Sample.lateTarget.commands = [.setProgram 0] ++ .renderStream 0 :: [.setRenderTarget 0] ∧
    lastTarget? [.setProgram 0] = none ∧
    (compiled.render (some (Sample.scene Sample.recordedBuffer))
      (compiled.render (some (Sample.scene Sample.recordedBuffer)) ready).2).1 =
        { drawCalls := 1 } := by
  obtain ⟨compiled, ready, hcompile, hsecond⟩ := Sample.recorder_draws_late
  exact ⟨compiled, ready, hcompile, rfl, rfl, hsecond⟩

/-- After a frame that binds a target and one that binds a target without views, a frame that draws early
has its draw refused, and the target that it found is the one without views. -/
theorem early_draws_need_standing_target_lateTarget :
    ∃ (late bare : CompiledPipeline Recorder.handles) (second ready : Recorder),
    CompiledPipeline.compile Sample.lateTarget 8 8 Sample.config Sample.recorder =
      (.ok late, second) ∧
    CompiledPipeline.compile Sample.bareTarget 8 8 Sample.config second = (.ok bare, ready) ∧
    let scene := some (Sample.scene Sample.recordedBuffer)
    let frame := late.frame scene
    let history := [(late, scene), (bare, none)]
    let reached := frame.run [.setProgram 0] (renderHistory history ready)
    let next := frame.step reached (.renderStream 0)
    leavesTarget [(late, scene)] ready.targetsBound = true ∧
    leavesTarget history ready.targetsBound = false ∧
    (∀ before draw after,
      frame.actions reached.cursor (.renderStream 0) = before ++ draw :: after →
      draw.isDraw = true →
      ((historyPlan history ++ frame.plan [.setProgram 0] ++ before).filterMap
          Action.targets?).getLast? =
        (standingTarget? history).map CompiledTarget.views) ∧
    next.report.drawCalls = reached.report.drawCalls ∧
    next.report.deviceErrors = reached.report.deviceErrors ++
      (((frame.submissions? reached.cursor (.renderStream 0)).getD []).filter (·.hasStreams)).map
        (fun _ => .incompleteState .renderTarget) ∧
    (late.render scene (renderHistory history ready)).1 =
      { errors := [.device (.incompleteState .renderTarget)] } := by
  obtain ⟨⟨late, bare⟩, ready, hpair, hbinds, hloses, hreport⟩ := Sample.recorder_binds_bare
  obtain ⟨late, second, hlate, hrest⟩ := Attempt.bind_eq_ok.1 hpair
  obtain ⟨bare, last, hbare, hreturn⟩ := Attempt.bind_eq_ok.1 hrest
  cases hreturn
  have hdescription := (CompiledPipeline.isCompiled_of_compile_eq_ok hlate).description
  have hcommands : late.description.commands =
      [.setProgram 0] ++ .renderStream 0 :: [.setRenderTarget 0] := by
    rw [hdescription]
    rfl
  obtain ⟨_, _, htarget, _, huntargeted⟩ := early_draws_need_standing_target
    [(late, some (Sample.scene Sample.recordedBuffer)), (bare, none)] ready late
    (some (Sample.scene Sample.recordedBuffer)) hcommands rfl
  obtain ⟨hcount, hrefused⟩ := huntargeted hloses
  exact ⟨late, bare, second, ready, hlate, hbare, hbinds, hloses, htarget, hcount, hrefused, hreport⟩

end FramePlan
