import FramePlan.Proofs.Frame.Log
import FramePlan.Proofs.Frame.Skip
import FramePlan.Proofs.Frame.Verdict

/-!
# Drawables are accounted for

Every drawable of a command that is not skipped ends in one of three ways: it is drawn, the device refuses
it, or one of its streams cannot be bound. Uniforms do not matter for this. So the report accounts for each
of them.

* `Pipeline.drawableCount`: their number, from the description and the scene.
* `drawables_conserved`: the report accounts for every drawable.
-/

namespace FramePlan

variable {State : Type} {handles : Handles}

def Command.isRenderStream : Command → Bool
  | .renderStream _ => true
  | _ => false

namespace Pipeline

variable {Handle : Type} (pipeline : Pipeline) (scene : Option (Scene Handle))

/-- The commands that are not skipped. -/
def performed : List Command :=
  ((withEarlier [] pipeline.commands).filter fun place =>
    !pipeline.skips scene place.1 place.2).map Prod.snd

/-- The enabled objects of the slot that a command draws. -/
def enabledObjects : Command → List (Object Handle)
  | .renderSlot slot => ((pipeline.group? scene slot).getD []).filter (·.enabled)
  | _ => []

/-- The number of drawables of a frame: one for stream data, and every enabled object of a
slot, of the commands that are not skipped. -/
def drawableCount : Nat :=
  (pipeline.performed scene).countP Command.isRenderStream +
    ((pipeline.performed scene).flatMap (pipeline.enabledObjects scene)).length

end Pipeline

namespace CompiledPipeline

variable (compiled : CompiledPipeline handles) (scene : Option (Scene handles.Buffer))

/-- The sampler that a command names although the program bound before it has no such sampler. -/
def unknownSampler? (earlier : List Command) : Command → Option String
  | .setSamplerUniform name _ =>
    ((lastProgram? earlier).bind fun index => compiled.resources.programs[index]?).bind
      (·.lacksSampler? name)
  | _ => none

variable {compiled}

theorem unknownSampler?_eq {earlier : List Command}
    (hreach : ∀ command ∈ earlier, compiled.Reaches command) (command : Command) :
    (compiled.frame scene).unknownSampler? ((compiled.frame scene).cursorAfter earlier) command =
      compiled.unknownSampler? earlier command := by
  cases command with
  | setSamplerUniform name textureUnit =>
    rw [Frame.unknownSampler?, unknownSampler?, boundProgram?_eq scene hreach]
  | _ => rfl

theorem length_drawnObjects {Handle : Type} (objects : List (Object Handle)) :
    (drawnObjects objects).length = (objects.filter (·.enabled)).length := by
  rw [drawnObjects, List.length_mergeSort]

theorem length_of_submissions?_eq_some {cursor : Cursor} {command : Command}
    {submissions : List (Submission handles)}
    (hsome : (compiled.frame scene).submissions? cursor command = some submissions) :
    submissions.length = command.isRenderStream.toNat +
      (compiled.description.enabledObjects scene command).length := by
  cases command with
  | renderSlot slot =>
    simp only [Frame.submissions?] at hsome
    cases hbound : (compiled.frame scene).boundProgram? cursor with
    | none => simp [hbound] at hsome
    | some program =>
      cases scene with
      | none => simp [hbound] at hsome
      | some scene =>
        simp only [hbound, frame_scene] at hsome
        obtain ⟨objects, hgroup, rfl⟩ := Option.map_eq_some_iff.1 hsome
        have hobjects : compiled.description.group? (some scene) slot = some objects := hgroup
        rw [Pipeline.enabledObjects, hobjects, List.length_map, length_drawnObjects]
        exact (Nat.zero_add _).symm
  | renderStream stream =>
    simp only [Frame.submissions?] at hsome
    cases hbound : (compiled.frame scene).boundProgram? cursor with
    | none => simp [hbound] at hsome
    | some program =>
      cases scene with
      | none => simp [hbound] at hsome
      | some scene =>
        simp only [hbound, frame_scene] at hsome
        obtain ⟨data, _, rfl⟩ := Option.map_eq_some_iff.1 hsome
        rfl
  | _ =>
    cases hsome
    rfl

theorem length_submissions? {earlier : List Command}
    (hreach : ∀ command ∈ earlier, compiled.Reaches command) {command : Command}
    (hcommand : compiled.Reaches command) :
    (((compiled.frame scene).submissions? ((compiled.frame scene).cursorAfter earlier)
        command).getD []).length =
      if !compiled.description.skips scene earlier command then
        command.isRenderStream.toNat + (compiled.description.enabledObjects scene command).length
      else 0 := by
  have hskips := idles_eq_skips scene hreach hcommand
  have hrender (hidles : (compiled.frame scene).idles
      ((compiled.frame scene).cursorAfter earlier) command =
        ((compiled.frame scene).submissions? ((compiled.frame scene).cursorAfter earlier)
          command).isNone) :
      (((compiled.frame scene).submissions? ((compiled.frame scene).cursorAfter earlier)
          command).getD []).length =
        if !compiled.description.skips scene earlier command then
          command.isRenderStream.toNat +
            (compiled.description.enabledObjects scene command).length
        else 0 := by
    rw [← hskips, hidles]
    cases hsubmissions : (compiled.frame scene).submissions?
      ((compiled.frame scene).cursorAfter earlier) command with
    | none => rfl
    | some submissions => exact length_of_submissions?_eq_some scene hsubmissions
  cases command with
  | renderSlot slot => exact hrender rfl
  | renderStream stream => exact hrender rfl
  | _ => exact (ite_self 0).symm

theorem length_submissions
    (hreach : ∀ command ∈ compiled.description.commands, compiled.Reaches command) :
    (compiled.submissions scene).length = compiled.description.drawableCount scene := by
  apply length_flatMap_eq_add
  intro place hplace
  obtain ⟨later, hcommands⟩ := exists_append_of_mem_withEarlier hplace
  rw [List.nil_append] at hcommands
  have hearlier : ∀ command ∈ place.1, compiled.Reaches command := fun command hmem =>
    hreach command (hcommands ▸ List.mem_append_left _ hmem)
  have hcommand : compiled.Reaches place.2 := hreach place.2 (by simp [hcommands])
  exact length_submissions? scene hearlier hcommand

end CompiledPipeline

namespace CompiledPipeline

/-- The draws that a recorder notes in a frame are those of the submissions that have their streams. -/
theorem filter_isDraw_calls (compiled : CompiledPipeline Recorder.handles)
    (scene : Option (Scene RecordedBuffer)) :
    (compiled.calls scene).filter DeviceCall.isDraw =
      ((compiled.submissions scene).filter (·.hasStreams)).map Submission.drawCall := by
  have hcalls : (compiled.calls scene).filter DeviceCall.isDraw =
      ((compiled.plan scene).filter Action.isDraw).filterMap Action.call? := by
    rw [calls, List.filter_filterMap, List.filterMap_filter]
    congr 1
    funext action
    cases action <;> rfl
  rw [hcalls, plan, Frame.filter_isDraw_plan, List.filterMap_map]
  exact congrFun List.filterMap_eq_map _

variable [Device State handles] (compiled : CompiledPipeline handles)
  (scene : Option (Scene handles.Buffer)) (device : State)

/-- The device answers to every submission that has its streams, and to nothing else. -/
theorem drawCalls_add_deviceErrors :
    (compiled.render scene device).1.drawCalls +
        (compiled.render scene device).1.deviceErrors.length =
      (compiled.submissions scene).countP (·.hasStreams) := by
  calc
    (compiled.render scene device).1.drawCalls +
        (compiled.render scene device).1.deviceErrors.length =
        (compiled.answers scene device).length := by
          rw [drawCalls_render, deviceErrors_render, ← length_eq_accepted_add_refused]
    _ = (compiled.plan scene).countP Action.isDraw := length_answers _ _
    _ = (compiled.submissions scene).countP (·.hasStreams) := Frame.countP_isDraw_plan _ _

theorem streamErrors_render :
    (compiled.render scene device).1.bindingErrors.countP (·.subject = .stream) =
      (compiled.submissions scene).countP fun submission => !submission.hasStreams := by
  have hfault : ((compiled.plan scene).filterMap Action.error?).countP (·.subject = .stream) =
      (compiled.plan scene).countP Action.isStreamFault := by
    rw [List.countP_filterMap]
    congr 1
    funext action
    cases action <;> rfl
  calc
    (compiled.render scene device).1.bindingErrors.countP (·.subject = .stream) =
        ((compiled.plan scene).filterMap Action.error?).countP (·.subject = .stream) := by
          rw [bindingErrors_render]
    _ = (compiled.plan scene).countP Action.isStreamFault := hfault
    _ = (compiled.submissions scene).countP fun submission => !submission.hasStreams :=
          Frame.countP_isStreamFault_plan _ _

theorem samplerNames_render :
    (compiled.render scene device).1.bindingErrors.filterMap BindingError.samplerName? =
      (withEarlier [] compiled.description.commands).filterMap fun place =>
        (compiled.frame scene).unknownSampler? ((compiled.frame scene).cursorAfter place.1)
          place.2 := by
  rw [bindingErrors_render, List.filterMap_filterMap]
  exact (compiled.frame scene).filterMap_samplerName?_plan _

end CompiledPipeline

/-- Every drawable of a frame is drawn, refused by the device, or reported for one stream. The device is
asked to draw just what has its streams, whatever becomes of uniforms. Unknown samplers
are reported of the commands that name them while a program is bound, in order. A recorder notes every
draw, accepted or not. -/
theorem drawables_conserved [Device State handles] {pipeline : Pipeline} {width height : UInt32}
    {config : Config} {before after : State} {compiled : CompiledPipeline handles}
    (hcompile : CompiledPipeline.compile pipeline width height config before =
      (.ok compiled, after))
    (scene : Option (Scene handles.Buffer)) (device : State) :
    ((compiled.render scene device).1.drawCalls +
        (compiled.render scene device).1.deviceErrors.length +
        (compiled.render scene device).1.bindingErrors.countP (·.subject = .stream) =
      pipeline.drawableCount scene) ∧
    ((compiled.submissions scene).length = pipeline.drawableCount scene ∧
      (compiled.render scene device).1.drawCalls +
          (compiled.render scene device).1.deviceErrors.length =
        (compiled.submissions scene).countP (·.hasStreams)) ∧
    ((compiled.render scene device).1.bindingErrors.filterMap BindingError.samplerName? =
      (withEarlier [] pipeline.commands).filterMap fun place =>
        compiled.unknownSampler? place.1 place.2) ∧
    ∀ (recorded : CompiledPipeline Recorder.handles) (scene : Option (Scene RecordedBuffer))
      (recorder : Recorder), ∃ calls,
        (recorded.render scene recorder).2.calls.toList = recorder.calls.toList ++ calls ∧
        calls.filter DeviceCall.isDraw =
          ((recorded.submissions scene).filter (·.hasStreams)).map Submission.drawCall ∧
        calls.countP DeviceCall.isDraw =
          (recorded.render scene recorder).1.drawCalls +
            (recorded.render scene recorder).1.deviceErrors.length := by
  have hcompiled := CompiledPipeline.isCompiled_of_compile_eq_ok hcompile
  have hreach : ∀ command ∈ pipeline.commands, compiled.Reaches command :=
    fun command hmem kind index hreference => hcompiled.index_lt hmem hreference
  have hlength : (compiled.submissions scene).length = pipeline.drawableCount scene := by
    rw [← hcompiled.description] at hreach ⊢
    exact CompiledPipeline.length_submissions scene hreach
  have hdraws := compiled.drawCalls_add_deviceErrors scene device
  refine ⟨?_, ⟨hlength, hdraws⟩, ?_, ?_⟩
  · rw [hdraws, CompiledPipeline.streamErrors_render, ← hlength,
      List.length_eq_countP_add_countP (·.hasStreams)]
    simp only [Bool.not_eq_true, Bool.decide_eq_false]
  · rw [CompiledPipeline.samplerNames_render, hcompiled.description]
    apply List.filterMap_congr
    intro place hplace
    obtain ⟨later, hcommands⟩ := exists_append_of_mem_withEarlier hplace
    rw [List.nil_append] at hcommands
    apply CompiledPipeline.unknownSampler?_eq
    intro command hmem
    exact hreach command (hcommands ▸ List.mem_append_left _ hmem)
  · intro recorded scene recorder
    refine ⟨recorded.calls scene, recorded.calls_render scene recorder,
      recorded.filter_isDraw_calls scene, ?_⟩
    rw [recorded.drawCalls_add_deviceErrors, List.countP_eq_length_filter,
      recorded.filter_isDraw_calls, List.length_map, List.countP_eq_length_filter]

/-- Of the four drawables of the sample two are drawn, one is refused and one is short of a
stream. -/
theorem drawables_conserved_sample : ∃ compiled after,
    CompiledPipeline.compile Sample.pipeline 8 8 Sample.config Sample.recorder =
      (.ok compiled, after) ∧
    2 + 1 + 1 = Sample.pipeline.drawableCount (some (Sample.scene Sample.recordedBuffer)) ∧
    (compiled.submissions (some (Sample.scene Sample.recordedBuffer))).countP (·.hasStreams) = 3 ∧
    ((withEarlier [] Sample.pipeline.commands).filterMap fun place =>
      compiled.unknownSampler? place.1 place.2) = ["diffuse"] := by
  obtain ⟨compiled, after, hcompile, hreport, _⟩ := Sample.recorder_compiles
  obtain ⟨hcount, ⟨_, hdraws⟩, hsamplers, _⟩ :=
    drawables_conserved hcompile (some (Sample.scene Sample.recordedBuffer)) after
  rw [hreport] at hcount hdraws hsamplers
  exact ⟨compiled, after, hcompile, hcount, hdraws.symm, hsamplers.symm⟩

end FramePlan
