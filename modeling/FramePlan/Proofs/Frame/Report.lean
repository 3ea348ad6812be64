import FramePlan.Proofs.Frame.Plan

/-!
# What a frame reports

A frame reports what is in its plan and what the device answers to the draws in it: skipped commands
and binding errors are read off the plan, accepted draws and device errors off the answers. So two
devices can only differ in their answers.
-/

namespace FramePlan

variable {State : Type} {handles : Handles}

theorem FrameReport.mem_bindingErrors {report : FrameReport} {error : BindingError} :
    error ∈ report.bindingErrors ↔ .binding error ∈ report.errors := by
  rw [bindingErrors, List.mem_filterMap]
  constructor
  · rintro ⟨found, hmem, hfound⟩
    cases found with
    | binding other =>
      cases hfound
      exact hmem
    | device other => cases hfound
  · intro hmem
    exact ⟨.binding error, hmem, rfl⟩

theorem FrameReport.mem_deviceErrors {report : FrameReport} {error : DeviceError} :
    error ∈ report.deviceErrors ↔ .device error ∈ report.errors := by
  rw [deviceErrors, List.mem_filterMap]
  constructor
  · rintro ⟨found, hmem, hfound⟩
    cases found with
    | binding other => cases hfound
    | device other =>
      cases hfound
      exact hmem
  · intro hmem
    exact ⟨.device error, hmem, rfl⟩

def isAccepted : Except DeviceError Unit → Bool
  | .ok _ => true
  | .error _ => false

def refusal? : Except DeviceError Unit → Option DeviceError
  | .ok _ => none
  | .error error => some error

theorem length_eq_accepted_add_refused (answers : List (Except DeviceError Unit)) :
    answers.length = answers.countP isAccepted + (answers.filterMap refusal?).length := by
  induction answers with
  | nil => rfl
  | cons answer rest ih =>
    cases answer with
    | ok _ =>
      simp only [List.length_cons, List.countP_cons, List.filterMap_cons, isAccepted, refusal?, ih,
        if_true]
      omega
    | error error =>
      simp only [List.length_cons, List.countP_cons, List.filterMap_cons, isAccepted, refusal?, ih,
        Bool.false_eq_true, if_false]
      omega

section Answers

variable [Device State handles]

/-- The answers of a device to the draws among actions, in order. -/
def answers : List (Action handles) → State → List (Except DeviceError Unit)
  | [], _ => []
  | action :: rest, device => (action.answer? device).toList ++ answers rest (action.apply device)

theorem length_answers (actions : List (Action handles)) (device : State) :
    (answers actions device).length = actions.countP Action.isDraw := by
  induction actions generalizing device with
  | nil => rfl
  | cons action rest ih =>
    rw [answers, List.length_append, ih, List.countP_cons, Nat.add_comm]
    cases action <;> rfl

theorem foldl_perform_device (actions : List (Action handles)) (state : FrameState State) :
    (actions.foldl FrameState.perform state).device =
      actions.foldl (fun device action => action.apply device) state.device := by
  induction actions generalizing state with
  | nil => rfl
  | cons action rest ih => exact ih (state.perform action)

theorem skippedCommands_perform (state : FrameState State) (action : Action handles) :
    (state.perform action).report.skippedCommands =
      state.report.skippedCommands + if action.isSkip then 1 else 0 := by
  cases action with
  | draw primitive vertexCount =>
    simp only [FrameState.perform, Action.answer?]
    rcases (Device.draw primitive vertexCount state.device).1 with error | answer
    · rfl
    · rfl
  | _ => rfl

theorem foldl_perform_skippedCommands (actions : List (Action handles))
    (state : FrameState State) :
    (actions.foldl FrameState.perform state).report.skippedCommands =
      state.report.skippedCommands + actions.countP Action.isSkip := by
  induction actions generalizing state with
  | nil => rfl
  | cons action rest ih =>
    rw [List.foldl_cons, ih, skippedCommands_perform, List.countP_cons]
    omega

theorem bindingErrors_perform (state : FrameState State) (action : Action handles) :
    (state.perform action).report.bindingErrors =
      state.report.bindingErrors ++ action.error?.toList := by
  cases action with
  | draw primitive vertexCount =>
    simp only [FrameState.perform, Action.answer?]
    rcases (Device.draw primitive vertexCount state.device).1 with error | answer
    · simp [FrameReport.note, FrameReport.withError, FrameReport.bindingErrors, Action.error?]
    · simp [FrameReport.note, FrameReport.withDraw, FrameReport.bindingErrors, Action.error?]
  | fail error =>
    simp [FrameState.perform, FrameReport.note, FrameReport.withError, FrameReport.bindingErrors,
      Action.error?]
  | _ => exact (List.append_nil _).symm

theorem foldl_perform_bindingErrors (actions : List (Action handles))
    (state : FrameState State) :
    (actions.foldl FrameState.perform state).report.bindingErrors =
      state.report.bindingErrors ++ actions.filterMap Action.error? := by
  induction actions generalizing state with
  | nil => exact (List.append_nil _).symm
  | cons action rest ih =>
    rw [List.foldl_cons, ih, bindingErrors_perform, List.append_assoc, List.filterMap_cons]
    cases action.error? <;> rfl

theorem drawCalls_perform (state : FrameState State) (action : Action handles) :
    (state.perform action).report.drawCalls =
      state.report.drawCalls + (action.answer? state.device).toList.countP isAccepted := by
  cases action with
  | draw primitive vertexCount =>
    simp only [FrameState.perform, Action.answer?]
    rcases (Device.draw primitive vertexCount state.device).1 with error | answer
    · rfl
    · rfl
  | _ => rfl

theorem foldl_perform_drawCalls (actions : List (Action handles)) (state : FrameState State) :
    (actions.foldl FrameState.perform state).report.drawCalls =
      state.report.drawCalls + (answers actions state.device).countP isAccepted := by
  induction actions generalizing state with
  | nil => rfl
  | cons action rest ih =>
    rw [List.foldl_cons, ih, drawCalls_perform, answers, List.countP_append, Nat.add_assoc]
    rfl

theorem deviceErrors_perform (state : FrameState State) (action : Action handles) :
    (state.perform action).report.deviceErrors =
      state.report.deviceErrors ++ (action.answer? state.device).toList.filterMap refusal? := by
  cases action with
  | draw primitive vertexCount =>
    simp only [FrameState.perform, Action.answer?]
    rcases (Device.draw primitive vertexCount state.device).1 with error | answer
    · simp [FrameReport.note, FrameReport.withError, FrameReport.deviceErrors, refusal?]
    · simp [FrameReport.note, FrameReport.withDraw, FrameReport.deviceErrors, refusal?]
  | fail error =>
    simp [FrameState.perform, FrameReport.note, FrameReport.withError, FrameReport.deviceErrors,
      Action.answer?]
  | _ => exact (List.append_nil _).symm

theorem foldl_perform_deviceErrors (actions : List (Action handles)) (state : FrameState State) :
    (actions.foldl FrameState.perform state).report.deviceErrors =
      state.report.deviceErrors ++ (answers actions state.device).filterMap refusal? := by
  induction actions generalizing state with
  | nil => exact (List.append_nil _).symm
  | cons action rest ih =>
    rw [List.foldl_cons, ih, deviceErrors_perform, answers, List.filterMap_append,
      List.append_assoc]
    rfl

end Answers

namespace CompiledPipeline

def frame (compiled : CompiledPipeline handles) (scene : Option (Scene handles.Buffer)) :
    Frame handles :=
  ⟨compiled.resources, compiled.description.slots, compiled.config.unboundUniforms, scene⟩

@[simp]
theorem frame_scene (compiled : CompiledPipeline handles)
    (scene : Option (Scene handles.Buffer)) : (compiled.frame scene).scene = scene := rfl

/-- What is done in a frame, in order. -/
def plan (compiled : CompiledPipeline handles) (scene : Option (Scene handles.Buffer)) :
    List (Action handles) :=
  (compiled.frame scene).plan compiled.description.commands

variable [Device State handles] (compiled : CompiledPipeline handles)
  (scene : Option (Scene handles.Buffer)) (device : State)

/-- What the device answers to the draws of a frame. -/
def answers : List (Except DeviceError Unit) := FramePlan.answers (compiled.plan scene) device

theorem render_device :
    (compiled.render scene device).2 =
      (compiled.plan scene).foldl (fun device action => action.apply device) device := by
  have hrun := Frame.run_eq_perform (compiled.frame scene) compiled.description.commands device
  exact (congrArg FrameState.device hrun).trans (foldl_perform_device _ _)

theorem render_report :
    (compiled.render scene device).1 =
      ((compiled.plan scene).foldl FrameState.perform { device }).report := by
  have hrun := Frame.run_eq_perform (compiled.frame scene) compiled.description.commands device
  exact (congrArg FrameState.report hrun).trans rfl

theorem skippedCommands_render :
    (compiled.render scene device).1.skippedCommands =
      (compiled.plan scene).countP Action.isSkip := by
  rw [render_report, foldl_perform_skippedCommands, Nat.zero_add]

theorem bindingErrors_render :
    (compiled.render scene device).1.bindingErrors =
      (compiled.plan scene).filterMap Action.error? := by
  rw [render_report, foldl_perform_bindingErrors]
  rfl

theorem drawCalls_render :
    (compiled.render scene device).1.drawCalls =
      (compiled.answers scene device).countP isAccepted := by
  rw [render_report, foldl_perform_drawCalls, Nat.zero_add, answers]

theorem deviceErrors_render :
    (compiled.render scene device).1.deviceErrors =
      (compiled.answers scene device).filterMap refusal? := by
  rw [render_report, foldl_perform_deviceErrors]
  rfl

end CompiledPipeline

end FramePlan
