import FramePlan.Proofs.Frame.Report

/-!
# Verdicts on drawables

What a frame asks of its device about a drawable, and what it reports of it, comes from what its
commands submit; other commands draw nothing, and report no more than an unknown sampler.

* `Submission.filter_isDraw_actions`, `countP_isStreamFault_actions`: a drawable is drawn once, or
  reported once for a stream.
* `Frame.filter_plan`: the verdicts of a frame are those of its submissions.
* `Frame.filterMap_samplerName?_plan`: the samplers that a frame reports.
-/

namespace FramePlan

variable {State : Type} {handles : Handles}

namespace Action

/-- Whether an action asks or reports something about a drawable as a whole: a draw, or an error that
is not about a sampler. -/
def isVerdict : Action handles → Bool
  | .draw _ _ => true
  | .fail error => error.subject ≠ .sampler
  | _ => false

/-- Whether an action neither draws nor reports an error. -/
def isQuiet : Action handles → Bool
  | .draw _ _ | .fail _ => false
  | _ => true

theorem isVerdict_eq_false {action : Action handles} (hquiet : action.isQuiet = true) :
    action.isVerdict = false := by
  cases action <;> first | rfl | cases hquiet

/-- The sampler that an action reports as unknown. -/
def samplerName? (action : Action handles) : Option String :=
  action.error?.bind BindingError.samplerName?

theorem samplerName?_eq_none {action : Action handles} (hquiet : action.isQuiet = true) :
    action.samplerName? = none := by
  cases action <;> first | rfl | cases hquiet

/-- Whether an action reports that a stream cannot be bound. -/
def isStreamFault : Action handles → Bool
  | .fail error => error.subject = .stream
  | _ => false

theorem isVerdict_of_isDraw {action : Action handles} (hdraw : action.isDraw = true) :
    action.isVerdict = true := by
  cases action <;> first | rfl | cases hdraw

theorem isVerdict_of_isStreamFault {action : Action handles}
    (hfault : action.isStreamFault = true) : action.isVerdict = true := by
  cases action with
  | fail error =>
    have hsubject : error.subject = .stream := of_decide_eq_true hfault
    simp [isVerdict, hsubject]
  | _ => cases hfault

end Action

namespace Submission

/-- Whether every stream of the program can be bound. -/
def hasStreams (submission : Submission handles) : Bool :=
  submission.program.streams.values.all fun slot =>
    (streamBinding slot submission.drawable.streams).isOk

/-- Uniforms neither draw nor keep a stream from being bound. -/
theorem filter_uniformActions (policy : UnboundUniformPolicy) (submission : Submission handles)
    {p : Action handles → Bool} (hset : ∀ slot value, p (.setUniform slot value) = false)
    (hfail : ∀ error : BindingError, error.subject = .uniform → p (.fail error) = false) :
    (submission.program.uniforms.entries.map (submission.uniformAction policy)).filter p = [] := by
  rw [List.filter_eq_nil_iff]
  intro action hmem
  obtain ⟨entry, _, rfl⟩ := List.mem_map.1 hmem
  rcases submission.uniformAction_cases policy entry with ⟨value, haction⟩ | ⟨error, haction, huniform⟩
  · simp [haction, hset]
  · simp [haction, hfail error huniform]

theorem filter_isDraw_streamActions (submission : Submission handles) (slots : List StreamSlot) :
    (submission.streamActions slots).filter Action.isDraw =
      if slots.all fun slot => (streamBinding slot submission.drawable.streams).isOk then
        [submission.drawAction]
      else [] := by
  induction slots with
  | nil => rfl
  | cons slot rest ih =>
    rw [streamActions, List.all_cons]
    cases streamBinding slot submission.drawable.streams with
    | ok binding => exact ih
    | error error => rfl

theorem countP_isStreamFault_streamActions (submission : Submission handles)
    (slots : List StreamSlot) :
    (submission.streamActions slots).countP Action.isStreamFault =
      (!slots.all fun slot => (streamBinding slot submission.drawable.streams).isOk).toNat := by
  induction slots with
  | nil => rfl
  | cons slot rest ih =>
    rw [streamActions, List.all_cons]
    cases hbinding : streamBinding slot submission.drawable.streams with
    | ok binding => exact ih
    | error error =>
      have hfault : (Action.fail error : Action handles).isStreamFault = true :=
        decide_eq_true (subject_of_streamBinding hbinding)
      simp [hfault, Except.isOk, Except.toBool]

/-- A drawable is drawn just when all its streams can be bound. -/
theorem filter_isDraw_actions (policy : UnboundUniformPolicy) (submission : Submission handles) :
    (submission.actions policy).filter Action.isDraw =
      if submission.hasStreams then [submission.drawAction] else [] := by
  have huniforms := submission.filter_uniformActions policy (p := Action.isDraw)
    (fun _ _ => rfl) (fun _ _ => rfl)
  rw [actions, List.filter_append, huniforms, List.nil_append, filter_isDraw_streamActions,
    hasStreams]

/-- Drawables are drawn in order, but for those that are short of a stream. -/
theorem filter_isDraw_flatMap (policy : UnboundUniformPolicy)
    (submissions : List (Submission handles)) :
    (submissions.flatMap (·.actions policy)).filter Action.isDraw =
      (submissions.filter (·.hasStreams)).map drawAction := by
  induction submissions with
  | nil => rfl
  | cons submission rest ih =>
    rw [List.flatMap_cons, List.filter_append, ih, filter_isDraw_actions, List.filter_cons]
    cases submission.hasStreams with
    | false => rfl
    | true => rfl

theorem countP_isDraw_actions (policy : UnboundUniformPolicy) (submission : Submission handles) :
    (submission.actions policy).countP Action.isDraw = submission.hasStreams.toNat := by
  rw [List.countP_eq_length_filter, filter_isDraw_actions]
  cases submission.hasStreams with
  | false => rfl
  | true => rfl

/-- One error about streams is reported of a drawable that is not drawn. -/
theorem countP_isStreamFault_actions (policy : UnboundUniformPolicy)
    (submission : Submission handles) :
    (submission.actions policy).countP Action.isStreamFault = (!submission.hasStreams).toNat := by
  have huniforms := submission.filter_uniformActions policy (p := Action.isStreamFault)
    (fun _ _ => rfl) (fun error huniform => by simp [Action.isStreamFault, huniform])
  rw [actions, List.countP_append, List.countP_eq_length_filter, huniforms, List.length_nil,
    Nat.zero_add, countP_isStreamFault_streamActions, hasStreams]

end Submission

namespace Frame

/-- What commands submit for drawing, in order. -/
def submissions (frame : Frame handles) (commands : List Command) : List (Submission handles) :=
  (withEarlier [] commands).flatMap fun place =>
    (frame.submissions? (frame.cursorAfter place.1) place.2).getD []

theorem mem_submissions_iff {frame : Frame handles} {commands : List Command}
    {submission : Submission handles} :
    submission ∈ frame.submissions commands ↔
      ∃ place ∈ withEarlier [] commands, ∃ made,
        frame.submissions? (frame.cursorAfter place.1) place.2 = some made ∧ submission ∈ made := by
  rw [submissions, List.mem_flatMap]
  refine exists_congr fun place => and_congr_right fun _ => ?_
  cases frame.submissions? (frame.cursorAfter place.1) place.2 with
  | none => simp
  | some made => simp

/-- The sampler that a command names although the program that is bound has no such sampler. -/
def unknownSampler? (frame : Frame handles) (cursor : Cursor) : Command → Option String
  | .setSamplerUniform name _ => (frame.boundProgram? cursor).bind (·.lacksSampler? name)
  | _ => none

/-- An unknown sampler is all that its command reports. -/
theorem actions_of_unknownSampler? {frame : Frame handles} {cursor : Cursor} {command : Command}
    {name : String} (hunknown : frame.unknownSampler? cursor command = some name) :
    frame.actions cursor command = [.fail (.unknownSampler name)] := by
  cases command with
  | setSamplerUniform sampler textureUnit =>
    simp only [unknownSampler?] at hunknown
    cases hbound : frame.boundProgram? cursor with
    | none => simp [hbound] at hunknown
    | some program =>
      cases hget : program.samplers.get? sampler with
      | none =>
        simp only [hbound, Option.bind_some, CompiledProgram.lacksSampler?, hget,
          Option.isNone_none, if_true, Option.some.injEq] at hunknown
        subst hunknown
        simp [actions, hbound, samplerSlot, hget]
      | some slot => simp [hbound, CompiledProgram.lacksSampler?, hget] at hunknown
  | _ => cases hunknown

/-- Otherwise a command that has nothing to submit draws nothing and reports no error. -/
theorem isQuiet_of_mem_actions {frame : Frame handles} {cursor : Cursor} {command : Command}
    (hnone : frame.submissions? cursor command = some [])
    (hknown : frame.unknownSampler? cursor command = none) {action : Action handles}
    (hmem : action ∈ frame.actions cursor command) : action.isQuiet = true := by
  rcases mem_actions hmem with ⟨submissions, hsome, submission, hsubmission, _⟩ |
    ⟨name, textureUnit, program, rfl, hbound, ⟨slot, _, rfl⟩ | ⟨hget, _⟩⟩ | hgeneral
  · rw [hnone] at hsome
    cases hsome
    cases hsubmission
  · rfl
  · simp [unknownSampler?, hbound, CompiledProgram.lacksSampler?, hget] at hknown
  · cases action <;> first | rfl | cases hgeneral

theorem filter_renderActions (frame : Frame handles)
    (submissions : Option (List (Submission handles))) {p : Action handles → Bool}
    (hp : ∀ action, p action = true → action.isVerdict = true) :
    (frame.renderActions submissions).filter p =
      ((submissions.getD []).flatMap (·.actions frame.policy)).filter p := by
  cases submissions with
  | none =>
    rw [renderActions, Option.getD_none, List.flatMap_nil, List.filter_nil,
      List.filter_eq_nil_iff]
    intro action hmem hholds
    cases List.mem_singleton.1 hmem
    exact Bool.false_ne_true (hp .skip hholds)
  | some submissions => rfl

/-- What a command asks and reports about drawables comes from what it submits. -/
theorem filter_actions (frame : Frame handles) (cursor : Cursor) (command : Command)
    {p : Action handles → Bool} (hp : ∀ action, p action = true → action.isVerdict = true) :
    (frame.actions cursor command).filter p =
      (((frame.submissions? cursor command).getD []).flatMap
        (·.actions frame.policy)).filter p := by
  have hquiet (hnone : frame.submissions? cursor command = some []) :
      (frame.actions cursor command).filter p =
        (((frame.submissions? cursor command).getD []).flatMap
          (·.actions frame.policy)).filter p := by
    rw [hnone, Option.getD_some, List.flatMap_nil, List.filter_nil, List.filter_eq_nil_iff]
    intro action hmem hholds
    have hverdict := hp action hholds
    cases hunknown : frame.unknownSampler? cursor command with
    | none =>
      rw [Action.isVerdict_eq_false (isQuiet_of_mem_actions hnone hunknown hmem)] at hverdict
      cases hverdict
    | some name =>
      rw [actions_of_unknownSampler? hunknown] at hmem
      cases List.mem_singleton.1 hmem
      cases hverdict
  cases command with
  | renderSlot slot => exact frame.filter_renderActions _ hp
  | renderStream stream => exact frame.filter_renderActions _ hp
  | _ => exact hquiet rfl

/-- What commands ask and report about drawables comes from what they submit. -/
theorem filter_plan (frame : Frame handles) (commands : List Command)
    {p : Action handles → Bool} (hp : ∀ action, p action = true → action.isVerdict = true) :
    (frame.plan commands).filter p =
      ((frame.submissions commands).flatMap (·.actions frame.policy)).filter p := by
  rw [plan, submissions, List.flatMap_assoc, List.filter_flatMap, List.filter_flatMap]
  congr 1
  funext place
  exact frame.filter_actions _ place.2 hp

theorem countP_isStreamFault_plan (frame : Frame handles) (commands : List Command) :
    (frame.plan commands).countP Action.isStreamFault =
      (frame.submissions commands).countP fun submission => !submission.hasStreams := by
  have hfilter := frame.filter_plan commands fun _ => Action.isVerdict_of_isStreamFault
  rw [List.countP_eq_length_filter, hfilter, ← List.countP_eq_length_filter]
  exact countP_flatMap_eq_countP fun submission _ =>
    submission.countP_isStreamFault_actions frame.policy

/-- A frame draws what it submits, in order, but for what is short of a stream. -/
theorem filter_isDraw_plan (frame : Frame handles) (commands : List Command) :
    (frame.plan commands).filter Action.isDraw =
      ((frame.submissions commands).filter (·.hasStreams)).map Submission.drawAction := by
  rw [frame.filter_plan commands fun _ => Action.isVerdict_of_isDraw,
    Submission.filter_isDraw_flatMap]

theorem countP_isDraw_plan (frame : Frame handles) (commands : List Command) :
    (frame.plan commands).countP Action.isDraw =
      (frame.submissions commands).countP (·.hasStreams) := by
  rw [List.countP_eq_length_filter, filter_isDraw_plan, List.length_map,
    ← List.countP_eq_length_filter]

end Frame

theorem Submission.samplerName?_of_mem_actions {policy : UnboundUniformPolicy}
    {submission : Submission handles} {action : Action handles}
    (hmem : action ∈ submission.actions policy) : action.samplerName? = none := by
  rcases submission.mem_actions hmem with ⟨_, _, rfl⟩ | ⟨error, rfl, hsubject⟩ | ⟨_, _, rfl⟩ | rfl
  · rfl
  · exact BindingError.samplerName?_eq_none hsubject
  · rfl
  · rfl

namespace Frame

theorem filterMap_samplerName?_renderActions (frame : Frame handles)
    (submissions : Option (List (Submission handles))) :
    (frame.renderActions submissions).filterMap Action.samplerName? = [] := by
  rw [List.filterMap_eq_nil_iff]
  intro action hmem
  cases submissions with
  | none =>
    cases List.mem_singleton.1 hmem
    rfl
  | some submissions =>
    obtain ⟨submission, _, hmem⟩ := List.mem_flatMap.1 hmem
    exact Submission.samplerName?_of_mem_actions hmem

theorem filterMap_samplerName?_actions (frame : Frame handles) (cursor : Cursor)
    (command : Command) :
    (frame.actions cursor command).filterMap Action.samplerName? =
      (frame.unknownSampler? cursor command).toList := by
  cases hunknown : frame.unknownSampler? cursor command with
  | some name =>
    rw [actions_of_unknownSampler? hunknown]
    rfl
  | none =>
    have hquiet (hnone : frame.submissions? cursor command = some []) :
        (frame.actions cursor command).filterMap Action.samplerName? = [] := by
      rw [List.filterMap_eq_nil_iff]
      intro action hmem
      exact Action.samplerName?_eq_none (isQuiet_of_mem_actions hnone hunknown hmem)
    cases command with
    | renderSlot slot => exact frame.filterMap_samplerName?_renderActions _
    | renderStream stream => exact frame.filterMap_samplerName?_renderActions _
    | _ => exact hquiet rfl

theorem filterMap_samplerName?_plan (frame : Frame handles) (commands : List Command) :
    (frame.plan commands).filterMap Action.samplerName? =
      (withEarlier [] commands).filterMap fun place =>
        frame.unknownSampler? (frame.cursorAfter place.1) place.2 := by
  rw [plan, List.filterMap_flatMap, List.filterMap_eq_flatMap_toList]
  congr 1
  funext place
  exact frame.filterMap_samplerName?_actions _ place.2

end Frame

/-- What a frame submits for drawing, in order. -/
def CompiledPipeline.submissions (compiled : CompiledPipeline handles)
    (scene : Option (Scene handles.Buffer)) : List (Submission handles) :=
  (compiled.frame scene).submissions compiled.description.commands

end FramePlan
