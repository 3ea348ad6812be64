import FramePlan.Proofs.Frame.Verdict

/-!
# The turn of a drawable

What is done for a drawable is done in one go, and its draw comes last. So before a draw in the plan of
a frame stand the actions of earlier commands, those for the drawables before it, and in the end what
is bound for the drawable itself.

* `Frame.exists_turn`, `CompiledPipeline.exists_turn`: what stands before a draw.
* `Frame.filterMap_shaders?_plan`: the shaders that a frame binds are those of the programs that its
  commands bind, so the last ones are those of the program that is bound.
-/

namespace FramePlan

variable {handles : Handles}

namespace Submission

/-- Binds a stream, if it can be bound. -/
def streamAction? (submission : Submission handles) (slot : StreamSlot) : Option (Action handles) :=
  match streamBinding slot submission.drawable.streams with
  | .ok binding => some (.setVertexStream slot.location binding)
  | .error _ => none

/-- What is bound for a drawable: uniforms before streams. -/
def bindings (policy : UnboundUniformPolicy) (submission : Submission handles) :
    List (Action handles) :=
  submission.program.uniforms.entries.map (submission.uniformAction policy) ++
    submission.program.streams.values.filterMap submission.streamAction?

theorem streamActions_eq (submission : Submission handles) {slots : List StreamSlot}
    (hall : (slots.all fun slot => (streamBinding slot submission.drawable.streams).isOk) = true) :
    submission.streamActions slots =
      slots.filterMap submission.streamAction? ++ [submission.drawAction] := by
  induction slots with
  | nil => rfl
  | cons slot rest ih =>
    rw [List.all_cons, Bool.and_eq_true] at hall
    rw [streamActions, List.filterMap_cons, streamAction?]
    cases hbinding : streamBinding slot submission.drawable.streams with
    | ok binding => exact congrArg (List.cons _) (ih hall.2)
    | error error =>
      rw [hbinding] at hall
      exact absurd hall.1 Bool.false_ne_true

/-- With all its streams a drawable is bound, then drawn. -/
theorem actions_eq (policy : UnboundUniformPolicy) {submission : Submission handles}
    (hstreams : submission.hasStreams = true) :
    submission.actions policy = submission.bindings policy ++ [submission.drawAction] := by
  rw [actions, submission.streamActions_eq hstreams, bindings, List.append_assoc]

/-- A drawable is not drawn before all that is bound for it. -/
theorem filter_isDraw_bindings (policy : UnboundUniformPolicy) {submission : Submission handles}
    (hstreams : submission.hasStreams = true) :
    (submission.bindings policy).filter Action.isDraw = [] := by
  have hfilter := submission.filter_isDraw_actions policy
  rw [actions_eq policy hstreams, List.filter_append, hstreams, if_pos rfl] at hfilter
  exact List.append_left_eq_self.1 hfilter

/-- The draw of a drawable comes after all that is bound for it. -/
theorem eq_bindings_of_actions_eq {policy : UnboundUniformPolicy} {submission : Submission handles}
    {before after : List (Action handles)} {draw : Action handles}
    (heq : submission.actions policy = before ++ draw :: after) (hdraw : draw.isDraw = true) :
    submission.hasStreams = true ∧ draw = submission.drawAction ∧
      before = submission.bindings policy := by
  have hmem : draw ∈ (submission.actions policy).filter Action.isDraw :=
    List.mem_filter.2 ⟨by simp [heq], hdraw⟩
  have hfilter := submission.filter_isDraw_actions policy
  cases hstreams : submission.hasStreams with
  | false => simp [hfilter, hstreams] at hmem
  | true =>
    have hactions := actions_eq policy hstreams
    rw [hactions] at heq
    -- the only draw is the one at the end
    rcases List.eq_nil_or_concat after with rfl | ⟨inner, last, rfl⟩
    · obtain ⟨hbefore, hlast⟩ := List.append_inj' heq rfl
      exact ⟨rfl, (List.cons.inj hlast).1.symm, hbefore.symm⟩
    · rw [List.concat_eq_append, ← List.cons_append, ← List.append_assoc] at heq
      obtain ⟨hbefore, _⟩ := List.append_inj' heq rfl
      have hearly : draw ∈ (submission.bindings policy).filter Action.isDraw :=
        List.mem_filter.2 ⟨by simp [hbefore], hdraw⟩
      rw [filter_isDraw_bindings policy hstreams] at hearly
      cases hearly

end Submission

namespace Frame

/-- What a command submits is drawn with the program that is bound, in the scene. -/
theorem of_mem_submissions? {frame : Frame handles} {cursor : Cursor} {command : Command}
    {submissions : List (Submission handles)}
    (hsome : frame.submissions? cursor command = some submissions)
    {submission : Submission handles} (hmem : submission ∈ submissions) :
    frame.boundProgram? cursor = some submission.program ∧
      frame.scene = some submission.scene := by
  cases command with
  | renderSlot slot =>
    simp only [submissions?] at hsome
    split at hsome
    · next program scene hprogram hscene =>
      obtain ⟨objects, _, rfl⟩ := Option.map_eq_some_iff.1 hsome
      obtain ⟨object, _, rfl⟩ := List.mem_map.1 hmem
      exact ⟨hprogram, hscene⟩
    · cases hsome
  | renderStream stream =>
    simp only [submissions?] at hsome
    split at hsome
    · next program scene hprogram hscene =>
      obtain ⟨data, _, rfl⟩ := Option.map_eq_some_iff.1 hsome
      cases List.mem_singleton.1 hmem
      exact ⟨hprogram, hscene⟩
    · cases hsome
  | _ =>
    cases hsome
    cases hmem

/-- A command that draws does nothing but what it submits. -/
theorem actions_of_isDraw_mem {frame : Frame handles} {cursor : Cursor} {command : Command}
    {draw : Action handles} (hmem : draw ∈ frame.actions cursor command)
    (hdraw : draw.isDraw = true) :
    ∃ submissions, frame.submissions? cursor command = some submissions ∧
      frame.actions cursor command = submissions.flatMap (·.actions frame.policy) := by
  have hverdict := frame.filter_actions cursor command fun _ => Action.isVerdict_of_isDraw
  have hquiet (hnone : frame.submissions? cursor command = some []) :
      ∃ submissions, frame.submissions? cursor command = some submissions ∧
        frame.actions cursor command = submissions.flatMap (·.actions frame.policy) := by
    rw [hnone] at hverdict
    have hdraws : draw ∈ (frame.actions cursor command).filter Action.isDraw :=
      List.mem_filter.2 ⟨hmem, hdraw⟩
    rw [hverdict] at hdraws
    cases hdraws
  have hrender {submissions : Option (List (Submission handles))}
      (hmem : draw ∈ frame.renderActions submissions) :
      ∃ made, submissions = some made ∧
        frame.renderActions submissions = made.flatMap (·.actions frame.policy) := by
    cases submissions with
    | none =>
      cases List.mem_singleton.1 hmem
      cases hdraw
    | some made => exact ⟨made, rfl, rfl⟩
  cases command with
  | renderSlot slot => exact hrender hmem
  | renderStream stream => exact hrender hmem
  | _ => exact hquiet rfl

/-- An action of a plan is one of a command, and before it stand the actions of earlier commands. -/
theorem exists_of_plan_eq {frame : Frame handles} {commands : List Command}
    {before after : List (Action handles)} {action : Action handles}
    (hplan : frame.plan commands = before ++ action :: after) :
    ∃ earlier command later inside rest, commands = earlier ++ command :: later ∧
      frame.actions (frame.cursorAfter earlier) command = inside ++ action :: rest ∧
      before = frame.plan earlier ++ inside := by
  obtain ⟨places, place, _, inside, rest, hplaces, hactions, hbefore⟩ :=
    exists_of_flatMap_eq hplan
  obtain ⟨earlier, later, hcommands, hplace, rfl⟩ := exists_of_withEarlier_eq hplaces
  rw [List.nil_append] at hplace
  rw [hplace] at hactions
  exact ⟨earlier, place.2, later, inside, rest, hcommands, hactions, hbefore⟩

/-- Before a draw in a plan stand the actions of earlier commands, those for what its command submits
earlier, and what is bound for the drawable. -/
theorem exists_turn {frame : Frame handles} {commands : List Command}
    {before after : List (Action handles)} {draw : Action handles}
    (hplan : frame.plan commands = before ++ draw :: after) (hdraw : draw.isDraw = true) :
    ∃ earlier command later first submission last,
      commands = earlier ++ command :: later ∧
      frame.submissions? (frame.cursorAfter earlier) command =
        some (first ++ submission :: last) ∧
      before = frame.plan earlier ++ first.flatMap (·.actions frame.policy) ++
        submission.bindings frame.policy ∧
      draw = submission.drawAction ∧ submission.hasStreams = true := by
  -- first the command that draws, then the drawable among those that it submits
  obtain ⟨earlier, command, later, inside, rest, hcommands, hactions, hbefore⟩ :=
    exists_of_plan_eq hplan
  have hmem : draw ∈ frame.actions (frame.cursorAfter earlier) command := by simp [hactions]
  obtain ⟨submissions, hsome, hflat⟩ := actions_of_isDraw_mem hmem hdraw
  rw [hflat] at hactions
  obtain ⟨first, submission, last, own, tail, hsubmissions, hown, hinside⟩ :=
    exists_of_flatMap_eq hactions
  obtain ⟨hstreams, hlast, rfl⟩ := Submission.eq_bindings_of_actions_eq hown hdraw
  refine ⟨earlier, command, later, first, submission, last, hcommands, ?_, ?_, hlast, hstreams⟩
  · rw [hsome, hsubmissions]
  · rw [hbefore, hinside, List.append_assoc]

/-- What is submitted before a turn has been drawn in it, unless it is short of a stream. -/
theorem countP_isDraw_turn (frame : Frame handles) (earlier : List Command)
    (first : List (Submission handles)) {submission : Submission handles}
    (hstreams : submission.hasStreams = true) :
    (frame.plan earlier ++ first.flatMap (·.actions frame.policy) ++
        submission.bindings frame.policy).countP Action.isDraw =
      (frame.submissions earlier ++ first).countP (·.hasStreams) := by
  have hbindings : (submission.bindings frame.policy).countP Action.isDraw = 0 := by
    rw [List.countP_eq_length_filter, Submission.filter_isDraw_bindings frame.policy hstreams]
    rfl
  have hfirst : (first.flatMap (·.actions frame.policy)).countP Action.isDraw =
      first.countP (·.hasStreams) := by
    apply countP_flatMap_eq_countP
    intro other _
    exact other.countP_isDraw_actions frame.policy
  rw [List.countP_append, List.countP_append, List.countP_append, countP_isDraw_plan, hbindings,
    hfirst, Nat.add_zero]

/-- What commands submit is what the earlier ones submit, then what one submits, then the rest. -/
theorem exists_submissions_eq {frame : Frame handles} {earlier : List Command}
    {command : Command} {submissions : List (Submission handles)}
    (hsome : frame.submissions? (frame.cursorAfter earlier) command = some submissions)
    (later : List Command) :
    ∃ rest, frame.submissions (earlier ++ command :: later) =
      frame.submissions earlier ++ submissions ++ rest := by
  have hown : (frame.submissions? (frame.cursorAfter ([] ++ earlier)) command).getD [] =
      submissions := by
    rw [List.nil_append, hsome]
    rfl
  refine ⟨(withEarlier ([] ++ earlier ++ [command]) later).flatMap fun place =>
    (frame.submissions? (frame.cursorAfter place.1) place.2).getD [], ?_⟩
  rw [Frame.submissions, withEarlier_append, withEarlier, List.flatMap_append, List.flatMap_cons,
    hown, ← List.append_assoc]
  rfl

end Frame

/-! ## The program of a turn -/

def Action.shaders? : Action handles → Option (handles.Shader × handles.Shader × handles.InputLayout)
  | .setShaders vertex fragment layout => some (vertex, fragment, layout)
  | _ => none

def CompiledProgram.shaders (program : CompiledProgram handles) :
    handles.Shader × handles.Shader × handles.InputLayout :=
  (program.vertex, program.fragment, program.inputLayout)

namespace Submission

theorem shaders?_of_mem_actions {policy : UnboundUniformPolicy} {submission : Submission handles}
    {action : Action handles} (hmem : action ∈ submission.actions policy) :
    action.shaders? = none := by
  rcases submission.mem_actions hmem with ⟨_, _, rfl⟩ | ⟨_, rfl, _⟩ | ⟨_, _, rfl⟩ | rfl
  · rfl
  · rfl
  · rfl
  · rfl

theorem filterMap_shaders?_flatMap (policy : UnboundUniformPolicy)
    (submissions : List (Submission handles)) :
    (submissions.flatMap (·.actions policy)).filterMap Action.shaders? = [] := by
  rw [List.filterMap_eq_nil_iff]
  intro action hmem
  obtain ⟨submission, _, hmem⟩ := List.mem_flatMap.1 hmem
  exact shaders?_of_mem_actions hmem

theorem filterMap_shaders?_bindings (policy : UnboundUniformPolicy)
    {submission : Submission handles} (hstreams : submission.hasStreams = true) :
    (submission.bindings policy).filterMap Action.shaders? = [] := by
  rw [List.filterMap_eq_nil_iff]
  intro action hmem
  have hactions : action ∈ submission.actions policy := by
    rw [actions_eq policy hstreams]
    exact List.mem_append_left _ hmem
  exact shaders?_of_mem_actions hactions

end Submission

namespace Frame

def programOf? (frame : Frame handles) : Command → Option (CompiledProgram handles)
  | .setProgram index => frame.resources.programs[index]?
  | _ => none

theorem boundProgram?_advance (frame : Frame handles) (cursor : Cursor) (command : Command) :
    frame.boundProgram? (frame.advance cursor command) =
      (frame.programOf? command).or (frame.boundProgram? cursor) := by
  cases command with
  | setProgram index =>
    simp only [advance, programOf?]
    cases hprogram : frame.resources.programs[index]? with
    | none => rfl
    | some program => simpa [boundProgram?] using hprogram
  | setRenderTarget index =>
    simp only [advance]
    split
    · rfl
    · rfl
  | _ => rfl

/-- The program that is bound is the last one that a command binds. -/
theorem boundProgram?_cursorAfter (frame : Frame handles) (commands : List Command) :
    frame.boundProgram? (frame.cursorAfter commands) =
      (commands.filterMap frame.programOf?).getLast? := by
  have hlast : frame.boundProgram? (commands.foldl frame.advance {}) =
      (commands.filterMap frame.programOf?).getLast?.or (frame.boundProgram? {}) :=
    foldl_eq_getLast? frame.boundProgram? frame.advance
      (fun cursor command _ => frame.boundProgram?_advance cursor command) {}
  exact hlast.trans Option.or_none

theorem filterMap_shaders?_renderActions (frame : Frame handles)
    (submissions : Option (List (Submission handles))) :
    (frame.renderActions submissions).filterMap Action.shaders? = [] := by
  cases submissions with
  | none => rfl
  | some submissions => exact Submission.filterMap_shaders?_flatMap frame.policy submissions

/-- A command binds the shaders of its program, if it has one, and no others. -/
theorem filterMap_shaders?_actions (frame : Frame handles) (cursor : Cursor) (command : Command) :
    (frame.actions cursor command).filterMap Action.shaders? =
      ((frame.programOf? command).map CompiledProgram.shaders).toList := by
  cases command with
  | setRasterContext context => rfl
  | setAccumulationContext context => rfl
  | setTexture textureUnit index =>
    simp only [actions]
    split
    · rfl
    · rfl
  | setProgram index =>
    simp only [actions, programOf?]
    cases frame.resources.programs[index]? with
    | none => rfl
    | some program => rfl
  | setRenderTarget index =>
    simp only [actions]
    split
    · cases frame.viewport? with
      | none => rfl
      | some viewport => rfl
    · rfl
  | clearRenderTarget images =>
    simp only [actions]
    split
    · apply List.filterMap_eq_nil_iff.2
      intro action hmem
      obtain ⟨_, _, rfl⟩ | ⟨_, _, _, rfl⟩ := ClearRequest.mem_actions hmem
      · rfl
      · rfl
    · rfl
  | setSamplerUniform name textureUnit =>
    simp only [actions]
    split
    · split
      · rfl
      · rfl
    · rfl
  | renderSlot slot => exact frame.filterMap_shaders?_renderActions _
  | renderStream stream => exact frame.filterMap_shaders?_renderActions _

/-- The results of a filter map over a plan are those of its commands, if they are for the actions of each
command, whatever is bound. -/
theorem filterMap_plan {β : Type} {frame : Frame handles} {select : Action handles → Option β}
    {expected : Command → Option β} (hactions : ∀ cursor command,
      (frame.actions cursor command).filterMap select = (expected command).toList)
    (commands : List Command) :
    (frame.plan commands).filterMap select = commands.filterMap expected := by
  have hplaces (earlier : List Command) :
      ((withEarlier earlier commands).flatMap fun place =>
        frame.actions (frame.cursorAfter place.1) place.2).filterMap select =
          commands.filterMap expected := by
    induction commands generalizing earlier with
    | nil => rfl
    | cons command rest ih =>
      rw [withEarlier, List.flatMap_cons, List.filterMap_append, hactions,
        ih (earlier ++ [command]), List.filterMap_cons]
      cases expected command with
      | none => rfl
      | some found => rfl
  exact hplaces []

/-- The shaders that commands bind are those of the programs that they bind. -/
theorem filterMap_shaders?_plan (frame : Frame handles) (commands : List Command) :
    (frame.plan commands).filterMap Action.shaders? =
      (commands.filterMap frame.programOf?).map CompiledProgram.shaders := by
  rw [filterMap_plan frame.filterMap_shaders?_actions, List.map_filterMap]

/-- The shaders that commands bind last are those of the program that is bound. -/
theorem getLast?_shaders?_plan (frame : Frame handles) (commands : List Command) :
    ((frame.plan commands).filterMap Action.shaders?).getLast? =
      (frame.boundProgram? (frame.cursorAfter commands)).map CompiledProgram.shaders := by
  rw [filterMap_shaders?_plan, List.getLast?_map, boundProgram?_cursorAfter]

/-- In the turn of a drawable the shaders of its program are bound. -/
theorem getLast?_shaders?_turn {frame : Frame handles} {earlier : List Command}
    {command : Command} {first last : List (Submission handles)} {submission : Submission handles}
    (hsome : frame.submissions? (frame.cursorAfter earlier) command =
      some (first ++ submission :: last)) (hstreams : submission.hasStreams = true) :
    ((frame.plan earlier ++ first.flatMap (·.actions frame.policy) ++
        submission.bindings frame.policy).filterMap Action.shaders?).getLast? =
      some submission.program.shaders := by
  have hmem : submission ∈ first ++ submission :: last := List.mem_append_cons_self
  rw [List.filterMap_append, List.filterMap_append, Submission.filterMap_shaders?_flatMap,
    submission.filterMap_shaders?_bindings _ hstreams, List.append_nil, List.append_nil,
    getLast?_shaders?_plan, (of_mem_submissions? hsome hmem).1]
  rfl

end Frame

/-- A draw of a frame is the turn of a drawable: as many draws stand before it as drawables that are not
short of a stream, its program has been bound last, and what is bound for it comes right before. -/
theorem CompiledPipeline.exists_turn {compiled : CompiledPipeline handles}
    {scene : Option (Scene handles.Buffer)} {before after : List (Action handles)}
    {draw : Action handles} (hplan : compiled.plan scene = before ++ draw :: after)
    (hdraw : draw.isDraw = true) :
    ∃ passed submission rest others, ∃ index : Nat,
      compiled.submissions scene = passed ++ submission :: rest ∧
      before.countP Action.isDraw = passed.countP (·.hasStreams) ∧
      submission.hasStreams = true ∧
      before = others ++ submission.bindings compiled.config.unboundUniforms ∧
      draw = submission.drawAction ∧
      compiled.resources.programs[index]? = some submission.program ∧
      (before.filterMap Action.shaders?).getLast? = some submission.program.shaders := by
  obtain ⟨earlier, command, later, first, submission, last, hcommands, hsome, hbefore, hlast,
    hstreams⟩ := Frame.exists_turn hplan hdraw
  obtain ⟨index, _, hindex⟩ := Option.bind_eq_some_iff.1
    (Frame.of_mem_submissions? hsome List.mem_append_cons_self).1
  have hpassed : before.countP Action.isDraw =
      ((compiled.frame scene).submissions earlier ++ first).countP (·.hasStreams) := by
    rw [hbefore, Frame.countP_isDraw_turn _ _ _ hstreams]
  have hshaders := Frame.getLast?_shaders?_turn hsome hstreams
  rw [← hbefore] at hshaders
  obtain ⟨rest, hsubmissions⟩ := Frame.exists_submissions_eq hsome later
  refine ⟨_, submission, last ++ rest, _, index, ?_, hpassed, hstreams, hbefore, hlast, hindex,
    hshaders⟩
  rw [CompiledPipeline.submissions, hcommands, hsubmissions]
  simp only [List.append_assoc, List.cons_append]

end FramePlan
