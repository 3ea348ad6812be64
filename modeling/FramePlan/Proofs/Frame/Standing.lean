import FramePlan.Proofs.Device.Standing
import FramePlan.Proofs.Frame.Turn

/-!
# What a frame finds bound

A frame binds the shaders of a program before it draws anything with it, so no draw finds the shaders
of an earlier frame. A target is another matter: until a command of the frame binds one, the device has
the target that it had when the frame began.

* `Frame.any_bindsShaders_of_turn`: shaders are bound in a frame before it draws.
* `Frame.filterMap_targets?_plan`: the targets that a frame binds are those of its commands.
* `Frame.hasTarget_run`: the target that a command finds.
-/

namespace FramePlan

variable {State : Type} {handles : Handles}

open Device (Retains)

/-- Whether a target has anything to draw to. -/
def CompiledTarget.hasView (target : CompiledTarget handles) : Bool :=
  target.color.isSome || target.depth.isSome

/-- The color view and the depth view of a target. -/
def CompiledTarget.views (target : CompiledTarget handles) :
    Option handles.RenderView × Option handles.DepthView :=
  (target.color, target.depth)

/-- The views that an action binds as the target. -/
def Action.targets? : Action handles → Option (Option handles.RenderView × Option handles.DepthView)
  | .setRenderTargets color depth => some (color, depth)
  | _ => none

/-- Whether there is a target after actions is up to the views that they bind. -/
theorem Action.filterMap_bindsTarget? (actions : List (Action handles)) :
    actions.filterMap bindsTarget? =
      (actions.filterMap targets?).map fun views => views.1.isSome || views.2.isSome := by
  rw [List.map_filterMap]
  apply List.filterMap_congr
  intro action _
  cases action <;> rfl

theorem Submission.targets?_of_mem_actions {policy : UnboundUniformPolicy}
    {submission : Submission handles} {action : Action handles}
    (hmem : action ∈ submission.actions policy) : action.targets? = none := by
  rcases submission.mem_actions hmem with ⟨_, _, rfl⟩ | ⟨_, rfl, _⟩ | ⟨_, _, rfl⟩ | rfl
  · rfl
  · rfl
  · rfl
  · rfl

def Resources.targetOf? (resources : Resources handles) : Command → Option (CompiledTarget handles)
  | .setRenderTarget index => resources.targets[index]?
  | _ => none

namespace Frame

theorem filterMap_targets?_renderActions (frame : Frame handles)
    (submissions : Option (List (Submission handles))) :
    (frame.renderActions submissions).filterMap Action.targets? = [] := by
  cases submissions with
  | none => rfl
  | some submissions =>
    rw [List.filterMap_eq_nil_iff]
    intro action hmem
    obtain ⟨submission, _, hmem⟩ := List.mem_flatMap.1 hmem
    exact Submission.targets?_of_mem_actions hmem

/-- A command binds its target, if it has one, and no other. -/
theorem filterMap_targets?_actions (frame : Frame handles) (cursor : Cursor)
    (command : Command) :
    (frame.actions cursor command).filterMap Action.targets? =
      ((frame.resources.targetOf? command).map CompiledTarget.views).toList := by
  cases command with
  | setRasterContext context => rfl
  | setAccumulationContext context => rfl
  | setTexture textureUnit index =>
    simp only [actions]
    split
    · rfl
    · rfl
  | setProgram index =>
    simp only [actions]
    split
    · rfl
    · rfl
  | setRenderTarget index =>
    simp only [actions, Resources.targetOf?]
    cases frame.resources.targets[index]? with
    | none => rfl
    | some target =>
      cases frame.viewport? with
      | none => rfl
      | some viewport => rfl
  | clearRenderTarget images =>
    simp only [actions]
    split
    · apply List.filterMap_eq_nil_iff.2
      intro action hmem
      obtain ⟨_, _, rfl⟩ | ⟨_, _, _, rfl⟩ := ClearRequest.mem_actions hmem
      · rfl
      · rfl
    · rfl
  | setSamplerUniform name textureUnit =>
    simp only [actions]
    split
    · split
      · rfl
      · rfl
    · rfl
  | renderSlot slot => exact frame.filterMap_targets?_renderActions _
  | renderStream stream => exact frame.filterMap_targets?_renderActions _

theorem filterMap_targets?_plan (frame : Frame handles) (commands : List Command) :
    (frame.plan commands).filterMap Action.targets? =
      (commands.filterMap frame.resources.targetOf?).map CompiledTarget.views := by
  rw [filterMap_plan frame.filterMap_targets?_actions, List.map_filterMap]

/-- Whether a target is bound, of the targets that commands bind. -/
theorem filterMap_bindsTarget?_plan (frame : Frame handles) (commands : List Command) :
    (frame.plan commands).filterMap Action.bindsTarget? =
      (commands.filterMap frame.resources.targetOf?).map CompiledTarget.hasView := by
  rw [Action.filterMap_bindsTarget?, filterMap_targets?_plan, List.map_map]
  rfl

/-- Whatever a command submits is drawn with its primitive, unless it is short of a stream. -/
theorem filterMap_draw?_actions (frame : Frame handles) (cursor : Cursor) (command : Command) :
    (frame.actions cursor command).filterMap Action.draw? =
      (((frame.submissions? cursor command).getD []).filter (·.hasStreams)).map
        fun submission => (submission.drawable.primitive, submission.drawable.vertexCount) := by
  have hdraws : (frame.actions cursor command).filterMap Action.draw? =
      ((frame.actions cursor command).filter Action.isDraw).filterMap Action.draw? := by
    rw [List.filterMap_filter]
    apply List.filterMap_congr
    intro action _
    cases action <;> rfl
  rw [hdraws, frame.filter_actions cursor command fun _ => Action.isVerdict_of_isDraw,
    Submission.filter_isDraw_flatMap, List.filterMap_map]
  exact congrFun (List.filterMap_eq_map (f := fun submission : Submission handles =>
    (submission.drawable.primitive, submission.drawable.vertexCount))) _

theorem any_bindsShaders_plan {frame : Frame handles} {commands : List Command}
    {program : CompiledProgram handles}
    (hbound : frame.boundProgram? (frame.cursorAfter commands) = some program) :
    (frame.plan commands).any Action.bindsShaders = true := by
  have hlast := frame.getLast?_shaders?_plan commands
  rw [hbound] at hlast
  obtain ⟨action, hmem, hshaders⟩ := List.mem_filterMap.1 (List.mem_of_getLast? hlast)
  refine List.any_eq_true.2 ⟨action, hmem, ?_⟩
  cases action with
  | setShaders vertex fragment layout => rfl
  | _ => cases hshaders

/-- Before a frame draws anything, it has bound shaders. -/
theorem any_bindsShaders_of_turn {frame : Frame handles} {commands : List Command}
    {before after : List (Action handles)} {draw : Action handles}
    (hplan : frame.plan commands = before ++ draw :: after) (hdraw : draw.isDraw = true) :
    before.any Action.bindsShaders = true := by
  obtain ⟨earlier, command, later, first, submission, last, _, hsome, hbefore, _, _⟩ :=
    exists_turn hplan hdraw
  have hmem : submission ∈ first ++ submission :: last := by simp
  have hearlier := any_bindsShaders_plan (of_mem_submissions? hsome hmem).1
  rw [hbefore, List.any_append, List.any_append, hearlier]
  rfl

section Retaining

variable [Device State handles] [Retains State]

/-- A command finds the target that the last earlier command has bound. If there is none, it finds the
one that the device had when the frame began. -/
theorem hasTarget_run (frame : Frame handles) (earlier : List Command) (device : State) :
    Retains.hasTarget (frame.run earlier device).device =
      ((earlier.filterMap frame.resources.targetOf?).getLast?.map CompiledTarget.hasView).getD
        (Retains.hasTarget device) := by
  rw [run_eq_perform]
  dsimp only
  rw [foldl_perform_device, hasTarget_foldl_apply, filterMap_bindsTarget?_plan, List.getLast?_map]

theorem hasShaders_run {frame : Frame handles} {earlier : List Command}
    {program : CompiledProgram handles}
    (hbound : frame.boundProgram? (frame.cursorAfter earlier) = some program) (device : State) :
    Retains.hasShaders (frame.run earlier device).device = true := by
  rw [run_eq_perform]
  dsimp only
  rw [foldl_perform_device, hasShaders_foldl_apply, any_bindsShaders_plan hbound, Bool.true_or]

end Retaining

end Frame

end FramePlan
