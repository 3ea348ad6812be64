import FramePlan.Proofs.Frame.Report
import FramePlan.Proofs.Outline

/-!
# Outlines of frames

What a frame does is determined by the outlines of its resources and its scene, up to the handles that
it passes on. So frames with one outline have plans with one outline, on whatever devices.

* `Frame.map_outline_plan`: the outline of a plan is the plan of the outline.
* `CompiledPipeline.map_outline_plan_eq`: pipelines and scenes with one outline have plans with one.
-/

namespace FramePlan

variable {State : Type} {handles other : Handles}

def Drawable.outline {Handle : Type} (drawable : Drawable Handle) : Drawable Unit where
  object := drawable.object.map Object.outline
  streams := Streams.outline drawable.streams
  primitive := drawable.primitive
  vertexCount := drawable.vertexCount

def Submission.outline (submission : Submission handles) : Submission blank where
  program := submission.program.outline
  scene := submission.scene.outline
  drawable := submission.drawable.outline

def Frame.outline (frame : Frame handles) : Frame blank where
  resources := frame.resources.outline
  slots := frame.slots
  policy := frame.policy
  scene := frame.scene.map Scene.outline

def Action.outline : Action handles → Action blank
  | .setShaders _ _ _ => .setShaders () () ()
  | .setRenderTargets color depth =>
    .setRenderTargets (color.map fun _ => ()) (depth.map fun _ => ())
  | .setViewport viewport => .setViewport viewport
  | .setRasterState context => .setRasterState context
  | .setAccumulationState context => .setAccumulationState context
  | .setTexture textureUnit _ _ => .setTexture textureUnit () ()
  | .setSamplerUniform slot textureUnit => .setSamplerUniform slot textureUnit
  | .setUniform slot value => .setUniform slot value
  | .setVertexStream location binding => .setVertexStream location binding.outline
  | .clearRenderView _ color => .clearRenderView () color
  | .clearDepthStencilView _ depth stencil => .clearDepthStencilView () depth stencil
  | .draw primitive vertexCount => .draw primitive vertexCount
  | .skip => .skip
  | .fail error => .fail error

namespace Action

@[simp]
theorem isSkip_outline (action : Action handles) : action.outline.isSkip = action.isSkip := by
  cases action <;> rfl

@[simp]
theorem error?_outline (action : Action handles) : action.outline.error? = action.error? := by
  cases action <;> rfl

@[simp]
theorem isDraw_outline (action : Action handles) : action.outline.isDraw = action.isDraw := by
  cases action <;> rfl

theorem countP_isSkip_outline (actions : List (Action handles)) :
    (actions.map outline).countP isSkip = actions.countP isSkip := by
  rw [List.countP_map]
  congr 1
  funext action
  exact action.isSkip_outline

theorem filterMap_error?_outline (actions : List (Action handles)) :
    (actions.map outline).filterMap error? = actions.filterMap error? := by
  rw [List.filterMap_map]
  congr 1
  funext action
  exact action.error?_outline

theorem exists_of_isDraw {action : Action handles} (hdraw : action.isDraw = true) :
    ∃ primitive vertexCount, action = .draw primitive vertexCount := by
  cases action with
  | draw primitive vertexCount => exact ⟨primitive, vertexCount, rfl⟩
  | _ => cases hdraw

theorem answer?_eq_none [Device State handles] {action : Action handles}
    (hdraw : action.isDraw = false) (device : State) : action.answer? device = none := by
  cases action with
  | draw primitive vertexCount => cases hdraw
  | _ => rfl

/-- The outline of a draw is the draw itself. -/
theorem eq_draw_of_outline {action : Action handles} {primitive : Primitive} {vertexCount : UInt32}
    (houtline : action.outline = .draw primitive vertexCount) :
    action = .draw primitive vertexCount := by
  cases action <;> cases houtline
  rfl

end Action

namespace Submission

theorem uniformAction_outline (policy : UnboundUniformPolicy) (submission : Submission handles)
    (entry : String × UniformSlot) :
    submission.outline.uniformAction policy entry =
      (submission.uniformAction policy entry).outline := by
  have hvalue := uniformValue_outline entry.1 entry.2 submission.drawable.object submission.scene
    policy
  simp only [uniformAction, outline, Drawable.outline, hvalue]
  cases uniformValue entry.1 entry.2 submission.drawable.object submission.scene policy with
  | ok value => rfl
  | error error => rfl

theorem streamActions_outline (submission : Submission handles) (slots : List StreamSlot) :
    submission.outline.streamActions slots =
      (submission.streamActions slots).map Action.outline := by
  induction slots with
  | nil => rfl
  | cons slot rest ih =>
    have hbinding : streamBinding slot submission.outline.drawable.streams =
        (streamBinding slot submission.drawable.streams).map StreamBinding.outline :=
      streamBinding_outline slot submission.drawable.streams
    rw [streamActions, streamActions, ih, hbinding]
    cases streamBinding slot submission.drawable.streams with
    | ok binding => rfl
    | error error => rfl

theorem actions_outline (policy : UnboundUniformPolicy) (submission : Submission handles) :
    submission.outline.actions policy = (submission.actions policy).map Action.outline := by
  have huniforms : submission.outline.program.uniforms.entries.map
      (submission.outline.uniformAction policy) =
        (submission.program.uniforms.entries.map
          (submission.uniformAction policy)).map Action.outline := by
    rw [List.map_map]
    apply List.map_congr_left
    intro entry _
    exact submission.uniformAction_outline policy entry
  rw [actions, actions, List.map_append, huniforms, streamActions_outline]
  rfl

end Submission

theorem ClearRequest.actions_outline (request : ClearRequest) (target : CompiledTarget handles) :
    request.actions target.outline = (request.actions target).map Action.outline := by
  rw [actions, actions, List.map_append]
  congr 1
  · simp only [CompiledTarget.outline]
    cases request.color with
    | none => rfl
    | some color =>
      cases target.color with
      | none => rfl
      | some view => rfl
  · simp only [CompiledTarget.outline]
    cases target.depth with
    | none => rfl
    | some view =>
      simp only [Option.map_some]
      split
      · rfl
      · rfl

namespace Frame

theorem boundProgram?_outline (frame : Frame handles) (cursor : Cursor) :
    frame.outline.boundProgram? cursor =
      (frame.boundProgram? cursor).map CompiledProgram.outline := by
  rw [boundProgram?, boundProgram?, Option.map_bind]
  congr 1
  funext index
  exact List.getElem?_map

theorem boundTarget?_outline (frame : Frame handles) (cursor : Cursor) :
    frame.outline.boundTarget? cursor =
      (frame.boundTarget? cursor).map CompiledTarget.outline := by
  rw [boundTarget?, boundTarget?, Option.map_bind]
  congr 1
  funext index
  exact List.getElem?_map

theorem viewport?_outline (frame : Frame handles) :
    frame.outline.viewport? = frame.viewport? := by
  rw [viewport?, viewport?, outline, Option.map_map]
  rfl

theorem submissions?_outline (frame : Frame handles) (cursor : Cursor) (command : Command) :
    frame.outline.submissions? cursor command =
      (frame.submissions? cursor command).map (List.map Submission.outline) := by
  have hscene : frame.outline.scene = frame.scene.map Scene.outline := rfl
  cases command with
  | renderSlot slot =>
    simp only [submissions?, boundProgram?_outline, hscene]
    cases frame.boundProgram? cursor with
    | none => rfl
    | some program =>
      cases frame.scene with
      | none => rfl
      | some scene =>
        have hgroup (slot : Slot) : scene.outline.objects.get? slot.name =
            (scene.objects.get? slot.name).map (List.map Object.outline) :=
          Table.get?_mapValues _ _ _
        have hslots : frame.outline.slots = frame.slots := rfl
        simp only [Option.map_some, hslots, hgroup]
        cases frame.slots[slot]? with
        | none => rfl
        | some slot =>
          simp only [Option.bind_some, Option.map_map]
          congr 1
          funext objects
          simp only [Function.comp_apply, drawnObjects_outline, List.map_map]
          rfl
  | renderStream stream =>
    simp only [submissions?, boundProgram?_outline, hscene]
    cases frame.boundProgram? cursor with
    | none => rfl
    | some program =>
      cases frame.scene with
      | none => rfl
      | some scene =>
        have hstreams : frame.outline.resources.streams[stream]? =
            (frame.resources.streams[stream]?).map CompiledStreams.outline := List.getElem?_map
        simp only [Option.map_some, hstreams, Option.map_map]
        rfl
  | _ => rfl

theorem renderActions_outline (frame : Frame handles)
    (submissions : Option (List (Submission handles))) :
    frame.outline.renderActions (submissions.map (List.map Submission.outline)) =
      (frame.renderActions submissions).map Action.outline := by
  cases submissions with
  | none => rfl
  | some submissions =>
    rw [renderActions, Option.map_some, renderActions, List.flatMap_map, List.map_flatMap]
    congr 1
    funext submission
    exact submission.actions_outline frame.policy

theorem actions_outline (frame : Frame handles) (cursor : Cursor) (command : Command) :
    frame.outline.actions cursor command = (frame.actions cursor command).map Action.outline := by
  cases command with
  | setRasterContext context => rfl
  | setAccumulationContext context => rfl
  | setTexture textureUnit index =>
    have htexture : frame.outline.resources.textures[index]? =
        (frame.resources.textures[index]?).map CompiledTexture.outline := List.getElem?_map
    simp only [actions, htexture]
    cases frame.resources.textures[index]? with
    | none => rfl
    | some texture => rfl
  | setProgram index =>
    have hprogram : frame.outline.resources.programs[index]? =
        (frame.resources.programs[index]?).map CompiledProgram.outline := List.getElem?_map
    simp only [actions, hprogram]
    cases frame.resources.programs[index]? with
    | none => rfl
    | some program => rfl
  | setRenderTarget index =>
    have htarget : frame.outline.resources.targets[index]? =
        (frame.resources.targets[index]?).map CompiledTarget.outline := List.getElem?_map
    simp only [actions, htarget, viewport?_outline]
    cases frame.resources.targets[index]? with
    | none => rfl
    | some target =>
      cases frame.viewport? with
      | none => rfl
      | some viewport => rfl
  | clearRenderTarget images =>
    simp only [actions, boundTarget?_outline]
    cases frame.boundTarget? cursor with
    | none => rfl
    | some target => exact ClearRequest.actions_outline _ target
  | setSamplerUniform name textureUnit =>
    simp only [actions, boundProgram?_outline]
    cases frame.boundProgram? cursor with
    | none => rfl
    | some program =>
      have hslot : samplerSlot name program.outline = samplerSlot name program := rfl
      simp only [Option.map_some, hslot]
      cases samplerSlot name program with
      | error error => rfl
      | ok slot => rfl
  | renderSlot slot =>
    rw [actions, actions, submissions?_outline]
    exact frame.renderActions_outline _
  | renderStream stream =>
    rw [actions, actions, submissions?_outline]
    exact frame.renderActions_outline _

theorem advance_outline (frame : Frame handles) : frame.outline.advance = frame.advance := by
  funext cursor command
  cases command with
  | setProgram index =>
    have hprogram : frame.outline.resources.programs[index]? =
        (frame.resources.programs[index]?).map CompiledProgram.outline := List.getElem?_map
    simp only [advance, hprogram, Option.isSome_map]
  | setRenderTarget index =>
    have htarget : frame.outline.resources.targets[index]? =
        (frame.resources.targets[index]?).map CompiledTarget.outline := List.getElem?_map
    simp only [advance, htarget, Option.isSome_map, viewport?_outline]
  | _ => rfl

theorem cursorAfter_outline (frame : Frame handles) (commands : List Command) :
    frame.outline.cursorAfter commands = frame.cursorAfter commands := by
  rw [cursorAfter, cursorAfter, advance_outline]

theorem map_outline_plan (frame : Frame handles) (commands : List Command) :
    (frame.plan commands).map Action.outline = frame.outline.plan commands := by
  rw [plan, plan, List.map_flatMap]
  congr 1
  funext place
  rw [cursorAfter_outline, actions_outline]

end Frame

/-- Compiled pipelines and scenes with one outline have plans with one outline. -/
theorem CompiledPipeline.map_outline_plan_eq {compiled : CompiledPipeline handles}
    {twin : CompiledPipeline other} (hcompiled : compiled.outline = twin.outline)
    {scene : Option (Scene handles.Buffer)} {twinScene : Option (Scene other.Buffer)}
    (hscene : scene.map Scene.outline = twinScene.map Scene.outline) :
    (compiled.plan scene).map Action.outline = (twin.plan twinScene).map Action.outline := by
  have hdescription : compiled.description = twin.description :=
    congrArg CompiledPipeline.description hcompiled
  have hframe : (compiled.frame scene).outline = (twin.frame twinScene).outline := by
    have hresources : compiled.resources.outline = twin.resources.outline :=
      congrArg CompiledPipeline.resources hcompiled
    have hconfig : compiled.config = twin.config := congrArg CompiledPipeline.config hcompiled
    simp only [frame, Frame.outline, hdescription, hresources, hconfig, hscene]
  rw [plan, plan, Frame.map_outline_plan, Frame.map_outline_plan, hframe, hdescription]

end FramePlan
