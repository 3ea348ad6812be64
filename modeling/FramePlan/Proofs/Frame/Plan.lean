import FramePlan.Engine
import FramePlan.Proofs.Binding
import FramePlan.Proofs.Lists

/-!
# The plan of a frame

What a frame asks of its device, and what it reports about commands and names, depends on the
compiled resources and the scene only; nothing that the device answers changes what is asked next.
The plan of a frame lists its actions in order, and running the frame is performing its plan.

* `Submission.actions`: what is done for something that is drawn.
* `Frame.mem_actions`: what a command does, and what for.
* `Frame.plan`: what commands do, one after the other.
* `Frame.run_eq_perform`: running commands is performing their plan.
-/

namespace FramePlan

variable {State : Type} {handles : Handles}

/-- One thing that a frame does: a call of the device, a draw, or an entry in the report. -/
inductive Action (handles : Handles) where
  | setShaders (vertex fragment : handles.Shader) (layout : handles.InputLayout)
  | setRenderTargets (color : Option handles.RenderView) (depth : Option handles.DepthView)
  | setViewport (viewport : Viewport)
  | setRasterState (context : RasterContext)
  | setAccumulationState (context : AccumulationContext)
  | setTexture (textureUnit : UInt32) (image : handles.Image) (sampler : handles.Sampler)
  | setSamplerUniform (slot : SamplerSlot) (textureUnit : UInt32)
  | setUniform (slot : ResourceSlot) (value : Value)
  | setVertexStream (location : Nat) (binding : StreamBinding handles.Buffer)
  | clearRenderView (view : handles.RenderView) (color : Vector Single 4)
  | clearDepthStencilView (view : handles.DepthView) (depth : Option Single)
      (stencil : Option UInt32)
  | draw (primitive : Primitive) (vertexCount : UInt32)
  | skip
  | fail (error : BindingError)

namespace Action

def isSkip : Action handles → Bool
  | .skip => true
  | _ => false

def isDraw : Action handles → Bool
  | .draw _ _ => true
  | _ => false

/-- The primitive that an action draws, and the number of its vertices. -/
def draw? : Action handles → Option (Primitive × UInt32)
  | .draw primitive vertexCount => some (primitive, vertexCount)
  | _ => none

/-- Whether an action is done neither for a drawable nor for a sampler. -/
def isGeneral : Action handles → Bool
  | .setSamplerUniform _ _ | .setUniform _ _ | .setVertexStream _ _ | .draw _ _ | .fail _ => false
  | _ => true

def error? : Action handles → Option BindingError
  | .fail error => some error
  | _ => none

variable [Device State handles]

/-- The device after an action. -/
def apply : Action handles → State → State
  | .setShaders vertex fragment layout => Device.setShaders vertex fragment layout
  | .setRenderTargets color depth => Device.setRenderTargets color depth
  | .setViewport viewport => Device.setViewport viewport
  | .setRasterState context => Device.setRasterState context
  | .setAccumulationState context => Device.setAccumulationState context
  | .setTexture textureUnit image sampler => Device.setTexture textureUnit image sampler
  | .setSamplerUniform slot textureUnit => Device.setSamplerUniform slot textureUnit
  | .setUniform slot value => Device.setUniform slot value
  | .setVertexStream location binding => Device.setVertexStream location binding
  | .clearRenderView view color => Device.clearRenderView view color
  | .clearDepthStencilView view depth stencil => Device.clearDepthStencilView view depth stencil
  | .draw primitive vertexCount => fun device => (Device.draw primitive vertexCount device).2
  | .skip | .fail _ => id

/-- What the device answers to an action; only a draw is answered. -/
def answer? : Action handles → State → Option (Except DeviceError Unit)
  | .draw primitive vertexCount, device => some (Device.draw primitive vertexCount device).1
  | _, _ => none

end Action

namespace FrameReport

/-- What is reported of an action and the answer to it. -/
def note (report : FrameReport) : Action handles → Option (Except DeviceError Unit) → FrameReport
  | .skip, _ => report.withSkip
  | .fail error, _ => report.withError (.binding error)
  | _, some (.ok ()) => report.withDraw
  | _, some (.error error) => report.withError (.device error)
  | _, none => report

/-- The binding errors of a report, oldest first. -/
def bindingErrors (report : FrameReport) : List BindingError :=
  report.errors.filterMap fun
    | .binding error => some error
    | .device _ => none

/-- The device errors of a report, oldest first. -/
def deviceErrors (report : FrameReport) : List DeviceError :=
  report.errors.filterMap fun
    | .binding _ => none
    | .device error => some error

end FrameReport

def FrameState.perform [Device State handles] (state : FrameState State)
    (action : Action handles) : FrameState State :=
  { state with
    device := action.apply state.device
    report := state.report.note action (action.answer? state.device) }

/-- Something that is drawn, with the program and the scene that it is drawn with. -/
structure Submission (handles : Handles) where
  program : CompiledProgram handles
  scene : Scene handles.Buffer
  drawable : Drawable handles.Buffer

namespace Submission

/-- Submits a uniform, or reports why it has no value. -/
def uniformAction (policy : UnboundUniformPolicy) (submission : Submission handles)
    (entry : String × UniformSlot) : Action handles :=
  match uniformValue entry.1 entry.2 submission.drawable.object submission.scene policy with
  | .ok value => .setUniform entry.2.slot value
  | .error error => .fail error

/-- Binds streams up to the first that cannot be bound. If there is none, the drawable is drawn. -/
def streamActions (submission : Submission handles) : List StreamSlot → List (Action handles)
  | [] => [.draw submission.drawable.primitive submission.drawable.vertexCount]
  | slot :: rest =>
    match streamBinding slot submission.drawable.streams with
    | .ok binding => .setVertexStream slot.location binding :: submission.streamActions rest
    | .error error => [.fail error]

def actions (policy : UnboundUniformPolicy) (submission : Submission handles) :
    List (Action handles) :=
  submission.program.uniforms.entries.map (submission.uniformAction policy) ++
    submission.streamActions submission.program.streams.values

/-- The draw that is asked for in the end. -/
def drawAction (submission : Submission handles) : Action handles :=
  .draw submission.drawable.primitive submission.drawable.vertexCount

theorem uniformAction_cases (policy : UnboundUniformPolicy) (submission : Submission handles)
    (entry : String × UniformSlot) :
    (∃ value, submission.uniformAction policy entry = .setUniform entry.2.slot value) ∨
      ∃ error, submission.uniformAction policy entry = .fail error ∧ error.subject = .uniform := by
  unfold uniformAction
  cases hvalue : uniformValue entry.1 entry.2 submission.drawable.object submission.scene policy with
  | ok value => exact .inl ⟨value, rfl⟩
  | error error => exact .inr ⟨error, rfl, subject_of_uniformValue hvalue⟩

/-- Streams are bound until one cannot be, which is reported; after the last one the drawable is drawn. -/
theorem mem_streamActions (submission : Submission handles) {slots : List StreamSlot}
    {action : Action handles} (hmem : action ∈ submission.streamActions slots) :
    (∃ slot ∈ slots, ∃ error, action = .fail error ∧
        streamBinding slot submission.drawable.streams = .error error) ∨
      (∃ slot ∈ slots, ∃ binding, action = .setVertexStream slot.location binding ∧
        streamBinding slot submission.drawable.streams = .ok binding) ∨
      action = submission.drawAction := by
  induction slots with
  | nil => exact .inr (.inr (List.mem_singleton.1 hmem))
  | cons slot rest ih =>
    rw [streamActions] at hmem
    cases hbinding : streamBinding slot submission.drawable.streams with
    | ok binding =>
      rw [hbinding] at hmem
      rcases List.mem_cons.1 hmem with rfl | hrest
      · exact .inr (.inl ⟨slot, List.mem_cons_self, binding, rfl, hbinding⟩)
      · rcases ih hrest with ⟨other, hother, hfail⟩ | ⟨other, hother, hset⟩ | hdraw
        · exact .inl ⟨other, List.mem_cons_of_mem _ hother, hfail⟩
        · exact .inr (.inl ⟨other, List.mem_cons_of_mem _ hother, hset⟩)
        · exact .inr (.inr hdraw)
    | error error =>
      rw [hbinding] at hmem
      exact .inl ⟨slot, List.mem_cons_self, error, List.mem_singleton.1 hmem, hbinding⟩

/-- Drawing something sets uniforms and streams, reports what it cannot bind, and draws. -/
theorem mem_actions {policy : UnboundUniformPolicy} (submission : Submission handles)
    {action : Action handles} (hmem : action ∈ submission.actions policy) :
    (∃ slot value, action = .setUniform slot value) ∨
      (∃ error, action = .fail error ∧ error.subject ≠ .sampler) ∨
      (∃ location binding, action = .setVertexStream location binding) ∨
      action = submission.drawAction := by
  rcases List.mem_append.1 hmem with huniform | hstream
  · obtain ⟨entry, _, rfl⟩ := List.mem_map.1 huniform
    rcases submission.uniformAction_cases policy entry with
      ⟨value, haction⟩ | ⟨error, haction, hsubject⟩
    · exact .inl ⟨_, value, haction⟩
    · exact .inr (.inl ⟨error, haction, by simp [hsubject]⟩)
  · rcases submission.mem_streamActions hstream with
      ⟨_, _, error, haction, herror⟩ | ⟨_, _, binding, haction, _⟩ | hdraw
    · exact .inr (.inl ⟨error, haction, by simp [subject_of_streamBinding herror]⟩)
    · exact .inr (.inr (.inl ⟨_, binding, haction⟩))
    · exact .inr (.inr (.inr hdraw))

end Submission

namespace ClearRequest

/-- Clears what is asked for and there: color first, then depth and stencil together. -/
def actions (request : ClearRequest) (target : CompiledTarget handles) : List (Action handles) :=
  (match request.color, target.color with
    | some color, some view => [.clearRenderView view color]
    | _, _ => []) ++
  match target.depth with
  | some view =>
    if request.depth.isSome || request.stencil.isSome then
      [.clearDepthStencilView view request.depth request.stencil]
    else []
  | none => []

theorem mem_actions {request : ClearRequest} {target : CompiledTarget handles}
    {action : Action handles} (hmem : action ∈ request.actions target) :
    (∃ view color, action = .clearRenderView view color) ∨
      ∃ view depth stencil, action = .clearDepthStencilView view depth stencil := by
  rcases List.mem_append.1 hmem with hcolor | hdepth
  · left
    cases hrequest : request.color <;> cases hview : target.color <;>
      simp [hrequest, hview] at hcolor
    exact ⟨_, _, hcolor⟩
  · right
    cases hview : target.depth with
    | none => simp [hview] at hdepth
    | some view =>
      simp only [hview, List.mem_ite_nil_right, List.mem_singleton] at hdepth
      exact ⟨_, _, _, hdepth.2⟩

end ClearRequest

namespace Frame

def viewport? (frame : Frame handles) : Option Viewport :=
  frame.scene.map fun scene => ⟨0, 0, scene.screenWidth, scene.screenHeight⟩

/-- What a command submits for drawing, in order; nothing is given for a command that is skipped. -/
def submissions? (frame : Frame handles) (cursor : Cursor) :
    Command → Option (List (Submission handles))
  | .renderSlot slot =>
    match frame.boundProgram? cursor, frame.scene with
    | some program, some scene =>
      (frame.slots[slot]?.bind fun slot => scene.objects.get? slot.name).map fun objects =>
        (drawnObjects objects).map fun object => ⟨program, scene, .ofObject object⟩
    | _, _ => none
  | .renderStream stream =>
    match frame.boundProgram? cursor, frame.scene with
    | some program, some scene =>
      frame.resources.streams[stream]?.map fun data => [⟨program, scene, .ofStreams data⟩]
    | _, _ => none
  | _ => some []

/-- The actions of submissions, if there are any to be made. -/
def renderActions (frame : Frame handles) :
    Option (List (Submission handles)) → List (Action handles)
  | some submissions => submissions.flatMap (·.actions frame.policy)
  | none => [.skip]

def actions (frame : Frame handles) (cursor : Cursor) : Command → List (Action handles)
  | .setRasterContext context => [.setRasterState context]
  | .setAccumulationContext context => [.setAccumulationState context]
  | .setTexture textureUnit index =>
    match frame.resources.textures[index]? with
    | some texture => [.setTexture textureUnit texture.image texture.sampler]
    | none => [.skip]
  | .setProgram index =>
    match frame.resources.programs[index]? with
    | some program => [.setShaders program.vertex program.fragment program.inputLayout]
    | none => [.skip]
  | .setRenderTarget index =>
    match frame.resources.targets[index]? with
    | some target =>
      .setRenderTargets target.color target.depth :: frame.viewport?.toList.map .setViewport
    | none => [.skip]
  | .clearRenderTarget images =>
    match frame.boundTarget? cursor with
    | some target => (ClearRequest.ofImages images).actions target
    | none => [.skip]
  | .setSamplerUniform name textureUnit =>
    match frame.boundProgram? cursor with
    | some program =>
      match samplerSlot name program with
      | .ok slot => [.setSamplerUniform slot textureUnit]
      | .error error => [.fail error]
    | none => [.skip]
  | .renderSlot slot => frame.renderActions (frame.submissions? cursor (.renderSlot slot))
  | .renderStream stream => frame.renderActions (frame.submissions? cursor (.renderStream stream))

theorem mem_renderActions {frame : Frame handles}
    {submissions : Option (List (Submission handles))} {action : Action handles}
    (hmem : action ∈ frame.renderActions submissions) :
    (∃ made, submissions = some made ∧
      ∃ submission ∈ made, action ∈ submission.actions frame.policy) ∨
    action.isGeneral = true := by
  cases submissions with
  | none =>
    cases List.mem_singleton.1 hmem
    exact .inr rfl
  | some made =>
    obtain ⟨submission, hsubmission, haction⟩ := List.mem_flatMap.1 hmem
    exact .inl ⟨made, rfl, submission, hsubmission, haction⟩

/-- What a command does is done for something that it submits, or for the sampler that it names, or for
neither. -/
theorem mem_actions {frame : Frame handles} {cursor : Cursor} {command : Command}
    {action : Action handles} (hmem : action ∈ frame.actions cursor command) :
    (∃ submissions, frame.submissions? cursor command = some submissions ∧
      ∃ submission ∈ submissions, action ∈ submission.actions frame.policy) ∨
    (∃ name textureUnit program, command = .setSamplerUniform name textureUnit ∧
      frame.boundProgram? cursor = some program ∧
      ((∃ slot, program.samplers.get? name = some slot ∧
          action = .setSamplerUniform slot textureUnit) ∨
        program.samplers.get? name = none ∧ action = .fail (.unknownSampler name))) ∨
    action.isGeneral = true := by
  cases command with
  | setRasterContext context =>
    cases List.mem_singleton.1 hmem
    exact .inr (.inr rfl)
  | setAccumulationContext context =>
    cases List.mem_singleton.1 hmem
    exact .inr (.inr rfl)
  | setTexture textureUnit index =>
    simp only [actions] at hmem
    split at hmem <;>
    · cases List.mem_singleton.1 hmem
      exact .inr (.inr rfl)
  | setProgram index =>
    simp only [actions] at hmem
    split at hmem <;>
    · cases List.mem_singleton.1 hmem
      exact .inr (.inr rfl)
  | setRenderTarget index =>
    simp only [actions] at hmem
    split at hmem
    · rcases List.mem_cons.1 hmem with rfl | hviewport
      · exact .inr (.inr rfl)
      · obtain ⟨_, _, rfl⟩ := List.mem_map.1 hviewport
        exact .inr (.inr rfl)
    · cases List.mem_singleton.1 hmem
      exact .inr (.inr rfl)
  | clearRenderTarget images =>
    simp only [actions] at hmem
    split at hmem
    · obtain ⟨_, _, rfl⟩ | ⟨_, _, _, rfl⟩ := ClearRequest.mem_actions hmem
      · exact .inr (.inr rfl)
      · exact .inr (.inr rfl)
    · cases List.mem_singleton.1 hmem
      exact .inr (.inr rfl)
  | setSamplerUniform name textureUnit =>
    simp only [actions, samplerSlot] at hmem
    cases hbound : frame.boundProgram? cursor with
    | none =>
      rw [hbound] at hmem
      cases List.mem_singleton.1 hmem
      exact .inr (.inr rfl)
    | some program =>
      rw [hbound] at hmem
      refine .inr (.inl ⟨name, textureUnit, program, rfl, rfl, ?_⟩)
      cases hget : program.samplers.get? name with
      | none =>
        simp only [hget] at hmem
        exact .inr ⟨rfl, List.mem_singleton.1 hmem⟩
      | some slot =>
        simp only [hget] at hmem
        exact .inl ⟨slot, rfl, List.mem_singleton.1 hmem⟩
  | renderSlot slot => exact (mem_renderActions hmem).imp id .inr
  | renderStream stream => exact (mem_renderActions hmem).imp id .inr

/-- What is bound after a command. -/
def advance (frame : Frame handles) (cursor : Cursor) : Command → Cursor
  | .setProgram index =>
    if (frame.resources.programs[index]?).isSome then { cursor with program := some index }
    else cursor
  | .setRenderTarget index =>
    if (frame.resources.targets[index]?).isSome then
      { cursor with target := some index, viewport := frame.viewport?.or cursor.viewport }
    else cursor
  | _ => cursor

/-- What is bound after commands. -/
def cursorAfter (frame : Frame handles) (commands : List Command) : Cursor :=
  commands.foldl frame.advance {}

theorem cursorAfter_append (frame : Frame handles) (earlier : List Command) (command : Command) :
    frame.cursorAfter (earlier ++ [command]) =
      frame.advance (frame.cursorAfter earlier) command := by
  rw [cursorAfter, List.foldl_append]
  rfl

/-- The actions of commands, in order. -/
def plan (frame : Frame handles) (commands : List Command) : List (Action handles) :=
  (withEarlier [] commands).flatMap fun place => frame.actions (frame.cursorAfter place.1) place.2

end Frame

/-! ## Performing -/

section Performing

variable [Device State handles]

@[simp]
theorem FrameState.foldl_perform_withCursor (actions : List (Action handles))
    (state : FrameState State) (cursor : Cursor) :
    actions.foldl perform { state with cursor } =
      { actions.foldl perform state with cursor } := by
  induction actions generalizing state with
  | nil => rfl
  | cons action rest ih => exact ih (state.perform action)

namespace Submission

theorem submitUniform_eq_perform (frame : Frame handles) (submission : Submission handles)
    (state : FrameState State) (entry : String × UniformSlot) :
    frame.submitUniform submission.scene submission.drawable.object state entry =
      state.perform (submission.uniformAction frame.policy entry) := by
  unfold Frame.submitUniform uniformAction
  cases uniformValue entry.1 entry.2 submission.drawable.object submission.scene frame.policy with
  | ok value => rfl
  | error error => rfl

theorem submitDraw_eq_perform (primitive : Primitive) (vertexCount : UInt32)
    (state : FrameState State) :
    Frame.submitDraw primitive vertexCount state =
      state.perform (.draw primitive vertexCount) := by
  unfold Frame.submitDraw
  rcases hdraw : Device.draw primitive vertexCount state.device with ⟨error | answer, device⟩
  · simp [FrameState.perform, Action.answer?, Action.apply, FrameReport.note, hdraw]
  · simp [FrameState.perform, Action.answer?, Action.apply, FrameReport.note, hdraw]

theorem bindStreams_eq_perform (submission : Submission handles) (slots : List StreamSlot)
    (state : FrameState State) :
    (match Frame.bindStreams submission.drawable.streams slots state with
      | (true, bound) =>
        Frame.submitDraw submission.drawable.primitive submission.drawable.vertexCount bound
      | (false, bound) => bound) =
      (submission.streamActions slots).foldl FrameState.perform state := by
  induction slots generalizing state with
  | nil => exact submitDraw_eq_perform _ _ state
  | cons slot rest ih =>
    unfold Frame.bindStreams streamActions
    cases streamBinding slot submission.drawable.streams with
    | ok binding => exact ih _
    | error error => rfl

theorem draw_eq_perform (frame : Frame handles) (submission : Submission handles)
    (state : FrameState State) :
    frame.draw submission.program submission.scene state submission.drawable =
      (submission.actions frame.policy).foldl FrameState.perform state := by
  have huniforms : submission.program.uniforms.entries.foldl
      (frame.submitUniform submission.scene submission.drawable.object) state =
        (submission.program.uniforms.entries.map
          (submission.uniformAction frame.policy)).foldl FrameState.perform state := by
    rw [List.foldl_map]
    congr 1
    funext state entry
    exact submitUniform_eq_perform frame submission state entry
  unfold Frame.draw actions
  rw [List.foldl_append, ← huniforms]
  exact bindStreams_eq_perform submission _ _

end Submission

namespace Frame

theorem foldl_draw_eq_perform (frame : Frame handles) (program : CompiledProgram handles)
    (scene : Scene handles.Buffer) (drawables : List (Drawable handles.Buffer))
    (state : FrameState State) :
    drawables.foldl (frame.draw program scene) state =
      ((drawables.map (Submission.mk program scene)).flatMap
        (·.actions frame.policy)).foldl FrameState.perform state := by
  induction drawables generalizing state with
  | nil => rfl
  | cons drawable rest ih =>
    rw [List.foldl_cons, ih, List.map_cons, List.flatMap_cons, List.foldl_append,
      Submission.draw_eq_perform frame ⟨program, scene, drawable⟩]

theorem renderSlot_eq_perform (frame : Frame handles) (slot : Nat) (state : FrameState State) :
    frame.renderSlot slot state =
      (frame.actions state.cursor (.renderSlot slot)).foldl FrameState.perform state := by
  simp only [renderSlot, actions, submissions?]
  cases frame.boundProgram? state.cursor with
  | none => rfl
  | some program =>
    cases frame.scene with
    | none => rfl
    | some scene =>
      dsimp only
      cases frame.slots[slot]?.bind fun slot => scene.objects.get? slot.name with
      | none => rfl
      | some objects =>
        simp only [Option.map_some, renderActions, foldl_draw_eq_perform, List.map_map]
        rfl

theorem renderStream_eq_perform (frame : Frame handles) (stream : Nat)
    (state : FrameState State) :
    frame.renderStream stream state =
      (frame.actions state.cursor (.renderStream stream)).foldl FrameState.perform state := by
  simp only [renderStream, actions, submissions?]
  cases frame.boundProgram? state.cursor with
  | none => rfl
  | some program =>
    cases frame.scene with
    | none => rfl
    | some scene =>
      dsimp only
      cases frame.resources.streams[stream]? with
      | none => rfl
      | some data =>
        simp only [Option.map_some, renderActions, List.flatMap_cons, List.flatMap_nil,
          List.append_nil]
        exact Submission.draw_eq_perform frame ⟨program, scene, .ofStreams data⟩ state

theorem clear_eq_perform (request : ClearRequest) (target : CompiledTarget handles)
    (state : FrameState State) :
    clearDepthStencil target request (clearColor target request state) =
      (request.actions target).foldl FrameState.perform state := by
  unfold clearDepthStencil clearColor ClearRequest.actions
  rw [List.foldl_append]
  cases request.color <;> cases target.color <;> cases target.depth <;>
    first
    | rfl
    | (dsimp only; split <;> rfl)

/-- A step performs the actions of its command and moves the cursor. -/
theorem step_eq_perform (frame : Frame handles) (state : FrameState State) (command : Command) :
    frame.step state command =
      { (frame.actions state.cursor command).foldl FrameState.perform state with
        cursor := frame.advance state.cursor command } := by
  have hstill (actions : List (Action handles)) :
      actions.foldl FrameState.perform state =
        { actions.foldl FrameState.perform state with cursor := state.cursor } := by
    rw [← FrameState.foldl_perform_withCursor]
  -- only commands that bind a program or a target move the cursor
  cases command with
  | setRasterContext context => rfl
  | setAccumulationContext context => rfl
  | setTexture textureUnit index =>
    simp only [step, actions, advance]
    cases frame.resources.textures[index]? with
    | none => rfl
    | some texture => rfl
  | setProgram index =>
    simp only [step, actions, advance]
    cases frame.resources.programs[index]? with
    | none => rfl
    | some program => rfl
  | setRenderTarget index =>
    simp only [step, actions, advance, bindTarget, viewport?]
    cases frame.resources.targets[index]? with
    | none => rfl
    | some target =>
      cases frame.scene with
      | none => rfl
      | some scene => rfl
  | clearRenderTarget images =>
    simp only [step, actions, advance]
    cases frame.boundTarget? state.cursor with
    | none => rfl
    | some target =>
      dsimp only
      rw [clear_eq_perform]
      exact hstill _
  | setSamplerUniform name textureUnit =>
    simp only [step, actions, advance]
    cases frame.boundProgram? state.cursor with
    | none => rfl
    | some program =>
      dsimp only
      cases samplerSlot name program with
      | error error => rfl
      | ok slot => rfl
  | renderSlot slot => exact (renderSlot_eq_perform frame slot state).trans (hstill _)
  | renderStream stream => exact (renderStream_eq_perform frame stream state).trans (hstill _)

/-- Commands that come after others are performed from what those have bound. -/
theorem foldl_step_eq_perform (frame : Frame handles) (earlier later : List Command)
    (state : FrameState State) (hcursor : state.cursor = frame.cursorAfter earlier) :
    later.foldl frame.step state =
      { ((withEarlier earlier later).flatMap fun place =>
          frame.actions (frame.cursorAfter place.1) place.2).foldl FrameState.perform state with
        cursor := frame.cursorAfter (earlier ++ later) } := by
  induction later generalizing earlier state with
  | nil =>
    rw [List.append_nil, ← hcursor]
    rfl
  | cons command rest ih =>
    have hstep := step_eq_perform frame state command
    rw [hcursor, ← cursorAfter_append] at hstep
    rw [List.foldl_cons, hstep, ih (earlier ++ [command]) _ rfl, List.append_assoc,
      List.singleton_append, withEarlier, List.flatMap_cons, List.foldl_append,
      FrameState.foldl_perform_withCursor]

theorem run_eq_perform (frame : Frame handles) (commands : List Command) (device : State) :
    frame.run commands device =
      { (frame.plan commands).foldl FrameState.perform { device } with
        cursor := frame.cursorAfter commands } :=
  foldl_step_eq_perform frame [] commands { device } rfl

end Frame

end Performing

end FramePlan
