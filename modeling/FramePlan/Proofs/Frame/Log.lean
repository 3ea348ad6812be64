import FramePlan.Device.Recorder
import FramePlan.Proofs.Frame.Report

/-!
# The log of a frame

A recorder keeps the calls of a frame in the order of the plan, behind what it has recorded before. An
entry in the report leaves no call behind, and what has been recorded before does not matter.

* `Frame.calls_run_concat`: a command appends the calls of its actions to the log.
* `CompiledPipeline.calls_render`: a frame appends the calls of its plan to the log.
-/

namespace FramePlan

variable {handles : Handles}

def DeviceCall.isDraw : DeviceCall → Bool
  | .draw _ _ => true
  | _ => false

def Action.call? : Action Recorder.handles → Option DeviceCall
  | .setShaders vertex fragment layout => some (.setShaders vertex.id fragment.id layout.id)
  | .setRenderTargets color depth => some (.setRenderTargets (color.map (·.id)) (depth.map (·.id)))
  | .setViewport viewport => some (.setViewport viewport)
  | .setRasterState context => some (.setRasterState context)
  | .setAccumulationState context => some (.setAccumulationState context)
  | .setTexture textureUnit image sampler => some (.setTexture textureUnit image.id sampler.id)
  | .setSamplerUniform slot textureUnit => some (.setSamplerUniform slot textureUnit)
  | .setUniform slot value => some (.setUniform slot value)
  | .setVertexStream location binding =>
    some (.setVertexStream location binding.buffer.id binding.offset binding.format binding.stepMode)
  | .clearRenderView view color => some (.clearRenderView view.id color)
  | .clearDepthStencilView view depth stencil =>
    some (.clearDepthStencilView view.id depth stencil)
  | .draw primitive vertexCount => some (.draw primitive vertexCount)
  | .skip | .fail _ => none

def Submission.drawCall (submission : Submission handles) : DeviceCall :=
  .draw submission.drawable.primitive submission.drawable.vertexCount

theorem Action.calls_apply (action : Action Recorder.handles) (recorder : Recorder) :
    (action.apply recorder).calls.toList = recorder.calls.toList ++ action.call?.toList := by
  cases action with
  | skip => exact (List.append_nil _).symm
  | fail error => exact (List.append_nil _).symm
  | _ => exact Array.toList_push

theorem calls_foldl_apply (actions : List (Action Recorder.handles)) (recorder : Recorder) :
    (actions.foldl (fun device action => action.apply device) recorder).calls.toList =
      recorder.calls.toList ++ actions.filterMap Action.call? := by
  induction actions generalizing recorder with
  | nil => exact (List.append_nil _).symm
  | cons action rest ih =>
    rw [List.foldl_cons, ih, Action.calls_apply, List.append_assoc, List.filterMap_cons]
    cases action.call? <;> rfl

theorem Frame.calls_run_concat (frame : Frame Recorder.handles) (earlier : List Command)
    (command : Command) (recorder : Recorder) :
    (frame.run (earlier ++ [command]) recorder).device.calls.toList =
      (frame.run earlier recorder).device.calls.toList ++
        (frame.actions (frame.cursorAfter earlier) command).filterMap Action.call? := by
  have hcursor : (frame.run earlier recorder).cursor = frame.cursorAfter earlier := by
    rw [run_eq_perform]
  have hrun : frame.run (earlier ++ [command]) recorder =
      frame.step (frame.run earlier recorder) command := by
    rw [run, List.foldl_append]
    rfl
  rw [hrun, step_eq_perform, hcursor]
  dsimp only
  rw [foldl_perform_device, calls_foldl_apply]

namespace CompiledPipeline

variable (compiled : CompiledPipeline Recorder.handles)
  (scene : Option (Scene RecordedBuffer))

def calls : List DeviceCall := (compiled.plan scene).filterMap Action.call?

theorem calls_render (recorder : Recorder) :
    (compiled.render scene recorder).2.calls.toList =
      recorder.calls.toList ++ compiled.calls scene := by
  rw [render_device]
  exact calls_foldl_apply _ _

end CompiledPipeline

end FramePlan
