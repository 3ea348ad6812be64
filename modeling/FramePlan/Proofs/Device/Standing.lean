import FramePlan.Proofs.Device.Shadow

/-!
# What stays bound

Shaders and a target stay bound until others take their place, within a frame and from one frame to the
next. A draw is refused without them, whatever else is bound.

* `Device.Retains`: a device that keeps shaders and a target, as recorders and GPUs do.
* `hasShaders_foldl_apply`, `hasTarget_foldl_apply`: what is bound after some actions.
* `answers_untargeted`: without a target no draw is accepted.
-/

namespace FramePlan

variable {State : Type} {handles : Handles}

/-- Why a primitive is refused where no target is bound: for its kind, if the device draws nothing of
that kind, and otherwise for the target. -/
def untargeted (draws : Primitive → Bool) (primitive : Primitive) : DeviceError :=
  if draws primitive then .incompleteState .renderTarget else .unsupportedPrimitive primitive

/-- A device that keeps shaders and a target until others are bound, and that refuses to draw without
a target. -/
class Device.Retains (State : Type) {handles : outParam Handles} [Device State handles] where
  hasShaders : State → Bool
  hasTarget : State → Bool
  /-- Whether the device draws primitives of a kind at all. -/
  draws : Primitive → Bool
  hasShaders_apply : ∀ (action : Action handles) (device : State),
    hasShaders (action.apply device) = (action.bindsShaders || hasShaders device)
  hasTarget_apply : ∀ (action : Action handles) (device : State),
    hasTarget (action.apply device) = action.bindsTarget?.getD (hasTarget device)
  draw_untargeted : ∀ (primitive : Primitive) (vertexCount : UInt32) (device : State),
    hasShaders device = true → hasTarget device = false →
      (Device.draw primitive vertexCount device).1 = .error (untargeted draws primitive)

open Device (Retains)

/-- A recorder draws primitives of every kind. -/
instance : Retains Recorder where
  hasShaders := Recorder.shadersBound
  hasTarget := Recorder.targetsBound
  draws _ := true
  hasShaders_apply := Recorder.shadersBound_apply
  hasTarget_apply := Recorder.targetsBound_apply
  draw_untargeted primitive vertexCount recorder hshaders htarget := by
    show (Recorder.draw primitive vertexCount recorder).1 = _
    rw [Recorder.draw, Recorder.missingState?, hshaders, htarget]
    rfl

instance : Retains Gpu where
  hasShaders gpu := gpu.bound.program.isSome
  hasTarget gpu := gpu.bound.targetView?.isSome
  draws := Primitive.isSupported
  hasShaders_apply := Gpu.program_apply
  hasTarget_apply := Gpu.targetView?_apply
  draw_untargeted primitive vertexCount gpu hshaders htarget := by
    obtain ⟨program, hprogram⟩ := Option.isSome_iff_exists.1 hshaders
    have hnone : gpu.bound.targetView? = none := Option.isNone_iff_eq_none.1 (by simpa using htarget)
    show Gpu.drawBound gpu.features gpu.bound primitive vertexCount = _
    rw [Gpu.drawBound, hprogram, hnone, untargeted]
    cases primitive.isSupported with
    | false => rfl
    | true => rfl

theorem countP_isAccepted_map_error (errors : List DeviceError) :
    (errors.map Except.error).countP isAccepted = 0 := by
  rw [List.countP_map, List.countP_eq_zero]
  intro error _
  exact Bool.false_ne_true

theorem filterMap_refusal?_map_error (errors : List DeviceError) :
    (errors.map Except.error).filterMap refusal? = errors := by
  rw [List.filterMap_map]
  exact List.filterMap_some

theorem answers_eq_nil [Device State handles] {actions : List (Action handles)}
    (hnone : actions.filterMap Action.draw? = []) (device : State) :
    answers actions device = [] := by
  rw [← List.length_eq_zero_iff, length_answers, List.countP_eq_zero]
  intro action hmem hdraw
  have hquiet := List.filterMap_eq_nil_iff.1 hnone action hmem
  cases action with
  | draw primitive vertexCount => cases hquiet
  | _ => cases hdraw

section Retaining

variable [Device State handles] [Retains State]

/-- There are shaders once some have been bound. -/
theorem hasShaders_foldl_apply (actions : List (Action handles)) (device : State) :
    Retains.hasShaders (actions.foldl (fun device action => action.apply device) device) =
      (actions.any Action.bindsShaders || Retains.hasShaders device) := by
  induction actions generalizing device with
  | nil => rfl
  | cons action rest ih =>
    rw [List.foldl_cons, ih, Retains.hasShaders_apply, List.any_cons, ← Bool.or_assoc,
      Bool.or_comm (rest.any _)]

/-- Whether there is a target is up to the last action that binds one or none. -/
theorem hasTarget_foldl_apply (actions : List (Action handles)) (device : State) :
    Retains.hasTarget (actions.foldl (fun device action => action.apply device) device) =
      (actions.filterMap Action.bindsTarget?).getLast?.getD (Retains.hasTarget device) := by
  have hstep (device : State) (action : Action handles) (_ : action ∈ actions) :
      some (Retains.hasTarget (action.apply device)) =
        action.bindsTarget?.or (some (Retains.hasTarget device)) := by
    rw [Retains.hasTarget_apply]
    cases action.bindsTarget? <;> rfl
  have hlast := foldl_eq_getLast? (fun device : State => some (Retains.hasTarget device))
    (fun device (action : Action handles) => action.apply device) hstep device
  apply Option.some.inj
  rw [hlast]
  cases (actions.filterMap Action.bindsTarget?).getLast? <;> rfl

/-- Where shaders are bound but no target, every draw is refused, until a target is bound. -/
theorem answers_untargeted {actions : List (Action handles)}
    (hkeeps : actions.filterMap Action.bindsTarget? = []) {device : State}
    (hshaders : Retains.hasShaders device = true) (htarget : Retains.hasTarget device = false) :
    answers actions device =
      ((actions.filterMap Action.draw?).map fun asked =>
        untargeted (Retains.draws State) asked.1).map .error := by
  induction actions generalizing device with
  | nil => rfl
  | cons action rest ih =>
    have hnone := List.filterMap_eq_nil_iff.1 hkeeps
    have hrest : rest.filterMap Action.bindsTarget? = [] :=
      List.filterMap_eq_nil_iff.2 fun other hmem => hnone other (.tail _ hmem)
    have hshaders' : Retains.hasShaders (action.apply device) = true := by
      rw [Retains.hasShaders_apply, hshaders, Bool.or_true]
    have htarget' : Retains.hasTarget (action.apply device) = false := by
      rw [Retains.hasTarget_apply, hnone action List.mem_cons_self, Option.getD_none, htarget]
    rw [answers, ih hrest hshaders' htarget']
    cases action with
    | draw primitive vertexCount =>
      have hdraw := Retains.draw_untargeted primitive vertexCount device hshaders htarget
      simp only [Action.answer?, hdraw, Action.draw?, List.filterMap_cons, List.map_cons]
      rfl
    | _ => rfl

end Retaining

end FramePlan
