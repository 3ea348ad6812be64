import FramePlan.Proofs.Frame.Turn
import FramePlan.Proofs.Packing

/-!
# Where the values of a program come from

A uniform, a stream or a texture unit is set for the program that is bound, in a slot or at a location
that this program has. Uniforms and streams are set for drawables, texture units for commands that name
a sampler.

* `CompiledProgram.Offers`: what is set has a place in a program.
* `Frame.offers_of_mem_actions`: a frame sets nothing that the program does not offer.
* `Frame.filterMap_location?_plan`: streams are bound for what a frame submits.
-/

namespace FramePlan

variable {handles : Handles}

/-- What is bound for an attribute is a stream with the declared name and type. -/
theorem streamBinding_eq_ok {Handle : Type} {slot : StreamSlot} {streams : Streams Handle}
    {binding : StreamBinding Handle} (hok : streamBinding slot streams = .ok binding) :
    ∃ stream, streams.get? slot.stream = some stream ∧ stream.type = slot.type ∧
      stream.binding slot.stream = .ok binding := by
  unfold streamBinding at hok
  cases hget : streams.get? slot.stream with
  | none =>
    rw [hget] at hok
    cases hok
  | some stream =>
    rw [hget] at hok
    dsimp only at hok
    split at hok
    · next htype => exact ⟨stream, rfl, htype, hok⟩
    · cases hok

theorem inputType_of_uniformValue {Handle : Type} {name : String} {slot : UniformSlot}
    {object : Option (Object Handle)} {scene : Scene Handle} {policy : UnboundUniformPolicy}
    {value : Value} (hok : uniformValue name slot object scene policy = .ok value) :
    value.inputType = slot.type := by
  unfold uniformValue at hok
  split at hok
  · split at hok
    · next htype =>
      cases hok
      exact htype
    · cases hok
  · split at hok
    · next hzero =>
      cases hok
      exact Value.inputType_zero? hzero
    · cases hok
    · cases hok

namespace Action

/-- Whether an action sets something that the program that is bound is to be drawn with. -/
def feedsProgram : Action handles → Bool
  | .setSamplerUniform _ _ | .setUniform _ _ | .setVertexStream _ _ => true
  | _ => false

def location? : Action handles → Option Nat
  | .setVertexStream location _ => some location
  | _ => none

theorem feedsProgram_eq_false {action : Action handles} (hgeneral : action.isGeneral = true) :
    action.feedsProgram = false := by
  cases action <;> first | rfl | cases hgeneral

theorem location?_eq_none {action : Action handles} (hnone : action.feedsProgram = false) :
    action.location? = none := by
  cases action with
  | setVertexStream location binding => cases hnone
  | _ => rfl

end Action

/-- What an action sets has a place in a program: a uniform has a slot and its type, a stream a location
and the format of its type, a texture unit the slots of a sampler. -/
def CompiledProgram.Offers (program : CompiledProgram handles) : Action handles → Prop
  | .setUniform slot value => ∃ entry ∈ program.uniforms.entries,
    entry.2.slot = slot ∧ entry.2.type = value.inputType
  | .setVertexStream location binding => ∃ entry ∈ program.streams.entries,
    entry.2.location = location ∧ VertexFormat.ofInputType? entry.2.type = some binding.format
  | .setSamplerUniform slot _ => ∃ entry ∈ program.samplers.entries, entry.2 = slot
  | _ => True

namespace Submission

variable {submission : Submission handles}

/-- A uniform that is set for a drawable is one of the program, with the value that its name stands
for. -/
theorem exists_of_setUniform_mem {policy : UnboundUniformPolicy} {slot : ResourceSlot}
    {value : Value} (hmem : .setUniform slot value ∈ submission.actions policy) :
    ∃ entry ∈ submission.program.uniforms.entries, entry.2.slot = slot ∧
      uniformValue entry.1 entry.2 submission.drawable.object submission.scene policy =
        .ok value := by
  rcases List.mem_append.1 hmem with huniform | hstream
  · obtain ⟨entry, hentry, haction⟩ := List.mem_map.1 huniform
    unfold uniformAction at haction
    cases hvalue : uniformValue entry.1 entry.2 submission.drawable.object submission.scene
      policy with
    | ok found =>
      rw [hvalue] at haction
      cases haction
      exact ⟨entry, hentry, rfl, hvalue⟩
    | error error =>
      rw [hvalue] at haction
      cases haction
  · rcases submission.mem_streamActions hstream with
      ⟨_, _, _, haction, _⟩ | ⟨_, _, _, haction, _⟩ | haction
    · cases haction
    · cases haction
    · cases haction

theorem location?_uniformAction (submission : Submission handles) (policy : UnboundUniformPolicy)
    (entry : String × UniformSlot) : (submission.uniformAction policy entry).location? = none := by
  rcases submission.uniformAction_cases policy entry with ⟨value, hset⟩ | ⟨error, hfail, _⟩
  · rw [hset]
    rfl
  · rw [hfail]
    rfl

/-- A stream that is bound for a drawable is its own, at a location of the program. -/
theorem exists_of_setVertexStream_mem {policy : UnboundUniformPolicy} {location : Nat}
    {binding : StreamBinding handles.Buffer}
    (hmem : .setVertexStream location binding ∈ submission.actions policy) :
    ∃ entry ∈ submission.program.streams.entries, entry.2.location = location ∧
      streamBinding entry.2 submission.drawable.streams = .ok binding := by
  rcases List.mem_append.1 hmem with huniform | hstream
  · obtain ⟨entry, _, haction⟩ := List.mem_map.1 huniform
    have hnone := submission.location?_uniformAction policy entry
    rw [haction] at hnone
    cases hnone
  · rcases submission.mem_streamActions hstream with
      ⟨_, _, _, haction, _⟩ | ⟨slot, hslot, _, haction, hbound⟩ | haction
    · cases haction
    · cases haction
      obtain ⟨entry, hentry, rfl⟩ := List.mem_map.1 hslot
      exact ⟨entry, hentry, rfl, hbound⟩
    · cases haction

/-- What is set for a drawable is offered by its program. -/
theorem offers_of_mem_actions {policy : UnboundUniformPolicy} {action : Action handles}
    (hmem : action ∈ submission.actions policy) : submission.program.Offers action := by
  rcases submission.mem_actions hmem with
    ⟨slot, value, rfl⟩ | ⟨_, rfl, _⟩ | ⟨location, binding, rfl⟩ | rfl
  · obtain ⟨entry, hentry, hslot, hvalue⟩ := exists_of_setUniform_mem hmem
    exact ⟨entry, hentry, hslot, (inputType_of_uniformValue hvalue).symm⟩
  · trivial
  · obtain ⟨entry, hentry, hlocation, hbound⟩ := exists_of_setVertexStream_mem hmem
    obtain ⟨stream, _, htype, hbinding⟩ := streamBinding_eq_ok hbound
    obtain ⟨hformat, _⟩ := Stream.binding_eq_ok hbinding
    exact ⟨entry, hentry, hlocation, htype ▸ hformat⟩
  · trivial

/-- Streams are bound at the locations of the program, up to the first that cannot be bound. -/
theorem exists_filterMap_location?_actions (policy : UnboundUniformPolicy) :
    ∃ rest, submission.program.streams.values.map StreamSlot.location =
      (submission.actions policy).filterMap Action.location? ++ rest := by
  have huniforms : (submission.program.uniforms.entries.map
      (submission.uniformAction policy)).filterMap Action.location? = [] := by
    rw [List.filterMap_eq_nil_iff]
    intro action hmem
    obtain ⟨entry, _, rfl⟩ := List.mem_map.1 hmem
    exact submission.location?_uniformAction policy entry
  have hstreams (slots : List StreamSlot) : ∃ rest, slots.map StreamSlot.location =
      (submission.streamActions slots).filterMap Action.location? ++ rest := by
    induction slots with
    | nil => exact ⟨[], rfl⟩
    | cons slot others ih =>
      rw [streamActions]
      cases streamBinding slot submission.drawable.streams with
      | error error => exact ⟨_, rfl⟩
      | ok binding =>
        obtain ⟨rest, hrest⟩ := ih
        exact ⟨rest, congrArg (List.cons slot.location) hrest⟩
  rw [actions, List.filterMap_append, huniforms, List.nil_append]
  exact hstreams _

end Submission

namespace Frame

/-- What a command sets is offered by the program that is bound. -/
theorem offers_of_mem_actions {frame : Frame handles} {cursor : Cursor} {command : Command}
    {action : Action handles} (hmem : action ∈ frame.actions cursor command)
    (hfeeds : action.feedsProgram = true) :
    ∃ program, frame.boundProgram? cursor = some program ∧ program.Offers action := by
  rcases mem_actions hmem with ⟨submissions, hsome, submission, hsubmission, haction⟩ |
    ⟨name, textureUnit, program, rfl, hbound, ⟨slot, hget, rfl⟩ | ⟨_, rfl⟩⟩ | hgeneral
  · have hbound := (of_mem_submissions? hsome hsubmission).1
    exact ⟨submission.program, hbound, Submission.offers_of_mem_actions haction⟩
  · exact ⟨program, hbound, (name, slot), Table.get?_eq_some_iff.1 hget, rfl⟩
  · cases hfeeds
  · rw [Action.feedsProgram_eq_false hgeneral] at hfeeds
    cases hfeeds

theorem filterMap_location?_actions (frame : Frame handles) (cursor : Cursor) (command : Command) :
    (frame.actions cursor command).filterMap Action.location? =
      ((frame.submissions? cursor command).getD []).flatMap
        fun submission => (submission.actions frame.policy).filterMap Action.location? := by
  have hquiet (hnone : frame.submissions? cursor command = some []) :
      (frame.actions cursor command).filterMap Action.location? =
        ((frame.submissions? cursor command).getD []).flatMap
          fun submission => (submission.actions frame.policy).filterMap Action.location? := by
    rw [hnone, Option.getD_some, List.flatMap_nil, List.filterMap_eq_nil_iff]
    intro action hmem
    rcases mem_actions hmem with ⟨submissions, hsome, submission, hsubmission, _⟩ |
      ⟨_, _, _, _, _, ⟨_, _, rfl⟩ | ⟨_, rfl⟩⟩ | hgeneral
    · rw [hnone] at hsome
      cases hsome
      cases hsubmission
    · rfl
    · rfl
    · exact Action.location?_eq_none (Action.feedsProgram_eq_false hgeneral)
  have hrender (submissions : Option (List (Submission handles))) :
      (frame.renderActions submissions).filterMap Action.location? =
        (submissions.getD []).flatMap
          fun submission => (submission.actions frame.policy).filterMap Action.location? := by
    cases submissions with
    | none => rfl
    | some made => exact List.filterMap_flatMap
  cases command with
  | renderSlot slot => exact hrender _
  | renderStream stream => exact hrender _
  | _ => exact hquiet rfl

theorem filterMap_location?_plan (frame : Frame handles) (commands : List Command) :
    (frame.plan commands).filterMap Action.location? =
      (frame.submissions commands).flatMap
        fun submission => (submission.actions frame.policy).filterMap Action.location? := by
  rw [plan, submissions, List.filterMap_flatMap, List.flatMap_assoc]
  congr 1
  funext place
  exact frame.filterMap_location?_actions _ place.2

end Frame

end FramePlan
