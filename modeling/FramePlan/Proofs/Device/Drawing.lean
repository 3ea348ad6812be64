import FramePlan.Proofs.Device.Shadow
import FramePlan.Proofs.Frame.Turn
import FramePlan.Proofs.Outcomes

/-!
# What a GPU draws with

A GPU puts a draw together from what is bound at that moment: the program that was bound last, and at
the location of every attribute of its layout the stream that was bound there last, whichever program
that was for.

* `Gpu.program_foldl_apply`, `Gpu.get?_streams_foldl_apply`: what is bound after some actions.
* `Gpu.exists_drawCall?_of_isAccepted`: an accepted draw has been put together.
* `Gpu.drawCall?_eq_some`: the streams that a draw reads.
-/

namespace FramePlan

variable {handles : Handles}

def Action.streamAt? (location : Nat) : Action handles → Option (StreamBinding handles.Buffer)
  | .setVertexStream other binding => if other = location then some binding else none
  | _ => none

theorem Action.streamAt?_eq_some_iff {location : Nat} {action : Action handles}
    {binding : StreamBinding handles.Buffer} :
    action.streamAt? location = some binding ↔ action = .setVertexStream location binding := by
  cases action with
  | setVertexStream other bound => simp [streamAt?]
  | _ => simp [streamAt?]

/-- The program that shaders and a layout make up. -/
def BoundProgram.ofShaders (shaders : GpuShader × GpuShader × GpuInputLayout) : BoundProgram :=
  ⟨shaders.1, shaders.2.1, shaders.2.2⟩

/-- What is bound for an attribute is the stream at its location, if that has a byte left. -/
theorem BoundState.streamFor_eq_ok {bound : BoundState} {listed : VertexAttribute}
    {read : Nat × StreamBinding GpuBuffer} (hok : bound.streamFor listed = .ok read) :
    read.1 = listed.location ∧ bound.streams.get? listed.location = some read.2 := by
  unfold streamFor at hok
  cases hget : bound.streams.get? listed.location with
  | none =>
    rw [hget] at hok
    cases hok
  | some stream =>
    rw [hget] at hok
    dsimp only at hok
    split at hok
    · cases hok
    · cases hok
      exact ⟨rfl, rfl⟩

namespace Gpu

theorem program_foldl_apply (actions : List (Action Gpu.handles)) (gpu : Gpu) :
    (actions.foldl (fun device action => action.apply device) gpu).bound.program =
      ((actions.filterMap Action.shaders?).getLast?.map BoundProgram.ofShaders).or
        gpu.bound.program := by
  have hstep (gpu : Gpu) (action : Action Gpu.handles) (_ : action ∈ actions) :
      (action.apply gpu).bound.program =
        (action.shaders?.map BoundProgram.ofShaders).or gpu.bound.program := by
    cases action <;> rfl
  rw [← List.getLast?_map, List.map_filterMap]
  exact foldl_eq_getLast? (fun gpu : Gpu => gpu.bound.program)
    (fun gpu (action : Action Gpu.handles) => action.apply gpu) hstep gpu

theorem get?_streams_foldl_apply (location : Nat) (actions : List (Action Gpu.handles))
    (gpu : Gpu) :
    (actions.foldl (fun device action => action.apply device) gpu).bound.streams.get? location =
      (actions.filterMap (Action.streamAt? location)).getLast?.or
        (gpu.bound.streams.get? location) := by
  have hstep (gpu : Gpu) (action : Action Gpu.handles) (_ : action ∈ actions) :
      (action.apply gpu).bound.streams.get? location =
        (action.streamAt? location).or (gpu.bound.streams.get? location) := by
    cases action with
    | setVertexStream other binding =>
      refine (Table.get?_insert_eq_ite gpu.bound.streams other location binding).trans ?_
      rw [Action.streamAt?]
      split <;> rfl
    | _ => rfl
  exact foldl_eq_getLast? (fun gpu : Gpu => gpu.bound.streams.get? location)
    (fun gpu (action : Action Gpu.handles) => action.apply gpu) hstep gpu

/-- A stream has been bound at its location by one of some actions, unless none of them binds any there
and it is the one of before. -/
theorem setVertexStream_mem_or_of_get?_streams {location : Nat}
    {actions : List (Action Gpu.handles)} {gpu : Gpu} {read : StreamBinding GpuBuffer}
    (hget : (actions.foldl (fun device action => action.apply device)
      gpu).bound.streams.get? location = some read) :
    .setVertexStream location read ∈ actions ∨
      (∀ binding, .setVertexStream location binding ∉ actions) ∧
        gpu.bound.streams.get? location = some read := by
  rw [get?_streams_foldl_apply, Option.or_eq_some_iff] at hget
  rcases hget with hlast | ⟨hnone, hbefore⟩
  · obtain ⟨action, hmem, hsaid⟩ := List.mem_filterMap.1 (List.mem_of_getLast? hlast)
    rw [Action.streamAt?_eq_some_iff.1 hsaid] at hmem
    exact .inl hmem
  · refine .inr ⟨fun binding hmem => ?_, hbefore⟩
    have hsilent := List.filterMap_eq_nil_iff.1 (List.getLast?_eq_none_iff.1 hnone) _ hmem
    rw [Action.streamAt?_eq_some_iff.2 rfl] at hsilent
    cases hsilent

/-- What a draw of some vertices is made of, where everything for it is bound. -/
def drawCall? (vertexCount : UInt32) (gpu : Gpu) : Option DrawCall := do
  let program ← gpu.bound.program
  let target ← gpu.bound.targetView?
  (assemble gpu.features gpu.bound program target vertexCount).toOption

/-- What becomes of a draw that has been put together: it is refused for the first rule that it
breaks. -/
def check (call : DrawCall) : Except DeviceError Unit :=
  match call.rejection? with
  | some rejection => .error (.validation rejection)
  | none => .ok ()

theorem check_eq_error_iff {call : DrawCall} {error : DeviceError} :
    check call = .error error ↔
      ∃ rejection, call.rejection? = some rejection ∧ error = .validation rejection := by
  unfold check
  cases call.rejection? with
  | none => simp
  | some rejection => simp [eq_comm]

/-- A draw of some vertices of a primitive that is assembled, with shaders and a target, is put together
and then checked. -/
theorem draw_eq {primitive : Primitive} {vertexCount : UInt32} {gpu : Gpu} {program : BoundProgram}
    {target : GpuView} (hsupported : primitive.isSupported = true) (hcount : vertexCount ≠ 0)
    (hprogram : gpu.bound.program = some program) (htarget : gpu.bound.targetView? = some target) :
    (draw primitive vertexCount gpu).1 =
      assemble gpu.features gpu.bound program target vertexCount >>= check := by
  have hdrawn : (vertexCount != 0) = true := bne_iff_ne.2 hcount
  show drawBound gpu.features gpu.bound primitive vertexCount = _
  rw [drawBound, hsupported, hprogram, htarget]
  dsimp only
  rw [hdrawn]
  rfl

/-- A draw is refused for its primitive or for what is not bound, has no vertices, or is put together
and then checked. -/
theorem draw_cases (primitive : Primitive) (vertexCount : UInt32) (gpu : Gpu) :
    (draw primitive vertexCount gpu).1 = .error (.unsupportedPrimitive primitive) ∨
    (∃ missing, (draw primitive vertexCount gpu).1 = .error (.incompleteState missing)) ∨
    (vertexCount = 0 ∧ (draw primitive vertexCount gpu).1 = .ok ()) ∨
    ∃ program target, gpu.bound.program = some program ∧ gpu.bound.targetView? = some target ∧
      (draw primitive vertexCount gpu).1 =
        assemble gpu.features gpu.bound program target vertexCount >>= check := by
  cases hsupported : primitive.isSupported with
  | false =>
    left
    show drawBound gpu.features gpu.bound primitive vertexCount = _
    rw [drawBound, hsupported]
    rfl
  | true =>
    right
    cases hprogram : gpu.bound.program with
    | none =>
      refine .inl ⟨.shaders, ?_⟩
      show drawBound gpu.features gpu.bound primitive vertexCount = _
      rw [drawBound, hsupported, hprogram]
      rfl
    | some program =>
      cases htarget : gpu.bound.targetView? with
      | none =>
        refine .inl ⟨.renderTarget, ?_⟩
        show drawBound gpu.features gpu.bound primitive vertexCount = _
        rw [drawBound, hsupported, hprogram, htarget]
        rfl
      | some target =>
        right
        by_cases hcount : vertexCount = 0
        · refine .inl ⟨hcount, ?_⟩
          show drawBound gpu.features gpu.bound primitive vertexCount = _
          rw [drawBound, hsupported, hprogram, htarget, hcount]
          rfl
        · exact .inr ⟨program, target, rfl, rfl, draw_eq hsupported hcount hprogram htarget⟩

/-- A draw of at least one vertex is only accepted if it can be put together and breaks no rule. -/
theorem exists_drawCall?_of_isAccepted {primitive : Primitive} {vertexCount : UInt32}
    (hcount : vertexCount ≠ 0) {gpu : Gpu}
    (haccepted : isAccepted (draw primitive vertexCount gpu).1 = true) :
    ∃ call, gpu.drawCall? vertexCount = some call ∧ call.rejection? = none := by
  rcases draw_cases primitive vertexCount gpu with
    hrefused | ⟨_, hrefused⟩ | ⟨hzero, _⟩ | ⟨program, target, hprogram, htarget, hdraw⟩
  · rw [hrefused] at haccepted
    cases haccepted
  · rw [hrefused] at haccepted
    cases haccepted
  · exact absurd hzero hcount
  · rw [hdraw] at haccepted
    rw [drawCall?, hprogram, htarget]
    cases hcall : assemble gpu.features gpu.bound program target vertexCount with
    | error error =>
      rw [hcall] at haccepted
      cases haccepted
    | ok call =>
      refine ⟨call, congrArg Except.toOption hcall, ?_⟩
      have hchecked : isAccepted (check call) = true := by
        rw [hcall] at haccepted
        exact haccepted
      cases hrejection : call.rejection? with
      | none => rfl
      | some rejection =>
        rw [check, hrejection] at hchecked
        cases hchecked

/-- A draw that has been put together has its program, and a stream for every attribute. -/
theorem assemble_eq_ok {features : GpuFeatures} {bound : BoundState} {program : BoundProgram}
    {target : GpuView} {vertexCount : UInt32} {call : DrawCall}
    (hok : assemble features bound program target vertexCount = .ok call) :
    call.program = program ∧
      List.Forall₂ (fun listed read => bound.streamFor listed = .ok read)
        program.layout.attributes call.streams := by
  obtain ⟨streams, hstreams, hok⟩ := exists_of_bind_eq_ok hok
  obtain ⟨resources, _, hok⟩ := exists_of_bind_eq_ok hok
  cases hok
  exact ⟨rfl, forall₂_of_mapM_eq_ok hstreams⟩

/-- A draw is made with the program that is bound, and reads for every attribute of its layout what is
bound at the location of this attribute. -/
theorem drawCall?_eq_some {vertexCount : UInt32} {gpu : Gpu} {call : DrawCall}
    (hcall : gpu.drawCall? vertexCount = some call) :
    gpu.bound.program = some call.program ∧
      List.Forall₂ (fun listed read => read.1 = listed.location ∧
        gpu.bound.streams.get? listed.location = some read.2)
        call.program.layout.attributes call.streams := by
  obtain ⟨program, hprogram, hcall⟩ := Option.bind_eq_some_iff.1 hcall
  obtain ⟨target, _, hcall⟩ := Option.bind_eq_some_iff.1 hcall
  cases hok : assemble gpu.features gpu.bound program target vertexCount with
  | error error =>
    rw [hok] at hcall
    cases hcall
  | ok made =>
    rw [hok] at hcall
    cases hcall
    obtain ⟨rfl, hreads⟩ := assemble_eq_ok hok
    exact ⟨hprogram, hreads.imp fun _ _ => BoundState.streamFor_eq_ok⟩

end Gpu

end FramePlan
