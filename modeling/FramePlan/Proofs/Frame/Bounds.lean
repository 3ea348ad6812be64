import FramePlan.Proofs.Frame.Isolation
import FramePlan.Proofs.Frame.Origin

/-!
# What stream data is read

A command that draws stream data binds streams of this data and draws as many vertices as the shortest
of them has elements. So of the buffer that the data is packed into, every draw reads through a binding
no more than the array with the name of its stream.

* `Submission.exists_of_setVertexStream_mem`: a binding is that of a stream of the drawable.
* `streams_read_own_arrays`: no binding of stream data leads out of its array.
-/

namespace FramePlan

variable {handles : Handles}

theorem Submission.vertexCount_of_draw_mem {submission : Submission handles}
    {policy : UnboundUniformPolicy} {primitive : Primitive} {vertexCount : UInt32}
    (hmem : .draw primitive vertexCount ∈ submission.actions policy) :
    vertexCount = submission.drawable.vertexCount := by
  rcases submission.mem_actions hmem with
    ⟨_, _, haction⟩ | ⟨_, haction, _⟩ | ⟨_, _, haction⟩ | haction
  · cases haction
  · cases haction
  · cases haction
  · cases haction
    rfl

/-- A command that draws stream data does so in one go, if it does not skip. -/
theorem Frame.actions_renderStream (frame : Frame handles) (cursor : Cursor) (index : Nat) :
    frame.actions cursor (.renderStream index) = [.skip] ∨
      ∃ (submission : Submission handles) (data : CompiledStreams handles),
        frame.resources.streams[index]? = some data ∧ submission.drawable = .ofStreams data ∧
        frame.actions cursor (.renderStream index) = submission.actions frame.policy := by
  simp only [actions, submissions?]
  split
  · next program scene hprogram hscene =>
    cases hdata : frame.resources.streams[index]? with
    | none => exact .inl rfl
    | some data =>
      exact .inr ⟨⟨program, scene, .ofStreams data⟩, data, rfl, rfl, List.flatMap_singleton ..⟩
  · exact .inl rfl

theorem Recorder.contents_of_createVertexBuffer {contents : List UInt8} {handle : RecordedBuffer}
    {before after : Recorder}
    (hok : Device.createVertexBuffer contents before = (.ok handle, after)) :
    handle.contents = contents := by
  cases hok
  rfl

theorem exists_of_setVertexStream_mem_calls {actions : List (Action Recorder.handles)}
    {location buffer offset : Nat} {format : VertexFormat} {stepMode : StepMode}
    (hmem : .setVertexStream location buffer offset format stepMode ∈
      actions.filterMap Action.call?) :
    ∃ binding : StreamBinding RecordedBuffer, .setVertexStream location binding ∈ actions ∧
      binding.numbered = ⟨buffer, offset, format, stepMode⟩ := by
  obtain ⟨action, haction, hcall⟩ := List.mem_filterMap.1 hmem
  cases action with
  | setVertexStream place binding =>
    cases hcall
    exact ⟨binding, haction, rfl⟩
  | _ => cases hcall

theorem draw_mem_of_mem_calls {actions : List (Action Recorder.handles)} {primitive : Primitive}
    {vertexCount : UInt32}
    (hmem : .draw primitive vertexCount ∈ actions.filterMap Action.call?) :
    .draw primitive vertexCount ∈ actions := by
  obtain ⟨action, haction, hcall⟩ := List.mem_filterMap.1 hmem
  cases action with
  | draw asked count =>
    cases hcall
    exact haction
  | _ => cases hcall

/-- Where a stream is bound and something is drawn, stream data is drawn, and the stream is one of the
data. -/
theorem Frame.exists_of_setVertexStream_renderStream {frame : Frame handles} {cursor : Cursor}
    {index : Nat} {location : Nat} {binding : StreamBinding handles.Buffer}
    (hbind : .setVertexStream location binding ∈ frame.actions cursor (.renderStream index))
    {primitive : Primitive} {vertexCount : UInt32}
    (hdraw : .draw primitive vertexCount ∈ frame.actions cursor (.renderStream index)) :
    ∃ data name stream, frame.resources.streams[index]? = some data ∧
      vertexCount = data.vertexCount ∧ data.streams.get? name = some stream ∧
      stream.binding name = .ok binding := by
  rcases frame.actions_renderStream cursor index with
    hskip | ⟨submission, data, hdata, hdrawable, hactions⟩
  · rw [hskip] at hbind
    cases List.mem_singleton.1 hbind
  · rw [hactions] at hbind hdraw
    obtain ⟨entry, _, _, hbound⟩ := Submission.exists_of_setVertexStream_mem hbind
    rw [hdrawable] at hbound
    obtain ⟨stream, hget, _, hok⟩ := streamBinding_eq_ok hbound
    have hcount := Submission.vertexCount_of_draw_mem hdraw
    rw [hdrawable] at hcount
    exact ⟨data, entry.2.stream, stream, hdata, hcount, hget, hok⟩

/-- Stream data is compiled into one buffer, in which every stream that can be bound views the array
with its name. Through its binding, which starts where the array starts, at a multiple of four, a draw
of the data reads no more than this array. In a frame, whatever commands come earlier, every stream that
a command binds to draw stream data is one of the data, so what the draw reads through it is in one
array. -/
theorem streams_read_own_arrays :
    (∀ {State : Type} {handles : Handles} [Device State handles] {primitive : Primitive}
      {descriptor : StreamData} {data : CompiledStreams handles} {before after : State},
      compileStreams primitive descriptor before = (.ok data, after) →
      ∃ handle, Device.createVertexBuffer descriptor.contents before = (.ok handle, after) ∧
        ∀ name stream, data.streams.get? name = some stream →
          ∀ label binding, stream.binding label = .ok binding →
            ∃ array, stream.array? = some ⟨array.kind, binding.offset, array.length⟩ ∧
              binding.buffer = handle ∧
              descriptor.Covers name array binding.offset binding.format data.vertexCount) ∧
    ∀ {pipeline : Pipeline} {width height : UInt32} {config : Config} {start ready : Recorder}
      {compiled : CompiledPipeline Recorder.handles},
      CompiledPipeline.compile pipeline width height config start = (.ok compiled, ready) →
      ∀ (scene : Option (Scene RecordedBuffer)) (recorder : Recorder) (earlier : List Command)
        (index : Nat), ∃ own : List DeviceCall,
        ((compiled.frame scene).run (earlier ++ [.renderStream index]) recorder).device.calls.toList =
          ((compiled.frame scene).run earlier recorder).device.calls.toList ++ own ∧
        ∀ first location buffer offset format stepMode rest,
          own = first ++ .setVertexStream location buffer offset format stepMode :: rest →
          ∀ primitive vertexCount, .draw primitive vertexCount ∈ rest →
            ∃ (descriptor : StreamData) (data : CompiledStreams Recorder.handles) (name : String)
              (stream : Stream RecordedBuffer) (array : ArrayValue),
              pipeline.streams[index]? = some descriptor ∧
              compiled.resources.streams[index]? = some data ∧
              data.streams.get? name = some stream ∧
              stream.buffer.handle = ⟨buffer, descriptor.contents⟩ ∧
              stream.array? = some ⟨array.kind, offset, array.length⟩ ∧
              descriptor.Covers name array offset format vertexCount := by
  constructor
  · intro State handles _ primitive descriptor data before after hok
    obtain ⟨handle, hcreate, hstreams, hcount⟩ := compileStreams_eq_ok hok
    refine ⟨handle, hcreate, ?_⟩
    intro name stream hget label binding hbinding
    rw [hcount]
    exact StreamData.covers_of_binding hstreams hget hbinding
  · intro pipeline width height config start ready compiled hcompile scene recorder earlier index
    have hcompiled := CompiledPipeline.isCompiled_of_compile_eq_ok hcompile
    refine ⟨_, (compiled.frame scene).calls_run_concat earlier _ recorder, ?_⟩
    intro first location buffer offset format stepMode rest hown primitive vertexCount hmem
    have hset : DeviceCall.setVertexStream location buffer offset format stepMode ∈
        ((compiled.frame scene).actions ((compiled.frame scene).cursorAfter earlier)
          (.renderStream index)).filterMap Action.call? := by simp [hown]
    have hasked : DeviceCall.draw primitive vertexCount ∈
        ((compiled.frame scene).actions ((compiled.frame scene).cursorAfter earlier)
          (.renderStream index)).filterMap Action.call? := by simp [hown, hmem]
    obtain ⟨binding, hbind, hnumbered⟩ := exists_of_setVertexStream_mem_calls hset
    obtain ⟨data, name, stream, hdata, hcount, hget, hok⟩ :=
      Frame.exists_of_setVertexStream_renderStream hbind (draw_mem_of_mem_calls hasked)
    obtain ⟨descriptor, hdescriptor, primitive, before, after, hmade⟩ :=
      exists_of_forall₂_getElem? hcompiled.resources.streams hdata
    obtain ⟨handle, hcreate, hstreams, hshortest⟩ := compileStreams_eq_ok hmade
    obtain ⟨array, harray, hbuffer, hcovers⟩ := StreamData.covers_of_binding hstreams hget hok
    cases hnumbered
    refine ⟨descriptor, data, name, stream, array, hdescriptor, hdata, hget, ?_, harray, ?_⟩
    · have hhandle : stream.buffer.handle = handle :=
        (Stream.binding_eq_ok hok).2.1.symm.trans hbuffer
      rw [hhandle, ← Recorder.contents_of_createVertexBuffer hcreate, hbuffer]
    · rw [hcount, hshortest]
      exact hcovers

/-! ## Data with an array that is not drawn -/

namespace Sample

/-- Corners behind three marks, which no attribute takes. -/
def markedTriangle : StreamData :=
  ⟨.ofList [("marks", .bools [true, false, true]), ("position", corners)],
    .ofList [("position", vector)], .triangles, [0]⟩

/-- The sample with marks on its triangle. -/
def markedPipeline : Pipeline := { pipeline with streams := [markedTriangle] }

/-- The corners are bound behind the marks. -/
def markedCalls : List DeviceCall :=
  [.setUniform ⟨0, 0⟩ zeros, .setUniform ⟨0, 0⟩ zeros,
    .setVertexStream 0 7 12 ⟨.float, .four⟩ .perVertex, .draw .triangleList 3]

theorem recorder_draws_marked : ∃ compiled ready,
    CompiledPipeline.compile markedPipeline 8 8 config recorder = (.ok compiled, ready) ∧
    ((compiled.frame (some (scene recordedBuffer))).run ([.setProgram 0] ++ [.renderStream 0])
        ready).device.calls.toList =
      ((compiled.frame (some (scene recordedBuffer))).run [.setProgram 0]
        ready).device.calls.toList ++ markedCalls :=
  Attempt.exists_of_yields (by decide +kernel)

end Sample

/-- Three corners are read from the twelfth byte on, behind the marks. -/
theorem streams_read_own_arrays_marked :
    (∃ (data : CompiledStreams Recorder.handles) (after : Recorder),
      compileStreams .triangleList Sample.markedTriangle Sample.recorder = (.ok data, after) ∧
      ∃ handle, Device.createVertexBuffer Sample.markedTriangle.contents Sample.recorder =
          (.ok handle, after) ∧
        ∀ name stream, data.streams.get? name = some stream →
          ∀ label binding, stream.binding label = .ok binding →
            ∃ array, stream.array? = some ⟨array.kind, binding.offset, array.length⟩ ∧
              binding.buffer = handle ∧ Sample.markedTriangle.Covers name array binding.offset
                binding.format data.vertexCount) ∧
    ∃ compiled ready,
      CompiledPipeline.compile Sample.markedPipeline 8 8 Sample.config Sample.recorder =
        (.ok compiled, ready) ∧
      ∃ (data : CompiledStreams Recorder.handles) (name : String) (stream : Stream RecordedBuffer)
        (array : ArrayValue), compiled.resources.streams[0]? = some data ∧
        data.streams.get? name = some stream ∧
        stream.buffer.handle = ⟨7, Sample.markedTriangle.contents⟩ ∧
        stream.array? = some ⟨array.kind, 12, array.length⟩ ∧
        Sample.markedTriangle.Covers name array 12 ⟨.float, .four⟩ 3 := by
  constructor
  · exact ⟨_, _, rfl, streams_read_own_arrays.1 rfl⟩
  · obtain ⟨compiled, ready, hcompile, hcalls⟩ := Sample.recorder_draws_marked
    obtain ⟨own, hown, hread⟩ := streams_read_own_arrays.2 hcompile
      (some (Sample.scene Sample.recordedBuffer)) ready [.setProgram 0] 0
    cases List.append_cancel_left (hown.symm.trans hcalls)
    obtain ⟨descriptor, data, name, stream, array, hdescriptor, hdata, hget, hhandle, harray,
      hcovers⟩ := hread [.setUniform ⟨0, 0⟩ Sample.zeros, .setUniform ⟨0, 0⟩ Sample.zeros]
        0 7 12 ⟨.float, .four⟩ .perVertex _ rfl .triangleList 3 List.mem_cons_self
    cases hdescriptor
    exact ⟨compiled, ready, hcompile, data, name, stream, array, hdata, hget, hhandle, harray,
      hcovers⟩

end FramePlan
