import FramePlan.Proofs.Device.Collection
import FramePlan.Proofs.Packing

/-!
# Streams over empty arrays

A draw refuses a stream of which its buffer has no byte left. The arrays of a buffer are packed back to
back, so what is left behind the start of an array are its own bytes and those of all arrays behind it:
a stream over an empty array is only refused if nothing but empty arrays follows.

* `BoundState.Feeds`: a stream over one of some packed arrays is bound where an attribute reads.
* `BoundState.Feeds.streamFor_eq_error`, `BoundState.Feeds.exists_streamFor`: when it is refused.
* `empty_streams_refused_at_end`: the outcome of a draw that reads such a stream.
* `empty_stream_accepted`: a stream over an empty array that a draw accepts.
-/

namespace FramePlan

/-! ## Sizes of buffers -/

theorem ArrayValue.length_flatMap_bytes_eq_zero_iff {arrays : List ArrayValue} :
    (arrays.flatMap bytes).length = 0 ↔ ∀ array ∈ arrays, array.length = 0 := by
  rw [List.length_eq_zero_iff, List.flatMap_eq_nil_iff]
  have hempty (array : ArrayValue) : array.bytes = [] ↔ array.length = 0 := by
    rw [← List.length_eq_zero_iff, length_bytes]
    omega
  exact forall₂_congr fun array _ => hempty array

/-- The buffer of packed arrays is as long as its arrays, which fill whole fours of bytes. -/
theorem Gpu.size_of_create {arrays : List ArrayValue} {buffer : Buffer GpuBuffer} {before after : Gpu}
    (hok : Buffer.create arrays before = (.ok buffer, after)) :
    buffer.handle.size = (arrays.flatMap ArrayValue.bytes).length ∧
      buffer.arrays = BufferArray.layout 0 arrays := by
  obtain ⟨handle, _, hhandle, hok⟩ := Attempt.bind_eq_ok.1 hok
  cases hok
  cases hhandle
  refine ⟨Nat.le_antisymm ?_ (le_roundUp (by decide)), rfl⟩
  exact roundUp_le (by decide) (ArrayValue.four_dvd_length_flatMap_bytes arrays) (Nat.le_refl _)

/-! ## Attributes that are fed -/

/-- Whether an attribute reads a stream over one of some arrays that have been packed together. -/
def BoundState.Feeds (bound : BoundState) (listed : VertexAttribute) (earlier : List ArrayValue)
    (array : ArrayValue) (later : List ArrayValue) : Prop :=
  ∃ (stream : Stream GpuBuffer) (before after : Gpu) (label : String)
    (binding : StreamBinding GpuBuffer),
    Buffer.create (earlier ++ array :: later) before = (.ok stream.buffer, after) ∧
    stream.index = earlier.length ∧
    stream.binding label = .ok binding ∧
    bound.streams.get? listed.location = some binding

namespace BoundState

variable {bound : BoundState} {listed : VertexAttribute} {earlier later : List ArrayValue}
  {array : ArrayValue}

/-- What is bound where an attribute reads starts behind the earlier arrays, and its buffer ends behind
the later ones. -/
theorem Feeds.exists_binding (hfeeds : bound.Feeds listed earlier array later) :
    ∃ binding, bound.streams.get? listed.location = some binding ∧
      binding.buffer.size =
        binding.offset + ((array :: later).flatMap ArrayValue.bytes).length := by
  obtain ⟨stream, before, after, label, binding, hcreate, hindex, hbinding, hget⟩ := hfeeds
  obtain ⟨hsize, harrays⟩ := Gpu.size_of_create hcreate
  obtain ⟨_, hbuffer, place, hplace, hoffset⟩ := Stream.binding_eq_ok hbinding
  rw [Stream.array?, harrays, hindex, BufferArray.getElem?_layout_append] at hplace
  cases hplace
  refine ⟨binding, hget, ?_⟩
  rw [hbuffer, hsize, hoffset, List.flatMap_append, List.length_append, Nat.zero_add]

/-- A stream is refused if neither its own array nor any behind it holds a scalar. -/
theorem Feeds.streamFor_eq_error (hfeeds : bound.Feeds listed earlier array later)
    (hempty : ∀ packed ∈ array :: later, packed.length = 0) :
    bound.streamFor listed = .error (.unboundResource (.emptyStream listed.name)) := by
  obtain ⟨binding, hget, hsize⟩ := hfeeds.exists_binding
  rw [ArrayValue.length_flatMap_bytes_eq_zero_iff.2 hempty, Nat.add_zero] at hsize
  rw [streamFor, hget]
  dsimp only
  rw [hsize, byteRange?, if_neg (Nat.lt_irrefl _)]

/-- A stream is not refused if its own array or one behind it holds a scalar. -/
theorem Feeds.exists_streamFor (hfeeds : bound.Feeds listed earlier array later)
    (hnonempty : ∃ packed ∈ array :: later, packed.length ≠ 0) :
    ∃ read, bound.streamFor listed = .ok read := by
  obtain ⟨binding, hget, hsize⟩ := hfeeds.exists_binding
  have hbytes : ((array :: later).flatMap ArrayValue.bytes).length ≠ 0 := by
    rw [ne_eq, ArrayValue.length_flatMap_bytes_eq_zero_iff]
    intro hempty
    obtain ⟨packed, hpacked, hlength⟩ := hnonempty
    exact hlength (hempty packed hpacked)
  have hleft : binding.offset < binding.buffer.size := by omega
  rw [streamFor, hget]
  dsimp only
  rw [byteRange?, if_pos hleft]
  exact ⟨_, rfl⟩

end BoundState

/-! ## Draws that read empty arrays -/

section Draws

variable {gpu : Gpu} {primitive : Primitive} {vertexCount : UInt32} {program : BoundProgram}
  {target : GpuView}

/-- A stream that a draw refuses as empty is that of an attribute. -/
theorem Gpu.exists_of_draw_eq_emptyStream (hsupported : primitive.isSupported = true)
    (hcount : vertexCount ≠ 0) (hprogram : gpu.bound.program = some program)
    (htarget : gpu.bound.targetView? = some target) {name : String}
    (hdraw : (draw primitive vertexCount gpu).1 = .error (.unboundResource (.emptyStream name))) :
    ∃ listed ∈ program.layout.attributes,
      gpu.bound.streamFor listed = .error (.unboundResource (.emptyStream name)) := by
  rw [draw_eq hsupported hcount hprogram htarget] at hdraw
  rcases eq_error_or_of_bind_eq_error hdraw with hassemble | ⟨call, _, hcheck⟩
  · rcases eq_error_or_of_bind_eq_error hassemble with hstreams | ⟨_, _, hassemble⟩
    · exact exists_of_mapM_eq_error hstreams
    · rcases eq_error_or_of_bind_eq_error hassemble with hcollect | ⟨_, _, hpure⟩
      · obtain ⟨_, herror⟩ := exists_of_collect_eq_error hcollect
        cases herror
      · cases hpure
  · obtain ⟨_, _, herror⟩ := check_eq_error_iff.1 hcheck
    cases herror

/-- Whatever is bound, a draw that reads a stream over an empty array ends there if all arrays behind it are
empty, and names the attribute. Otherwise it goes on, and if any stream is refused as empty then it
is that of a later attribute. -/
theorem empty_streams_refused_at_end {first rest : List VertexAttribute} {listed : VertexAttribute}
    {earlier later : List ArrayValue} {array : ArrayValue}
    (hsupported : primitive.isSupported = true) (hcount : vertexCount ≠ 0)
    (hprogram : gpu.bound.program = some program) (htarget : gpu.bound.targetView? = some target)
    (hlayout : program.layout.attributes = first ++ listed :: rest)
    (hfirst : ∀ other ∈ first, ∃ before packed after,
      gpu.bound.Feeds other before packed after ∧ packed.length ≠ 0)
    (hfeeds : gpu.bound.Feeds listed earlier array later) (hempty : array.length = 0) :
    ((∀ behind ∈ later, behind.length = 0) →
      (Device.draw primitive vertexCount gpu).1 =
        .error (.unboundResource (.emptyStream listed.name))) ∧
    ((∃ behind ∈ later, behind.length ≠ 0) →
      ∀ name, (Device.draw primitive vertexCount gpu).1 =
          .error (.unboundResource (.emptyStream name)) →
        ∃ other ∈ rest, gpu.bound.streamFor other =
          .error (.unboundResource (.emptyStream name))) := by
  have hfed : ∀ other ∈ first, ∃ read, gpu.bound.streamFor other = .ok read := by
    intro other hother
    obtain ⟨before, packed, after, hfeeds, hlength⟩ := hfirst other hother
    exact hfeeds.exists_streamFor ⟨packed, List.mem_cons_self, hlength⟩
  constructor
  · intro hlater
    have hrefused := hfeeds.streamFor_eq_error (List.forall_mem_cons.2 ⟨hempty, hlater⟩)
    have hstreams : program.layout.attributes.mapM gpu.bound.streamFor =
        .error (.unboundResource (.emptyStream listed.name)) := by
      rw [hlayout]
      exact mapM_eq_error_of_first hfed hrefused
    refine (Gpu.draw_eq hsupported hcount hprogram htarget).trans ?_
    rw [Gpu.assemble, hstreams]
    rfl
  · rintro ⟨behind, hbehind, hlength⟩ name hdraw
    obtain ⟨read, hread⟩ :=
      hfeeds.exists_streamFor ⟨behind, List.mem_cons_of_mem _ hbehind, hlength⟩
    obtain ⟨other, hother, hrefused⟩ :=
      Gpu.exists_of_draw_eq_emptyStream hsupported hcount hprogram htarget hdraw
    refine ⟨other, ?_, hrefused⟩
    rw [hlayout, List.mem_append, List.mem_cons] at hother
    rcases hother with hother | rfl | hother
    · obtain ⟨result, hresult⟩ := hfed other hother
      rw [hrefused] at hresult
      cases hresult
    · rw [hrefused] at hread
      cases hread
    · exact hother

end Draws

/-! ## A gap before a triangle, and one behind it -/

namespace Sample

def nothing : ArrayValue := .floats []

/-- The attribute that the program reads positions for. -/
def positionAttribute : VertexAttribute := ⟨"p", 0, ⟨.float, .four⟩⟩

/-- Positions that are read from an offset on in a buffer of forty-eight bytes. -/
def positionFrom (offset : Nat) : StreamBinding GpuBuffer :=
  ⟨⟨48⟩, offset, positionAttribute.format, .perVertex⟩

/-- What binds a program, a target and positions. -/
def readsFrom (offset : Nat) (program : CompiledProgram Gpu.handles) : List (Action Gpu.handles) :=
  [.setShaders program.vertex program.fragment program.inputLayout,
    .setRenderTargets (some ⟨0, 8, 8⟩) none,
    .setVertexStream 0 (positionFrom offset)]

/-- A GPU that is ready to draw with a program. -/
def readyToRead (offset : Nat) (program : CompiledProgram Gpu.handles) (gpu : Gpu) : Gpu :=
  (readsFrom offset program).foldl (fun device action => action.apply device) gpu

/-- A stream over one of some arrays, of forty-eight bytes in all. -/
def streamOver (arrays : List ArrayValue) (index : Nat) : Stream GpuBuffer :=
  ⟨vector, ⟨⟨48⟩, BufferArray.layout 0 arrays⟩, index, true⟩

variable (program : CompiledProgram Gpu.handles) (gpu : Gpu)

theorem feeds_gapBefore :
    (readyToRead 0 program gpu).bound.Feeds positionAttribute [] nothing [corners] :=
  ⟨streamOver [nothing, corners] 0, gpu, gpu, "position", positionFrom 0, rfl, rfl, rfl,
    Table.get?_insert_self gpu.bound.streams 0 (positionFrom 0)⟩

theorem feeds_gapBehind :
    (readyToRead 48 program gpu).bound.Feeds positionAttribute [corners] nothing [] :=
  ⟨streamOver [corners, nothing] 1, gpu, gpu, "position", positionFrom 48, rfl, rfl, rfl,
    Table.get?_insert_self gpu.bound.streams 0 (positionFrom 48)⟩

theorem gpu_draws_gap : ∃ compiled after,
    compileProgram config Sample.program ({} : Gpu) = (.ok compiled, after) ∧
    compiled.inputLayout.attributes = [positionAttribute] ∧
    isAccepted (Device.draw .triangleList 3 (readyToRead 0 compiled after)).1 = true :=
  Attempt.exists_of_yields (by decide +kernel)

end Sample

/-- A gap behind the triangle is seen. -/
theorem empty_streams_refused_at_end_gapBehind : ∃ compiled after,
    compileProgram Sample.config Sample.program ({} : Gpu) = (.ok compiled, after) ∧
    compiled.inputLayout.attributes = [] ++ Sample.positionAttribute :: [] ∧
    (Sample.readyToRead 48 compiled after).bound.Feeds Sample.positionAttribute
      [Sample.corners] Sample.nothing [] ∧
    Sample.nothing.length = 0 ∧
    (Device.draw .triangleList 3 (Sample.readyToRead 48 compiled after)).1 =
      .error (.unboundResource (.emptyStream "p")) := by
  obtain ⟨compiled, after, hcompiled, hlayout, _⟩ := Sample.gpu_draws_gap
  have hfeeds := Sample.feeds_gapBehind compiled after
  refine ⟨compiled, after, hcompiled, hlayout, hfeeds, rfl, ?_⟩
  have hcount : (3 : UInt32) ≠ 0 := by decide
  have htarget : (Sample.readyToRead 48 compiled after).bound.targetView? = some ⟨0, 8, 8⟩ := rfl
  have hprogram : (Sample.readyToRead 48 compiled after).bound.program =
      some ⟨compiled.vertex, compiled.fragment, compiled.inputLayout⟩ := rfl
  have hlisted : compiled.inputLayout.attributes = [] ++ Sample.positionAttribute :: [] := hlayout
  have hsupported : Primitive.triangleList.isSupported = true := rfl
  obtain ⟨hrefused, _⟩ := empty_streams_refused_at_end hsupported hcount hprogram htarget hlisted
    (fun _ hother => absurd hother List.not_mem_nil) hfeeds rfl
  exact hrefused fun _ hbehind => absurd hbehind List.not_mem_nil

/-- A gap before the triangle is not seen: the stream holds no scalar and feeds the only attribute, but
the draw is accepted. -/
theorem empty_stream_accepted : ∃ compiled after,
    compileProgram Sample.config Sample.program ({} : Gpu) = (.ok compiled, after) ∧
    compiled.inputLayout.attributes = [Sample.positionAttribute] ∧
    (Sample.readyToRead 0 compiled after).bound.Feeds Sample.positionAttribute
      [] Sample.nothing [Sample.corners] ∧
    Sample.nothing.length = 0 ∧
    isAccepted (Device.draw .triangleList 3 (Sample.readyToRead 0 compiled after)).1 = true := by
  obtain ⟨compiled, after, hcompiled, hlayout, haccepted⟩ := Sample.gpu_draws_gap
  exact ⟨compiled, after, hcompiled, hlayout, Sample.feeds_gapBefore compiled after, rfl, haccepted⟩

end FramePlan
