import FramePlan.Proofs.Attempt
import FramePlan.Proofs.Table
import FramePlan.Resources.Compile

/-!
# Packed stream data

Stream data is packed into one buffer, its arrays in the order of their names, four bytes to a scalar.
A stream of the data views the array with its own name, and what it is bound with starts where this
array starts. As many vertices are drawn as the shortest stream has elements, so nothing is read behind
the end of the array.

* `StreamData.Covers`: what vertices read in a format, from an offset on, is in one array.
* `StreamData.covers_of_binding`: so it is for every stream that can be bound.
-/

namespace FramePlan

/-! ## Where arrays are placed -/

/-- An array that is packed behind others starts where these end. -/
theorem BufferArray.getElem?_layout_append (offset : Nat) (earlier later : List ArrayValue)
    (array : ArrayValue) :
    (layout offset (earlier ++ array :: later))[earlier.length]? =
      some ⟨array.kind, offset + (earlier.flatMap ArrayValue.bytes).length, array.length⟩ := by
  induction earlier generalizing offset with
  | nil => rfl
  | cons head rest ih =>
    rw [List.cons_append, layout, List.length_cons, List.getElem?_cons_succ, ih,
      List.flatMap_cons, List.length_append, Nat.add_assoc]

/-- Arrays are packed at multiples of four. -/
theorem ArrayValue.four_dvd_length_flatMap_bytes (arrays : List ArrayValue) :
    4 ∣ (arrays.flatMap bytes).length := by
  induction arrays with
  | nil => exact Nat.dvd_zero 4
  | cons array rest ih =>
    rw [List.flatMap_cons, List.length_append, length_bytes]
    exact Nat.dvd_add (Nat.dvd_mul_right 4 array.length) ih

/-- The bytes of stream data: those of its arrays in the order of their names. -/
def StreamData.contents (descriptor : StreamData) : List UInt8 :=
  descriptor.arrays.values.flatMap ArrayValue.bytes

/-- What a number of vertices reads in a format, from an offset on, is in the array with a name. -/
structure StreamData.Covers (descriptor : StreamData) (name : String) (array : ArrayValue)
    (offset : Nat) (format : VertexFormat) (vertexCount : UInt32) : Prop where
  named : descriptor.arrays.get? name = some array
  /-- The array starts at the offset. -/
  placed : ∃ earlier later, descriptor.contents = earlier ++ array.bytes ++ later ∧
    earlier.length = offset
  aligned : 4 ∣ offset
  array_end : offset + vertexCount.toNat * format.size ≤ offset + 4 * array.length
  contents_end : offset + 4 * array.length ≤ descriptor.contents.length

/-! ## Streams of the data -/

section Streams

variable {Handle : Type}

/-- A stream views the array that has its name. -/
theorem exists_of_get?_dataStreams {descriptor : StreamData} {handle : Handle} {name : String}
    {stream : Stream Handle}
    (hget : (dataStreams descriptor ⟨handle, BufferArray.layout 0 descriptor.arrays.values⟩).get?
      name = some stream) :
    ∃ earlier array later, descriptor.arrays.entries = earlier ++ (name, array) :: later ∧
      stream.buffer.handle = handle ∧
      stream.array? = some ⟨array.kind,
        ((earlier.map Prod.snd).flatMap ArrayValue.bytes).length, array.length⟩ := by
  obtain ⟨earlier, array, later, hentries, rfl⟩ := Table.exists_of_get?_mapIdx hget
  refine ⟨earlier, array, later, hentries, rfl, ?_⟩
  have hplace := BufferArray.getElem?_layout_append 0 (earlier.map Prod.snd) (later.map Prod.snd) array
  rw [List.length_map, Nat.zero_add] at hplace
  rw [Stream.array?, Table.values, hentries, List.map_append, List.map_cons]
  exact hplace

/-- A stream that can be bound is bound where its array starts, in the format of its type. -/
theorem Stream.binding_eq_ok {stream : Stream Handle} {label : String}
    {binding : StreamBinding Handle} (hok : stream.binding label = .ok binding) :
    VertexFormat.ofInputType? stream.type = some binding.format ∧
      binding.buffer = stream.buffer.handle ∧
      ∃ place, stream.array? = some place ∧ binding.offset = place.offset := by
  unfold Stream.binding at hok
  cases hformat : VertexFormat.ofInputType? stream.type with
  | none =>
    rw [hformat] at hok
    cases hok
  | some format =>
    cases harray : stream.array? with
    | none =>
      rw [hformat, harray] at hok
      cases hok
    | some place =>
      rw [hformat, harray] at hok
      dsimp only at hok
      split at hok
      · cases hok
        exact ⟨rfl, rfl, place, rfl, rfl⟩
      · cases hok

/-- No more vertices are drawn than the shortest stream has elements. -/
theorem toNat_shortestLength_le {streams : Streams Handle} {name : String} {stream : Stream Handle}
    (hget : streams.get? name = some stream) :
    (shortestLength streams).toUInt32.toNat ≤ stream.length := by
  have hmem : stream.length ∈ streams.values.map Stream.length :=
    List.mem_map_of_mem (List.mem_map_of_mem (Table.get?_eq_some_iff.1 hget))
  have hshortest : shortestLength streams ≤ stream.length := by
    unfold shortestLength
    cases hmin : (streams.values.map Stream.length).min? with
    | none =>
      rw [List.min?_eq_none_iff.1 hmin] at hmem
      cases hmem
    | some least =>
      exact (List.min?_eq_some_iff.1 hmin).2 _ hmem
  have hword : (shortestLength streams).toUInt32.toNat ≤ shortestLength streams := by
    rw [Nat.toUInt32, UInt32.toNat_ofNat']
    exact Nat.mod_le _ _
  exact Nat.le_trans hword hshortest

/-- The elements of a stream are no more than the scalars of its array make. -/
theorem Stream.length_mul_size_le {stream : Stream Handle} {place : BufferArray}
    (harray : stream.array? = some place) {format : VertexFormat}
    (hformat : VertexFormat.ofInputType? stream.type = some format) :
    stream.length * format.size ≤ 4 * place.length := by
  have hcount : stream.length * max stream.type.componentCount 1 ≤ place.length := by
    rw [length, harray]
    exact Nat.div_mul_le_self _ _
  calc stream.length * format.size
      = 4 * (stream.length * stream.type.componentCount) := by
        rw [VertexFormat.size_ofInputType? hformat, Nat.mul_left_comm]
    _ ≤ 4 * (stream.length * max stream.type.componentCount 1) :=
        Nat.mul_le_mul_left 4 (Nat.mul_le_mul_left _ (Nat.le_max_left _ _))
    _ ≤ 4 * place.length := Nat.mul_le_mul_left 4 hcount

/-- Whatever stream of the data can be bound, the vertices that are drawn read its own array. -/
theorem StreamData.covers_of_binding {descriptor : StreamData} {handle : Handle}
    {streams : Streams Handle}
    (hstreams : streams =
      dataStreams descriptor ⟨handle, BufferArray.layout 0 descriptor.arrays.values⟩)
    {name : String} {stream : Stream Handle} (hget : streams.get? name = some stream)
    {label : String} {binding : StreamBinding Handle}
    (hok : stream.binding label = .ok binding) :
    ∃ array, stream.array? = some ⟨array.kind, binding.offset, array.length⟩ ∧
      binding.buffer = handle ∧
      descriptor.Covers name array binding.offset binding.format
        (shortestLength streams).toUInt32 := by
  have hviewed := hget
  rw [hstreams] at hviewed
  obtain ⟨earlier, array, later, hentries, hhandle, harray⟩ := exists_of_get?_dataStreams hviewed
  obtain ⟨hformat, hbuffer, place, hplace, hoffset⟩ := Stream.binding_eq_ok hok
  cases Option.some.inj (harray.symm.trans hplace)
  have hoffset : binding.offset = ((earlier.map Prod.snd).flatMap ArrayValue.bytes).length := hoffset
  have hcontents : descriptor.contents = (earlier.map Prod.snd).flatMap ArrayValue.bytes ++
      array.bytes ++ (later.map Prod.snd).flatMap ArrayValue.bytes := by
    rw [contents, Table.values, hentries, List.map_append, List.map_cons, List.flatMap_append,
      List.flatMap_cons, List.append_assoc]
  have hread : (shortestLength streams).toUInt32.toNat * binding.format.size ≤
      4 * array.length :=
    calc (shortestLength streams).toUInt32.toNat * binding.format.size
        ≤ stream.length * binding.format.size :=
          Nat.mul_le_mul_right _ (toNat_shortestLength_le hget)
      _ ≤ 4 * array.length := Stream.length_mul_size_le harray hformat
  refine ⟨array, ?_, hbuffer.trans hhandle, ?_⟩
  · rw [harray, hoffset]
  constructor
  · rw [Table.get?_eq_some_iff, hentries]
    simp
  · exact ⟨_, _, hcontents, hoffset.symm⟩
  · rw [hoffset]
    exact ArrayValue.four_dvd_length_flatMap_bytes _
  · exact Nat.add_le_add_left hread _
  · rw [hcontents, List.length_append, List.length_append, ArrayValue.length_bytes, hoffset]
    exact Nat.le_add_right _ _

end Streams

/-- Stream data that has been compiled is in one buffer, and as many vertices are drawn of it as the
shortest of its streams has elements. -/
theorem compileStreams_eq_ok {State : Type} {handles : Handles} [Device State handles]
    {primitive : Primitive} {descriptor : StreamData} {data : CompiledStreams handles}
    {before after : State} (hok : compileStreams primitive descriptor before = (.ok data, after)) :
    ∃ handle, Device.createVertexBuffer descriptor.contents before = (.ok handle, after) ∧
      data.streams =
        dataStreams descriptor ⟨handle, BufferArray.layout 0 descriptor.arrays.values⟩ ∧
      data.vertexCount = (shortestLength data.streams).toUInt32 := by
  obtain ⟨buffer, afterBuffer, hbuffer, hok⟩ := Attempt.bind_eq_ok.1 hok
  obtain ⟨handle, afterHandle, hhandle, hbuffer⟩ := Attempt.bind_eq_ok.1 hbuffer
  cases hbuffer
  cases hok
  exact ⟨handle, hhandle, rfl, rfl⟩

end FramePlan
