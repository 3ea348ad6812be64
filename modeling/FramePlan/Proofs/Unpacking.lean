import FramePlan.Device.Recorder
import FramePlan.Proofs.Packing
import Mathlib.Algebra.GroupWithZero.Nat

/-!
# Packed arrays read back

A buffer has for each of its arrays the start, the length and the kind of its scalars.
That is all that is needed to read an array back: the arrays divide the bytes of the buffer among
themselves, and the bytes of an array make its scalars again, one for every four of them, to the last
bit of a float.

* `ArrayValue.unpack?`: the array that bytes make.
* `ArrayValue.unpack?_bytes`: reading undoes packing.
* `BufferArray.pairwise_layout`, `BufferArray.exists_spans_iff`: packed arrays divide the bytes.
* `packed_arrays_read_back`: so it is for every buffer that a recorder makes.
-/

namespace FramePlan

/-! ## Reading bytes -/

/-- The number that bytes make, least significant first. -/
def ofLittleEndian (bytes : List UInt8) : Nat :=
  bytes.foldr (fun byte value => byte.toNat + 256 * value) 0

/-- The words that bytes make, four to a word. Bytes that do not fill their last word make none. -/
def wordsOf? : List UInt8 → Option (List UInt32)
  | [] => some []
  | first :: second :: third :: fourth :: rest =>
    (wordsOf? rest).map ((ofLittleEndian [first, second, third, fourth]).toUInt32 :: ·)
  | _ => none

/-- The boolean that a word stands for, if it is zero or one. -/
def boolOf? (word : UInt32) : Option Bool :=
  if word = 0 then some false else if word = 1 then some true else none

/-- The array of scalars of a kind that bytes make. -/
def ArrayValue.unpack? (kind : Scalar) (bytes : List UInt8) : Option ArrayValue := do
  let words ← wordsOf? bytes
  match kind with
  | .bool => (words.mapM boolOf?).map .bools
  | .int => some (.ints (words.map UInt32.toInt32))
  | .word => some (.words words)
  | .float => some (.floats (words.map Single.mk))

theorem ofLittleEndian_littleEndian (word : UInt32) :
    ofLittleEndian (littleEndian word) = word.toNat := by
  have hbound := word.toNat_lt
  simp [ofLittleEndian, littleEndian, Nat.shiftRight_eq_div_pow]
  omega

@[simp]
theorem wordsOf?_flatMap_littleEndian (words : List UInt32) :
    wordsOf? (words.flatMap littleEndian) = some words := by
  induction words with
  | nil => rfl
  | cons word rest ih =>
    have hword : (ofLittleEndian (littleEndian word)).toUInt32 = word := by
      rw [ofLittleEndian_littleEndian, Nat.toUInt32, UInt32.ofNat_toNat]
    calc wordsOf? ((word :: rest).flatMap littleEndian)
        = (wordsOf? (rest.flatMap littleEndian)).map
            ((ofLittleEndian (littleEndian word)).toUInt32 :: ·) := rfl
      _ = some (word :: rest) := by rw [ih, hword, Option.map_some]

@[simp]
theorem boolOf?_boolWord (b : Bool) : boolOf? (boolWord b) = some b := by cases b <;> rfl

theorem mapM_boolOf?_map_boolWord (elements : List Bool) :
    (elements.map boolWord).mapM boolOf? = some elements := by
  induction elements with
  | nil => rfl
  | cons element rest ih => simp [ih]

theorem ArrayValue.unpack?_bytes (array : ArrayValue) :
    unpack? array.kind array.bytes = some array := by
  rw [unpack?, bytes, wordsOf?_flatMap_littleEndian, Option.bind_eq_bind, Option.bind_some]
  cases array with
  | bools elements =>
    show ((elements.map boolWord).mapM boolOf?).map bools = _
    rw [mapM_boolOf?_map_boolWord, Option.map_some]
  | ints elements => simp [kind, words32, Function.comp_def]
  | words elements => rfl
  | floats elements => simp [kind, words32, Function.comp_def]

/-- A float keeps its bits, here those of the negative zero. -/
example : ArrayValue.unpack? .float [0, 0, 0, 0x80] = some (.floats [⟨0x80000000⟩]) := by decide

/-! ## The places of arrays -/

theorem ArrayValue.length_flatMap_bytes (arrays : List ArrayValue) :
    (arrays.flatMap bytes).length = 4 * (arrays.map length).sum := by
  induction arrays with
  | nil => rfl
  | cons array rest ih => simp [ih, Nat.mul_add]

namespace BufferArray

/-- Whether the byte at an index is one of the array at a place. -/
def Spans (place : BufferArray) (byte : Nat) : Prop :=
  place.offset ≤ byte ∧ byte < place.offset + 4 * place.length

/-- The bytes of the array at a place. -/
def slice (place : BufferArray) (contents : List UInt8) : List UInt8 :=
  (contents.drop place.offset).take (4 * place.length)

theorem offset_le_of_mem_layout {offset : Nat} {arrays : List ArrayValue} {place : BufferArray}
    (hmem : place ∈ layout offset arrays) : offset ≤ place.offset := by
  induction arrays generalizing offset with
  | nil => cases hmem
  | cons array rest ih =>
    rcases List.mem_cons.1 hmem with rfl | hrest
    · exact Nat.le_refl offset
    · exact Nat.le_trans (Nat.le_add_right _ _) (ih hrest)

/-- Every array ends before the next one starts. -/
theorem pairwise_layout (offset : Nat) (arrays : List ArrayValue) :
    (layout offset arrays).Pairwise fun earlier later =>
      earlier.offset + 4 * earlier.length ≤ later.offset := by
  induction arrays generalizing offset with
  | nil => exact .nil
  | cons array rest ih =>
    refine List.pairwise_cons.2 ⟨?_, ih _⟩
    intro later hlater
    simpa using offset_le_of_mem_layout hlater

/-- The bytes of packed arrays are those from the first place on that the arrays fill. -/
theorem exists_spans_iff (offset : Nat) (arrays : List ArrayValue) (byte : Nat) :
    (∃ place ∈ layout offset arrays, place.Spans byte) ↔
      offset ≤ byte ∧ byte < offset + (arrays.flatMap ArrayValue.bytes).length := by
  induction arrays generalizing offset with
  | nil => simp [layout]
  | cons array rest ih =>
    simp only [layout, List.mem_cons, exists_eq_or_imp, ih]
    simp only [Spans, ArrayValue.length_bytes, List.flatMap_cons, List.length_append]
    omega

/-- The array at an index starts behind the scalars of the arrays before it. -/
theorem getElem?_layout {arrays : List ArrayValue} {index : Nat} {array : ArrayValue}
    (hget : arrays[index]? = some array) :
    (layout 0 arrays)[index]? =
      some ⟨array.kind, 4 * ((arrays.take index).map ArrayValue.length).sum, array.length⟩ := by
  obtain ⟨hindex, rfl⟩ := List.getElem?_eq_some_iff.1 hget
  have hplace := getElem?_layout_append 0 (arrays.take index) (arrays.drop (index + 1)) arrays[index]
  rw [List.getElem_cons_drop, List.take_append_drop, List.length_take,
    Nat.min_eq_left (Nat.le_of_lt hindex), Nat.zero_add, ArrayValue.length_flatMap_bytes] at hplace
  exact hplace

/-- The bytes at the place of an array are its own. -/
theorem slice_flatMap_bytes (earlier later : List ArrayValue) (array : ArrayValue) (kind : Scalar) :
    slice ⟨kind, 4 * (earlier.map ArrayValue.length).sum, array.length⟩
      ((earlier ++ array :: later).flatMap ArrayValue.bytes) = array.bytes := by
  rw [slice, List.flatMap_append, List.flatMap_cons, ← ArrayValue.length_flatMap_bytes,
    List.drop_left, ← ArrayValue.length_bytes, List.take_left]

end BufferArray

/-- A recorder packs arrays back to back: each starts behind the scalars of those before it, they divide
the bytes among themselves, and the bytes of each read back as it was. -/
theorem packed_arrays_read_back (arrays : List ArrayValue) (recorder : Recorder) :
    ∃ (buffer : Buffer RecordedBuffer) (after : Recorder),
      Buffer.create arrays recorder = (.ok buffer, after) ∧
      after.calls = recorder.calls.push (.createVertexBuffer buffer.handle.contents.length) ∧
      buffer.handle.contents.length = 4 * (arrays.map ArrayValue.length).sum ∧
      buffer.arrays.length = arrays.length ∧
      (∀ index array, arrays[index]? = some array →
        ∃ place, buffer.arrays[index]? = some place ∧
          place.kind = array.kind ∧ place.length = array.length ∧
          place.offset = 4 * ((arrays.take index).map ArrayValue.length).sum ∧
          ArrayValue.unpack? place.kind (place.slice buffer.handle.contents) = some array) ∧
      (∀ byte, byte < buffer.handle.contents.length ↔ ∃ place ∈ buffer.arrays, place.Spans byte) ∧
      buffer.arrays.Pairwise fun place other => ∀ byte, ¬(place.Spans byte ∧ other.Spans byte) := by
  refine ⟨_, _, rfl, rfl, ArrayValue.length_flatMap_bytes arrays,
    BufferArray.length_layout 0 arrays, ?_, ?_, ?_⟩
  · intro index array hget
    refine ⟨_, BufferArray.getElem?_layout hget, rfl, rfl, rfl, ?_⟩
    obtain ⟨hindex, rfl⟩ := List.getElem?_eq_some_iff.1 hget
    have hslice := BufferArray.slice_flatMap_bytes (arrays.take index) (arrays.drop (index + 1))
      arrays[index] arrays[index].kind
    rw [List.getElem_cons_drop, List.take_append_drop] at hslice
    rw [hslice, ArrayValue.unpack?_bytes]
  · intro byte
    have hspans := BufferArray.exists_spans_iff 0 arrays byte
    simpa using hspans.symm
  · refine (BufferArray.pairwise_layout 0 arrays).imp ?_
    rintro place other hends byte ⟨hplace, hother⟩
    have hbefore : byte < other.offset := Nat.lt_of_lt_of_le hplace.2 hends
    exact absurd hother.1 (Nat.not_le.2 hbefore)

end FramePlan
