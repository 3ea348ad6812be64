import FramePlan.Number.Single

/-!
# Values, input types and raw arrays

The leaves of a pipeline description. A type is a scalar kind with a component count, a square
float matrix, or a texture kind; its name abbreviates that (`V3F` is three floats). Uniform values,
clear values and stream arrays are typed data of these kinds.

`Value`, `InputType`, `ArrayValue` and `ImageSemantic` are the types of the description format;
`Value.zero?`, `Value.inputType` and `ArrayValue.bytes` are its `zero`, `input_type` and
`to_le_bytes`.
-/

namespace FramePlan

inductive ImageSemantic where
  | depth
  | stencil
  | color
deriving DecidableEq, Repr

/-- The kinds of 32-bit scalars. -/
inductive Scalar where
  | bool
  | word
  | int
  | float
deriving DecidableEq, Repr

/-- The number of components of a scalar or vector. -/
inductive Width where
  | one
  | two
  | three
  | four
deriving DecidableEq, Repr

/-- The number of columns and of rows of a square matrix. -/
inductive Side where
  | two
  | three
  | four
deriving DecidableEq, Repr

/-- The kinds of numbers that a texture holds or a vertex attribute is read as. -/
inductive NumericKind where
  | float
  | int
  | word
deriving DecidableEq, Repr

@[reducible]
def Width.size : Width → Nat
  | .one => 1
  | .two => 2
  | .three => 3
  | .four => 4

@[reducible]
def Side.size : Side → Nat
  | .two => 2
  | .three => 3
  | .four => 4

/-- The declared type of a uniform, stream or texture. -/
inductive InputType where
  | vector (scalar : Scalar) (width : Width)
  | matrix (side : Side)
  | texture (kind : NumericKind)
deriving DecidableEq, Repr

namespace InputType

/-- Every type, scalars and vectors first. -/
def all : List InputType :=
  [.vector .bool .one, .vector .bool .two, .vector .bool .three, .vector .bool .four,
    .vector .word .one, .vector .word .two, .vector .word .three, .vector .word .four,
    .vector .int .one, .vector .int .two, .vector .int .three, .vector .int .four,
    .vector .float .one, .vector .float .two, .vector .float .three, .vector .float .four,
    .matrix .two, .matrix .three, .matrix .four,
    .texture .float, .texture .int, .texture .word]

def name : InputType → String
  | .vector .bool .one => "Bool"
  | .vector .bool .two => "V2B"
  | .vector .bool .three => "V3B"
  | .vector .bool .four => "V4B"
  | .vector .word .one => "Word"
  | .vector .word .two => "V2U"
  | .vector .word .three => "V3U"
  | .vector .word .four => "V4U"
  | .vector .int .one => "Int"
  | .vector .int .two => "V2I"
  | .vector .int .three => "V3I"
  | .vector .int .four => "V4I"
  | .vector .float .one => "Float"
  | .vector .float .two => "V2F"
  | .vector .float .three => "V3F"
  | .vector .float .four => "V4F"
  | .matrix .two => "M22F"
  | .matrix .three => "M33F"
  | .matrix .four => "M44F"
  | .texture .float => "FTexture2D"
  | .texture .int => "ITexture2D"
  | .texture .word => "UTexture2D"

/-- The number of scalars in one element; a texture has none. -/
def componentCount : InputType → Nat
  | .vector _ width => width.size
  | .matrix side => side.size * side.size
  | .texture _ => 0

def isSampler : InputType → Bool
  | .texture _ => true
  | _ => false

end InputType

/-- The component of a vector that has no other. -/
def only {α : Type} (components : Vector α 1) : α := components[0]

/-- A typed uniform or clear value. Matrices are held column by column. -/
inductive Value where
  | bools (width : Width) (components : Vector Bool width.size)
  | words (width : Width) (components : Vector UInt32 width.size)
  | ints (width : Width) (components : Vector Int32 width.size)
  | floats (width : Width) (components : Vector Single width.size)
  | matrix (side : Side) (columns : Vector (Vector Single side.size) side.size)
deriving DecidableEq, Repr

namespace Value

def inputType : Value → InputType
  | .bools width _ => .vector .bool width
  | .words width _ => .vector .word width
  | .ints width _ => .vector .int width
  | .floats width _ => .vector .float width
  | .matrix side _ => .matrix side

/-- The all-zero value of a type; a texture has no value. -/
def zero? : InputType → Option Value
  | .vector .bool width => some (.bools width (.replicate _ false))
  | .vector .word width => some (.words width (.replicate _ 0))
  | .vector .int width => some (.ints width (.replicate _ 0))
  | .vector .float width => some (.floats width (.replicate _ .zero))
  | .matrix side => some (.matrix side (.replicate _ (.replicate _ .zero)))
  | .texture _ => none

theorem inputType_zero? {type : InputType} {value : Value} (hzero : zero? type = some value) :
    value.inputType = type := by
  rcases type with ⟨scalar, width⟩ | side | kind
  · cases scalar <;> cases hzero <;> rfl
  · cases hzero
    rfl
  · cases hzero

theorem zero?_isSome (type : InputType) : (zero? type).isSome = !type.isSampler := by
  rcases type with ⟨scalar, width⟩ | side | kind
  · cases scalar <;> rfl
  · rfl
  · rfl

end Value

/-! ## Bytes and padding -/

/-- The least multiple of an alignment that is not below an offset. -/
def roundUp (alignment offset : Nat) : Nat := (offset + alignment - 1) / alignment * alignment

theorem le_roundUp {alignment offset : Nat} (hpos : 0 < alignment) :
    offset ≤ roundUp alignment offset := by
  unfold roundUp
  have := Nat.div_add_mod (offset + alignment - 1) alignment
  have := Nat.mod_lt (offset + alignment - 1) hpos
  rw [Nat.mul_comm]
  omega

theorem dvd_roundUp (alignment offset : Nat) : alignment ∣ roundUp alignment offset :=
  Nat.dvd_mul_left _ _

/-- Every multiple that is not below an offset is not below the least one. -/
theorem roundUp_le {alignment offset multiple : Nat} (hpos : 0 < alignment)
    (hdvd : alignment ∣ multiple) (hle : offset ≤ multiple) : roundUp alignment offset ≤ multiple := by
  obtain ⟨count, rfl⟩ := hdvd
  have hcount : (offset + alignment - 1) / alignment ≤ count := by
    rw [← Nat.lt_succ_iff, Nat.div_lt_iff_lt_mul hpos, Nat.succ_mul, Nat.mul_comm]
    omega
  rw [roundUp, Nat.mul_comm]
  exact Nat.mul_le_mul_left alignment hcount

/-- The bytes of a 32-bit word, least significant first. -/
def littleEndian (word : UInt32) : List UInt8 :=
  [word.toUInt8, (word >>> 8).toUInt8, (word >>> 16).toUInt8, (word >>> 24).toUInt8]

@[simp]
theorem length_littleEndian (word : UInt32) : (littleEndian word).length = 4 := rfl

/-- The word that stands for a boolean: one for true. -/
def boolWord (b : Bool) : UInt32 := if b then 1 else 0

/-- The contents of one vertex stream array. -/
inductive ArrayValue where
  | bools (elements : List Bool)
  | ints (elements : List Int32)
  | words (elements : List UInt32)
  | floats (elements : List Single)
deriving DecidableEq, Repr

namespace ArrayValue

def kind : ArrayValue → Scalar
  | .bools _ => .bool
  | .ints _ => .int
  | .words _ => .word
  | .floats _ => .float

/-- The elements as 32-bit words. -/
def words32 : ArrayValue → List UInt32
  | .bools elements => elements.map boolWord
  | .ints elements => elements.map Int32.toUInt32
  | .words elements => elements
  | .floats elements => elements.map Single.bits

def length : ArrayValue → Nat
  | .bools elements => elements.length
  | .ints elements => elements.length
  | .words elements => elements.length
  | .floats elements => elements.length

def isEmpty (array : ArrayValue) : Bool := array.length == 0

/-- The bytes of the array, four to a scalar, least significant first. -/
def bytes (array : ArrayValue) : List UInt8 := array.words32.flatMap littleEndian

@[simp]
theorem length_words32 (array : ArrayValue) : array.words32.length = array.length := by
  cases array <;> simp [words32, length]

@[simp]
theorem length_bytes (array : ArrayValue) : array.bytes.length = 4 * array.length := by
  rw [bytes, ← length_words32]
  induction array.words32 with
  | nil => rfl
  | cons word rest ih =>
    rw [List.flatMap_cons, List.length_append, ih, length_littleEndian, List.length_cons]
    omega

end ArrayValue

end FramePlan
