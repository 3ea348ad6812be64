import FramePlan.Value

/-!
# Vertex formats

How a vertex attribute is stored in a buffer: as one to four 32-bit numbers of a kind. Truth values
are stored as words.

`VertexFormat` is the engine's type of that name, with `ofInputType?` and `size` as its
`from_input_type` and `size`, and `Scalar.feeds` is `feeds` of its `ArrayKind`.
-/

namespace FramePlan

/-- The memory format of a vertex attribute. -/
structure VertexFormat where
  kind : NumericKind
  width : Width
deriving DecidableEq, Repr

def Scalar.storedKind : Scalar → NumericKind
  | .float => .float
  | .int => .int
  | .word | .bool => .word

namespace VertexFormat

/-- The format that stores elements of a type; matrices and textures have none. -/
def ofInputType? : InputType → Option VertexFormat
  | .vector scalar width => some ⟨scalar.storedKind, width⟩
  | .matrix _ | .texture _ => none

def size (format : VertexFormat) : Nat := 4 * format.width.size

/-- The name of a format: the kind, the bits of a component, and how many there are. -/
def name (format : VertexFormat) : String :=
  let kind := match format.kind with
    | .float => "Float32"
    | .int => "Sint32"
    | .word => "Uint32"
  match format.width with
  | .one => kind
  | .two => kind ++ "x2"
  | .three => kind ++ "x3"
  | .four => kind ++ "x4"

theorem size_ofInputType? {type : InputType} {format : VertexFormat}
    (hformat : ofInputType? type = some format) : format.size = 4 * type.componentCount := by
  cases type with
  | vector scalar width => cases hformat; rfl
  | matrix side => cases hformat
  | texture kind => cases hformat

end VertexFormat

/-- Whether scalars of a kind can be read in a format. -/
def Scalar.feeds (scalar : Scalar) (format : VertexFormat) : Bool :=
  scalar.storedKind == format.kind

end FramePlan
