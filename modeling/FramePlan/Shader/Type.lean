import FramePlan.Value

/-!
# Shader types and their layout

The types of the shading language, with the size and alignment that each has in a buffer. A
structure is referred to by its name; what it is made of is kept in a `StructLayout` that is settled
once, when the structure is declared.

* `DataType.size` and `DataType.alignment` are the language's layout rules.
* `DataType.traits`: what a type may be used for.

The layout rules are those of `naga`.
-/

namespace FramePlan.Shader

/-- The scalars of the language. The abstract ones are those of literals without a suffix. -/
inductive ScalarType where
  | bool
  | int
  | uint
  | float
  | half
  | long
  | ulong
  | double
  | abstractInt
  | abstractFloat
deriving DecidableEq, Repr

namespace ScalarType

def width : ScalarType → Nat
  | .bool => 1
  | .half => 2
  | .int | .uint | .float => 4
  | .long | .ulong | .double | .abstractInt | .abstractFloat => 8

def isInteger : ScalarType → Bool
  | .int | .uint | .long | .ulong | .abstractInt => true
  | _ => false

def isFloat : ScalarType → Bool
  | .float | .half | .double | .abstractFloat => true
  | _ => false

def isSigned : ScalarType → Bool
  | .int | .long | .abstractInt => true
  | _ => false

def isNumeric (scalar : ScalarType) : Bool := scalar.isInteger || scalar.isFloat

/-- The scalar that an abstract one becomes where nothing else is asked for. -/
def concrete : ScalarType → ScalarType
  | .abstractInt => .int
  | .abstractFloat => .float
  | scalar => scalar

def becomes (source target : ScalarType) : Bool :=
  source == target ||
    (source == .abstractInt && target.isNumeric) || (source == .abstractFloat && target.isFloat)

end ScalarType

/-- How a resource may be accessed. -/
inductive Access where
  | read
  | write
  | readWrite
deriving DecidableEq, Repr

def Access.allowsRead : Access → Bool
  | .write => false
  | _ => true

def Access.allowsWrite : Access → Bool
  | .read => false
  | _ => true

inductive AddressSpace where
  | function
  | perInvocation
  | workgroup
  | uniform
  | storage (access : Access)
  | pushConstant
  /-- The space of textures and samplers. -/
  | handle
deriving DecidableEq, Repr

def AddressSpace.access : AddressSpace → Access
  | .function | .perInvocation | .workgroup => .readWrite
  | .uniform | .pushConstant | .handle => .read
  | .storage access => access

inductive Dimension where
  | line
  | plane
  | planeArray
  | volume
  | cube
  | cubeArray
deriving DecidableEq, Repr

/-- Whether the layers of a texture are chosen by an index. -/
def Dimension.isArrayed : Dimension → Bool
  | .planeArray | .cubeArray => true
  | _ => false

/-- What a texture holds. -/
inductive TextureClass where
  | sampled (kind : NumericKind) (multisampled : Bool)
  | depth (multisampled : Bool)
  | storage (texel : NumericKind) (access : Access)
deriving DecidableEq, Repr

inductive DataType where
  | scalar (scalar : ScalarType)
  | vector (size : Side) (scalar : ScalarType)
  | matrix (columns rows : Side) (scalar : ScalarType)
  | atomic (scalar : ScalarType)
  /-- An array; without a length it is as long as its buffer. -/
  | array (element : DataType) (length : Option Nat)
  | structure (name : String)
  | texture (content : TextureClass) (dimension : Dimension)
  | sampler (comparison : Bool)
  | pointer (space : AddressSpace) (target : DataType)
deriving DecidableEq, Repr

namespace DataType

/-- The scalar of which a scalar, vector or matrix is made. -/
def leaf? : DataType → Option ScalarType
  | .scalar leaf | .vector _ leaf | .matrix _ _ leaf => some leaf
  | .array element _ => element.leaf?
  | _ => none

def withLeaf (leaf : ScalarType) : DataType → DataType
  | .scalar _ => .scalar leaf
  | .vector size _ => .vector size leaf
  | .matrix columns rows _ => .matrix columns rows leaf
  | .array element length => .array (element.withLeaf leaf) length
  | type => type

/-- The type without abstract leaves. -/
def concrete (type : DataType) : DataType :=
  match type.leaf? with
  | some leaf => type.withLeaf leaf.concrete
  | none => type

/-- Whether values of a type become values of another one by themselves. -/
def becomes (source target : DataType) : Bool :=
  source == target ||
    match source.leaf?, target.leaf? with
    | some given, some wanted => given.becomes wanted && source.withLeaf wanted == target
    | _, _ => false

end DataType

/-- What a type may be used for. -/
structure Traits where
  /-- Holds plain data. -/
  isData : Bool
  /-- Has a size that is known beforehand. -/
  isSized : Bool
  /-- Can be copied. -/
  isCopyable : Bool
  /-- Has a layout that the host shares. -/
  isShared : Bool
  /-- Can travel between stages. -/
  isVarying : Bool
  /-- Can be built by a constructor. -/
  isConstructible : Bool
  /-- Can be passed to a function. -/
  isArgument : Bool
deriving DecidableEq, Repr

namespace Traits

/-- The uses that two types have in common. -/
def meet (first second : Traits) : Traits where
  isData := first.isData && second.isData
  isSized := first.isSized && second.isSized
  isCopyable := first.isCopyable && second.isCopyable
  isShared := first.isShared && second.isShared
  isVarying := first.isVarying && second.isVarying
  isConstructible := first.isConstructible && second.isConstructible
  isArgument := first.isArgument && second.isArgument

def all : Traits := ⟨true, true, true, true, true, true, true⟩

end Traits

/-- How a structure is laid out, and what it may be used for. -/
structure StructLayout where
  size : Nat
  alignment : Nat
  traits : Traits
  /-- The alignment that a uniform buffer asks for, if the structure can be in one. -/
  uniformAlignment : Option Nat
deriving DecidableEq, Repr

/-- The layouts of the structures declared so far. -/
abbrev Layouts := List (String × StructLayout)

namespace DataType

/-- The distance between the columns of a matrix: that of vectors of three is that of four. -/
def columnStride (rows : Side) (leaf : ScalarType) : Nat :=
  (if rows == .two then 2 else 4) * leaf.width

def alignment (layouts : Layouts) : DataType → Nat
  | .scalar leaf | .atomic leaf => leaf.width
  | .vector size leaf => columnStride size leaf
  | .matrix _ rows leaf => columnStride rows leaf
  | .array element _ => element.alignment layouts
  | .structure name => ((layouts.lookup name).map (·.alignment)).getD 1
  | .texture _ _ | .sampler _ | .pointer _ _ => 1

/-- The size of a type in a buffer; an array without a length counts as one element. -/
def size (layouts : Layouts) : DataType → Nat
  | .scalar leaf | .atomic leaf => leaf.width
  | .vector size leaf => size.size * leaf.width
  | .matrix columns rows leaf => columns.size * columnStride rows leaf
  | .array element length =>
    roundUp (element.alignment layouts) (element.size layouts) * length.getD 1
  | .structure name => ((layouts.lookup name).map (·.size)).getD 0
  | .texture _ _ | .sampler _ | .pointer _ _ => 4

/-- The distance between the elements of an array. -/
def stride (layouts : Layouts) (element : DataType) : Nat :=
  roundUp (element.alignment layouts) (element.size layouts)

def traits (layouts : Layouts) : DataType → Traits
  | .scalar leaf | .vector _ leaf =>
    { Traits.all with isShared := leaf.isNumeric, isVarying := leaf.isNumeric }
  | .matrix _ _ _ => { Traits.all with isVarying := false }
  | .atomic _ => { Traits.all with
      isCopyable := false, isVarying := false, isConstructible := false, isArgument := false }
  | .array element (some _) => { element.traits layouts with isVarying := false }
  | .array element none => { element.traits layouts with
      isSized := false, isCopyable := false, isVarying := false, isConstructible := false,
      isArgument := false }
  | .structure name => ((layouts.lookup name).map (·.traits)).getD Traits.all
  | .texture _ _ | .sampler _ => ⟨false, false, false, false, false, false, true⟩
  | .pointer space _ =>
    ⟨false, true, true, false, false, false,
      space == .function || space == .perInvocation || space == .workgroup⟩

/-- The alignment that a uniform buffer asks for, if the type can be in one: arrays need elements
at multiples of sixteen bytes. -/
def uniformAlignment? (layouts : Layouts) : DataType → Option Nat
  | .array element _ => do
    let alignment := max 16 (← element.uniformAlignment? layouts)
    if stride layouts element % alignment = 0 then some alignment else none
  | .structure name => (layouts.lookup name).bind (·.uniformAlignment)
  | type => some (type.alignment layouts)

end DataType

/-- A member of a structure with its place. -/
structure PlacedMember where
  type : DataType
  offset : Nat
deriving DecidableEq, Repr

namespace StructLayout

/-- The alignment that a uniform buffer asks for, given the members in order: each stands at a
multiple of its own alignment, and what follows a structure keeps a distance of its size rounded up
to sixteen. -/
def uniformAlignmentOf (layouts : Layouts) (members : List PlacedMember) : Option Nat :=
  let step (state : Option (Nat × Nat)) (member : PlacedMember) : Option (Nat × Nat) := do
    let (alignment, free) ← state
    let needed ← member.type.uniformAlignment? layouts
    if member.offset % needed = 0 && free ≤ member.offset then
      let next := match member.type with
        | .structure _ => member.offset + roundUp 16 (member.type.size layouts)
        | _ => 0
      some (max alignment needed, next)
    else none
  (members.foldl step (some (16, 0))).map Prod.fst

/-- Joins the layouts of placed members; the size is what the members take up, rounded up. -/
def ofMembers (layouts : Layouts) (members : List PlacedMember) (alignment occupied : Nat) :
    StructLayout where
  size := roundUp alignment occupied
  alignment := alignment
  traits := members.foldl (fun traits member => traits.meet (member.type.traits layouts)) .all
  uniformAlignment := uniformAlignmentOf layouts members

end StructLayout

end FramePlan.Shader
