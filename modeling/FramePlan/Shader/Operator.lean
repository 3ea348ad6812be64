import FramePlan.Shader.Constant

/-!
# Types of operators and of the functions of the language

Each rule takes the types of the operands to the type of the result, or to `none` where the operands
do not fit. Operands of abstract types are brought to the type of the others first.

The rules are those of the type resolution and the validator of `naga`.
-/

namespace FramePlan.Shader

namespace DataType

/-- The type that two types have in common, where one becomes the other. -/
def common? (first second : DataType) : Option DataType :=
  if first.becomes second then some second
  else if second.becomes first then some first
  else none

/-- The type that all types of a list have in common. -/
def commonOf? : List DataType → Option DataType
  | [] => none
  | first :: rest => rest.foldlM common? first

/-- Whether the type is a scalar or vector whose leaf satisfies a condition. -/
def isPlain (accepts : ScalarType → Bool) : DataType → Bool
  | .scalar leaf | .vector _ leaf => accepts leaf
  | _ => false

/-- The type with an abstract integer leaf turned into an abstract floating-point one. -/
def floating (type : DataType) : DataType :=
  if type.leaf? == some .abstractInt then type.withLeaf .abstractFloat else type

/-- The type with a truth value for each component. -/
def truth : DataType → DataType
  | .vector size _ => .vector size .bool
  | _ => .scalar .bool

def float : DataType := .scalar .float
def uint : DataType := .scalar .uint
def int : DataType := .scalar .int
def bool : DataType := .scalar .bool

end DataType

namespace UnaryOperator

def result? (operator : UnaryOperator) (type : DataType) : Option DataType :=
  let accepted : Bool := match operator with
    | .negate => type.isPlain fun leaf => leaf.isFloat || leaf.isSigned
    | .logicalNot => type.isPlain (· == .bool)
    | .bitwiseNot => type.isPlain ScalarType.isInteger
    | .dereference | .address => false
  if accepted then some type else none

end UnaryOperator

namespace BinaryOperator

/-- Gives the operands of arithmetic their common leaf. -/
def balanced? (left right : DataType) : Option (DataType × DataType) := do
  let leaf ← DataType.commonOf? [.scalar (← left.leaf?), .scalar (← right.leaf?)]
  let leaf ← leaf.leaf?
  return (left.withLeaf leaf, right.withLeaf leaf)

/-- The product of two types that have one leaf. -/
def product? : DataType → DataType → Option DataType
  | .matrix columns rows leaf, .vector size _ =>
    if size == columns then some (.vector rows leaf) else none
  | .vector size leaf, .matrix columns rows _ =>
    if size == rows then some (.vector columns leaf) else none
  | .matrix columns rows leaf, .matrix others columns' _ =>
    if columns == columns' then some (.matrix others rows leaf) else none
  | .matrix columns rows leaf, .scalar _ => some (.matrix columns rows leaf)
  | .scalar _, .matrix columns rows leaf => some (.matrix columns rows leaf)
  | _, _ => none

/-- The type of arithmetic: componentwise, a scalar being repeated for a vector. -/
def arithmetic? (operator : BinaryOperator) (left right : DataType) : Option DataType := do
  let (left, right) ← balanced? left right
  let isMatrix := !(left.isPlain fun _ => true) || !(right.isPlain fun _ => true)
  if !((← left.leaf?).isNumeric) then none
  else if isMatrix then
    if operator == .multiply then product? left right
    else if left == right && (operator == .add || operator == .subtract) then some left
    else none
  else match left, right with
    | .vector size leaf, .scalar _ | .scalar _, .vector size leaf => some (.vector size leaf)
    | left, right => if left == right then some left else none

def result? (operator : BinaryOperator) (left right : DataType) : Option DataType :=
  match operator with
  | .add | .subtract | .multiply | .divide | .remainder => arithmetic? operator left right
  | .equal | .notEqual => do
    let type ← DataType.common? left right
    if (type.leaf?).isSome then some type.truth else none
  | .less | .lessEqual | .greater | .greaterEqual => do
    let type ← DataType.common? left right
    if type.isPlain ScalarType.isNumeric then some type.truth else none
  | .bitAnd | .bitOr => do
    let type ← DataType.common? left right
    if type.isPlain (fun leaf => leaf.isInteger || leaf == .bool) then some type else none
  | .bitXor => do
    let type ← DataType.common? left right
    if type.isPlain ScalarType.isInteger then some type else none
  | .logicalAnd | .logicalOr =>
    if left == right && left.isPlain (· == .bool) then some left else none
  | .shiftLeft | .shiftRight =>
    let count := right.withLeaf .uint
    if left.isPlain ScalarType.isInteger && right.becomes count && count == left.withLeaf .uint
    then some left else none

end BinaryOperator

/-! ## Functions that compute with numbers -/

namespace Arithmetic

/-- The functions on floating-point scalars and vectors that keep the type, by their number of
arguments. -/
def floatFunctions : Nat → List String
  | 1 => ["cos", "cosh", "sin", "sinh", "tan", "tanh", "acos", "acosh", "asin", "asinh", "atan",
      "atanh", "radians", "degrees", "ceil", "floor", "round", "fract", "trunc", "exp", "exp2",
      "log", "log2", "sqrt", "inverseSqrt", "saturate"]
  | 2 => ["atan2", "pow", "step"]
  | 3 => ["fma", "smoothstep"]
  | _ => []

/-- The functions on numeric scalars and vectors that keep the type. -/
def numericFunctions : Nat → List String
  | 1 => ["abs"]
  | 2 => ["min", "max"]
  | 3 => ["clamp"]
  | _ => []

def vectorFunctions : Nat → List String
  | 1 => ["normalize"]
  | 2 => ["reflect"]
  | 3 => ["faceForward"]
  | _ => []

def integerFunctions : List String :=
  ["countOneBits", "reverseBits", "countLeadingZeros", "countTrailingZeros", "firstLeadingBit",
    "firstTrailingBit"]

/-- The functions that put a vector into a word, with the type of the vector. -/
def packing : List (String × DataType) :=
  [("pack4x8snorm", .vector .four .float), ("pack4x8unorm", .vector .four .float),
    ("pack2x16snorm", .vector .two .float), ("pack2x16unorm", .vector .two .float),
    ("pack2x16float", .vector .two .float), ("pack4xI8", .vector .four .int),
    ("pack4xU8", .vector .four .uint), ("pack4xI8Clamp", .vector .four .int),
    ("pack4xU8Clamp", .vector .four .uint)]

/-- The functions that take a vector out of a word, with the type of the vector. -/
def unpacking : List (String × DataType) :=
  [("unpack4x8snorm", .vector .four .float), ("unpack4x8unorm", .vector .four .float),
    ("unpack2x16snorm", .vector .two .float), ("unpack2x16unorm", .vector .two .float),
    ("unpack2x16float", .vector .two .float), ("unpack4xI8", .vector .four .int),
    ("unpack4xU8", .vector .four .uint)]

/-- The type of a function that asks its arguments for one type. -/
def uniform? (name : String) (type : DataType) (count : Nat) : Option DataType :=
  let float := type.floating
  if (floatFunctions count).contains name then
    if float.isPlain ScalarType.isFloat then some float else none
  else if (numericFunctions count).contains name then
    if type.isPlain ScalarType.isNumeric then some type else none
  else if (vectorFunctions count).contains name then
    match float with
    | .vector _ leaf => if leaf.isFloat then some float else none
    | _ => none
  else if name == "sign" && count = 1 then
    if type.isPlain (fun leaf => leaf.isFloat || leaf.isSigned) then some type else none
  else if integerFunctions.contains name && count = 1 then
    if type.concrete.isPlain ScalarType.isInteger then some type.concrete else none
  else if (name == "length" && count = 1) || (name == "distance" && count = 2) then
    if float.isPlain ScalarType.isFloat then float.leaf?.map .scalar else none
  else if name == "dot" && count = 2 then
    match type with
    | .vector _ leaf => if leaf.isNumeric then some (.scalar leaf) else none
    | _ => none
  else if name == "cross" && count = 2 then
    match float with
    | .vector .three leaf => if leaf.isFloat then some float else none
    | _ => none
  else if name == "mix" && count = 3 then
    if float.isPlain ScalarType.isFloat then some float else none
  else if (name == "dot4U8Packed" || name == "dot4I8Packed") && count = 2 then
    if type.becomes .uint then some (if name == "dot4U8Packed" then .uint else .int) else none
  else none

/-- The type of a function that asks each argument for a type of its own. -/
def mixed? (name : String) (types : List DataType) : Option DataType :=
  match name, types with
  | "mix", [low, high, share] => do
    let type := (← DataType.common? low high).floating
    match type with
    | .vector size leaf =>
      let common ← DataType.common? (.scalar leaf) share.floating
      match common with
      | .scalar leaf => if leaf.isFloat then some (.vector size leaf) else none
      | _ => none
    | _ => none
  | "refract", [direction, normal, ratio] => do
    let type := (← DataType.common? direction normal).floating
    match type, ratio.floating with
    | .vector size leaf, .scalar other => do
      let common ← (← DataType.common? (.scalar leaf) (.scalar other)).leaf?
      if common.isFloat then some (.vector size common) else none
    | _, _ => none
  | "ldexp", [significand, exponent] =>
    let type := significand.floating
    if type.isPlain ScalarType.isFloat && exponent.becomes (type.withLeaf .int) then some type
    else none
  | "extractBits", [value, offset, count] =>
    if value.concrete.isPlain ScalarType.isInteger && offset.becomes .uint && count.becomes .uint
    then some value.concrete else none
  | "insertBits", [value, bits, offset, count] => do
    let type := (← DataType.common? value bits).concrete
    if type.isPlain ScalarType.isInteger && offset.becomes .uint && count.becomes .uint
    then some type else none
  | "select", [reject, accept, condition] => do
    let type ← DataType.common? reject accept
    if !(type.isPlain fun _ => true) then none
    else if condition == .bool || condition == type.truth then some type else none
  | "all", [value] | "any", [value] => if value.isPlain (· == .bool) then some .bool else none
  | "transpose", [.matrix columns rows leaf] => some (.matrix rows columns leaf)
  | "determinant", [.matrix columns rows leaf] =>
    if columns == rows then some (.scalar leaf) else none
  | "quantizeToF16", [value] => do
    let type := value.floating
    let goal := type.withLeaf .float
    if type.isPlain (fun _ => true) && type.becomes goal then some goal else none
  | "modf", [value] | "frexp", [value] =>
    match value.floating.concrete with
    | .scalar .float => some (.structure s!"__{name}_result_f32")
    | .vector size .float => some (.structure s!"__{name}_result_vec{size.size}_f32")
    | _ => none
  | name, [value] =>
    match packing.lookup name, unpacking.lookup name with
    | some argument, _ => if value.becomes argument then some .uint else none
    | _, some result => if value.becomes .uint then some result else none
    | _, _ => none
  | _, _ => none

def result? (name : String) (types : List DataType) : Option DataType :=
  let shared := (DataType.commonOf? types).bind fun type => uniform? name type types.length
  shared.or (mixed? name types)

/-- The structures that functions give back, with their members. -/
def resultStructures : List (String × List (String × DataType)) :=
  let shapes : List (String × DataType × DataType) :=
    [("f32", .float, .int), ("vec2_f32", .vector .two .float, .vector .two .int),
      ("vec3_f32", .vector .three .float, .vector .three .int),
      ("vec4_f32", .vector .four .float, .vector .four .int)]
  shapes.flatMap fun (shape, type, exponent) =>
    [(s!"__modf_result_{shape}", [("fract", type), ("whole", type)]),
      (s!"__frexp_result_{shape}", [("fract", type), ("exp", exponent)])]

def derivatives : List String :=
  ["dpdx", "dpdxCoarse", "dpdxFine", "dpdy", "dpdyCoarse", "dpdyFine", "fwidth", "fwidthCoarse",
    "fwidthFine"]

end Arithmetic

end FramePlan.Shader
