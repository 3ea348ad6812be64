import FramePlan.Shader.Sampling
import FramePlan.Shader.Scope
import FramePlan.Shader.Tree

/-!
# Types of expressions

`infer` gives the type of an expression and what is known of its value, `resolve` the type that an
expression names. The rules for constructors and for calls work on arguments whose types are known already.

The rules are those of the front end of `naga`.
-/

namespace FramePlan.Shader

open Typing

/-- The scalar of a name; half precision has to be enabled. -/
def scalarNamed? (scope : Scope) (name : String) : Option ScalarType :=
  if name == "f16" then if scope.extensions.contains "f16" then some .half else none
  else [("bool", ScalarType.bool), ("i32", .int), ("u32", .uint), ("f32", .float), ("i64", .long),
    ("u64", .ulong), ("f64", .double)].lookup name

def sideOf? : Char → Option Side
  | '2' => some .two
  | '3' => some .three
  | '4' => some .four
  | _ => none

/-- The scalar that a letter behind the name of a vector or matrix stands for. -/
def suffixScalar? (scope : Scope) : Char → Option ScalarType
  | 'f' => some .float
  | 'i' => some .int
  | 'u' => some .uint
  | 'h' => scalarNamed? scope "f16"
  | _ => none

/-- The shape of a vector or matrix that the name of a type starts with, and the rest of the name. -/
def shape? (name : List Char) : Option ((ScalarType → DataType) × List Char) :=
  match name with
  | 'v' :: 'e' :: 'c' :: size :: rest =>
    (sideOf? size).map fun size => (DataType.vector size, rest)
  | 'm' :: 'a' :: 't' :: columns :: 'x' :: rows :: rest => do
    return (DataType.matrix (← sideOf? columns) (← sideOf? rows), rest)
  | _ => none

/-- The types that have a name of their own and take no arguments. -/
def plainType? (scope : Scope) (name : String) : Option DataType :=
  let handles : List (String × DataType) :=
    [("sampler", .sampler false), ("sampler_comparison", .sampler true),
      ("texture_depth_2d", .texture (.depth false) .plane),
      ("texture_depth_2d_array", .texture (.depth false) .planeArray),
      ("texture_depth_cube", .texture (.depth false) .cube),
      ("texture_depth_cube_array", .texture (.depth false) .cubeArray),
      ("texture_depth_multisampled_2d", .texture (.depth true) .plane)]
  match scalarNamed? scope name, handles.lookup name, shape? name.toList with
  | some scalar, _, _ => some (.scalar scalar)
  | _, some handle, _ => some handle
  | _, _, some (shape, [letter]) => do
    let leaf ← suffixScalar? scope letter
    match shape leaf with
    | .matrix _ _ leaf => if leaf.isFloat then some (shape leaf) else none
    | vector => some vector
  | _, _, _ => none

/-- The dimension and the multisampling of a texture type that takes the sampled type. -/
def sampledTexture? (name : String) : Option (Dimension × Bool) :=
  [("texture_1d", Dimension.line, false), ("texture_2d", .plane, false),
    ("texture_2d_array", .planeArray, false), ("texture_3d", .volume, false),
    ("texture_cube", .cube, false), ("texture_cube_array", .cubeArray, false),
    ("texture_multisampled_2d", .plane, true)].lookup name

def storageTexture? (name : String) : Option Dimension :=
  [("texture_storage_1d", Dimension.line), ("texture_storage_2d", .plane),
    ("texture_storage_2d_array", .planeArray), ("texture_storage_3d", .volume)].lookup name

/-- The formats of storage textures with the kind of their texels. -/
def texelFormat? (name : String) : Option NumericKind :=
  let floats := ["r8unorm", "r8snorm", "r16float", "rg8unorm", "rg8snorm", "r32float", "rg16float",
    "rgba8unorm", "rgba8snorm", "bgra8unorm", "rgb10a2unorm", "rg11b10ufloat", "rg32float",
    "rgba16float", "rgba32float", "r16unorm", "r16snorm", "rg16unorm", "rg16snorm", "rgba16unorm",
    "rgba16snorm"]
  let words := ["r8uint", "r16uint", "rg8uint", "r32uint", "rg16uint", "rgba8uint", "rgb10a2uint",
    "rg32uint", "rgba16uint", "rgba32uint", "r64uint"]
  let ints := ["r8sint", "r16sint", "rg8sint", "r32sint", "rg16sint", "rgba8sint", "rg32sint",
    "rgba16sint", "rgba32sint"]
  if floats.contains name then some .float
  else if words.contains name then some .word
  else if ints.contains name then some .int
  else none

def accessNamed? (name : String) : Option Access :=
  [("read", Access.read), ("write", .write), ("read_write", .readWrite)].lookup name

/-- The address space of a name; storage can only be read unless an access is given. -/
def spaceNamed? : List String → Option AddressSpace
  | ["function"] => some .function
  | ["private"] => some .perInvocation
  | ["workgroup"] => some .workgroup
  | ["uniform"] => some .uniform
  | ["push_constant"] => some .pushConstant
  | ["storage"] => some (.storage .read)
  | ["storage", access] => (accessNamed? access).map .storage
  | _ => none

/-- The components that the letters of a swizzle choose, all from one of two alphabets. -/
def swizzle? (field : String) : Option (List Nat) :=
  let letters := field.toList
  let among (alphabet : List Char) : Option (List Nat) :=
    letters.mapM fun letter => alphabet.findIdx? (· == letter)
  if letters.isEmpty || 4 < letters.length then none
  else (among ['x', 'y', 'z', 'w']).or (among ['r', 'g', 'b', 'a'])

def ofCount? (leaf : ScalarType) : Nat → Option DataType
  | 1 => some (.scalar leaf)
  | 2 => some (.vector .two leaf)
  | 3 => some (.vector .three leaf)
  | 4 => some (.vector .four leaf)
  | _ => none

/-- The place that a pointer leads to; other expressions stay as they are. -/
def Typed.followed (typed : Typed) : Typed :=
  match typed.type, typed.space with
  | .pointer space target, none => { type := target, space := some space }
  | _, _ => typed

def member (base : Typed) (field : String) : Typing Typed := do
  let base := base.followed
  match base.type with
  | .structure name =>
    let type ← ofOption ((← read).member? name field)
    return { base with type, known := none }
  | .vector size leaf =>
    let components ← ofOption (swizzle? field)
    require (components.all (· < size.size))
    let type ← ofOption (ofCount? leaf components.length)
    if components.length = 1 then return { base with type, known := none }
    else return { ← base.load with type, known := none }
  | _ => failure

/-- What the elements of a type are, and how many there are if that is known. -/
def elements? : DataType → Option (DataType × Option Nat)
  | .vector size leaf => some (.scalar leaf, some size.size)
  | .matrix columns rows leaf => some (.vector rows leaf, some columns.size)
  | .array element length => some (element, length)
  | _ => none

/-- An element of something; a known position has to be inside. -/
def element (base position : Typed) : Typing Typed := do
  let base := base.followed
  let (type, count) ← ofOption (elements? base.type)
  let position ← ofOption position.concrete?
  require (position.type == .int || position.type == .uint)
  if let some value := position.known.bind Constant.integer? then
    require (0 ≤ value)
    if let some count := count then require (value < count)
  return { base with type, known := none, phase := base.phase.join position.phase }

def unary (operator : UnaryOperator) (operand : Typed) : Typing Typed := do
  match operator with
  | .dereference =>
    let value ← operand.load
    match value.type with
    | .pointer space target => return { type := target, space := some space }
    | _ => failure
  | .address =>
    match operand.space with
    | some space => return .ofType (.pointer space operand.type)
    | none => failure
  | operator =>
    let value ← operand.load
    let type ← ofOption (operator.result? value.type)
    match value.known with
    | some constant => return .ofConstant (← ofOption (constant.unary? operator))
    | none => return { type, phase := value.phase }

/-- A binary operator. Known operands give a known result, or the shader is not valid. -/
def binary (operator : BinaryOperator) (left right : Typed) : Typing Typed := do
  let left ← left.load
  let right ← right.load
  let type ← ofOption (operator.result? left.type right.type)
  let (left, right) ← ofOption (do
    if operator.isShift then return (left, ← right.withLeaf? .uint)
    let (leftType, _) ← BinaryOperator.balanced? left.type right.type
    let leaf ← leftType.leaf?
    return (← left.withLeaf? leaf, ← right.withLeaf? leaf))
  match left.known, right.known with
  | some first, some second => return .ofConstant (← ofOption (first.binary? operator second))
  | _, _ => return { type, phase := left.phase.join right.phase }

def constructScalar (target : ScalarType) (value : Typed) : Typing Typed := do
  require (value.type.isPlain (fun _ => true) && (elements? value.type).isNone)
  match value.known with
  | some constant => return .ofConstant (← ofOption (constant.convert? target))
  | none => return { type := .scalar target, phase := value.phase }

def componentCount? : DataType → Option Nat
  | .scalar _ => some 1
  | .vector size _ => some size.size
  | _ => none

/-- A vector constructed from values: from nothing, one scalar repeated, a vector converted, or as
many components as it has. -/
def constructVector (size : Side) (leaf : ScalarType) (values : List Typed) : Typing Typed := do
  let result : Typed := { type := .vector size leaf, phase := Typed.phaseOf values }
  match values with
  | [] => return { result with phase := .early }
  | [value] =>
    match value.type with
    | .vector given _ => require (given == size)
    | .scalar _ =>
      let _ ← ofOption (value.withLeaf? leaf)
    | _ => failure
    return result
  | values =>
    let counts ← ofOption (values.mapM fun value => componentCount? value.type)
    let _ ← ofOption (values.mapM (·.withLeaf? leaf))
    require (counts.foldl (· + ·) 0 == size.size)
    return result

/-- A matrix constructed from values: from nothing, a matrix converted, its columns or its
scalars. -/
def constructMatrix (columns rows : Side) (leaf : ScalarType) (values : List Typed) :
    Typing Typed := do
  let type : DataType := .matrix columns rows leaf
  match values with
  | [] => pure ()
  | [value] => require (value.type.withLeaf leaf == type && value.type.leaf?.any ScalarType.isFloat)
  | values =>
    let values ← ofOption (values.mapM (·.withLeaf? leaf))
    let isColumns := values.length == columns.size &&
      values.all (·.type == .vector rows leaf)
    let isScalars := values.length == columns.size * rows.size &&
      values.all (·.type == .scalar leaf)
    require (isColumns || isScalars)
  return { type, phase := Typed.phaseOf values }

def construct (target : DataType) (values : List Typed) : Typing Typed := do
  let isZero := values.isEmpty
  let phase := Typed.phaseOf values
  match target, values with
  | .scalar leaf, [value] => constructScalar leaf value
  | .vector size leaf, values => constructVector size leaf values
  | .matrix columns rows leaf, values => constructMatrix columns rows leaf values
  | target, [] =>
    require ((← read).traits target).isConstructible
    return { type := target, phase := .early }
  | .array element (some length), values =>
    require (!isZero && values.length == length)
    let _ ← ofOption (values.mapM (·.become? element))
    return { type := target, phase }
  | .structure name, values =>
    let members ← ofOption ((← read).members.lookup name)
    require (members.length == values.length && ((← read).traits target).isConstructible)
    let _ ← ofOption ((members.zip values).mapM fun (member, value) => value.become? member.2)
    return { type := target, phase }
  | _, _ => failure

/-- A vector, matrix or array whose components decide its type. -/
def constructInferred (name : String) (values : List Typed) : Typing Typed := do
  if name == "array" then
    let element ← ofOption (DataType.commonOf? (values.map (·.type)))
    construct (.array element (some values.length)) values
  else
    let leaves ← ofOption (values.mapM fun value => value.type.leaf?.map DataType.scalar)
    match shape? name.toList with
    | some (shape, []) =>
      let common ← ofOption (DataType.commonOf? (if leaves.isEmpty then [.scalar .abstractInt]
        else leaves))
      let leaf ← ofOption common.leaf?
      let target := match shape leaf with
        | .matrix _ _ .abstractInt => shape .abstractFloat
        | target => target
      construct target values
    | _ => failure

def callSignature (signature : Signature) (values : List Typed) : Typing (Option Typed) := do
  require (values.length == signature.parameters.length)
  let _ ← ofOption ((signature.parameters.zip values).mapM fun (type, value) => value.become? type)
  touch (signature.effects.atCall (values.map (·.handle)))
  return signature.result.map .ofType

/-- What an atomic function gives back, given the scalar and the number of further operands. -/
def atomicResult? (name : String) (leaf : ScalarType) (operands : Nat) :
    Option (Option DataType) :=
  let combining := ["atomicAdd", "atomicSub", "atomicMax", "atomicMin", "atomicAnd", "atomicOr",
    "atomicXor", "atomicExchange"]
  let suffix := if leaf == .int then "i32" else "u32"
  if name == "atomicLoad" && operands = 0 then some (some (.scalar leaf))
  else if name == "atomicStore" && operands = 1 then some none
  else if combining.contains name && operands = 1 then some (some (.scalar leaf))
  else if name == "atomicCompareExchangeWeak" && operands = 2 then
    some (some (.structure s!"__atomic_compare_exchange_result_{suffix}"))
  else none

/-- A call of a function that works on memory through a pointer. -/
def callOnPointer (name : String) (values : List Typed) : Typing (Option Typed) := do
  match values with
  | { type := .pointer space (.array _ none), .. } :: [] =>
    require (name == "arrayLength" && space.access.allowsRead)
    return some (.ofType .uint)
  | { type := .pointer space (.atomic leaf), .. } :: operands =>
    let result ← ofOption (atomicResult? name leaf operands.length)
    require (space.access.allowsRead && (name == "atomicLoad" || space.access.allowsWrite))
    let _ ← ofOption (operands.mapM (·.become? (.scalar leaf)))
    return result.map .ofType
  | [{ type := .pointer .workgroup target, .. }] =>
    require (name == "workgroupUniformLoad" && ((← read).traits target).isConstructible)
    touch { needsCompute := true }
    return some (.ofType target)
  | _ => failure

def callBuiltin (name : String) (values : List Typed) : Typing (Option Typed) := do
  let types := values.map (·.type)
  if ["workgroupBarrier", "storageBarrier", "textureBarrier"].contains name then
    require values.isEmpty
    touch { needsCompute := true }
    return none
  if Arithmetic.derivatives.contains name then
    match types with
    | [type] =>
      let type := type.floating.concrete
      require (type.isPlain (· == .float))
      touch { needsFragment := true }
      return some (.ofType type)
    | _ => failure
  match TextureCall.of? name types with
  | some found =>
    let handles := values.filterMap (·.handle)
    touch { needsFragment := found.needsNeighbours }
    match found.samples, handles with
    | true, texture :: sampler :: _ => touch { samplings := [(texture, sampler)] }
    | _, _ => pure ()
    return found.result.map .ofType
  | none =>
    match Arithmetic.result? name types with
    | some type =>
      let leaf := type.leaf?
      require (values.all fun value =>
        match value.known, leaf with
        | some constant, some leaf =>
          !(leaf.isNumeric && constant.type.becomes leaf) || (constant.become? leaf).isSome
        | _, _ => true)
      return some { type, phase := Typed.phaseOf values }
    | none => callOnPointer name values

/-- A call by name. Functions and types of the shader come before those of the language. -/
def callNamed (name : String) (values : List Typed) : Typing (Option Typed) := do
  let scope ← read
  match plainType? scope name with
  | some type => return some (← construct type values)
  | none =>
    if name == "array" || (shape? name.toList).any (·.2.isEmpty) then
      return some (← constructInferred name values)
    match scope.globals.lookup name with
    | some (.type type) => return some (← construct type values)
    | some (.function signature) => callSignature signature values
    | some (.item _) => failure
    | none => if scope.names.contains name then failure else callBuiltin name values

/-- The bits of a value read as another type of the same size. -/
def reinterpret (target : DataType) (values : List Typed) : Typing Typed := do
  match values with
  | [value] =>
    let value ← ofOption value.concrete?
    let scope ← read
    require (target.isPlain ScalarType.isNumeric && value.type.isPlain ScalarType.isNumeric &&
      target.size scope.layouts == value.type.size scope.layouts)
    return { type := target, phase := value.phase }
  | _ => failure

/-- The array type of an element type, which has to have a size. -/
def arrayOf (element : DataType) (length : Option Nat) : Typing DataType := do
  let traits := (← read).traits element
  require (traits.isData && traits.isSized)
  return .array element length

/-- What a name stands for. Using a variable of the module touches it. -/
def inferName (name : String) : Typing Typed := do
  let scope ← read
  match scope.locals.lookup name with
  | some typed => return typed
  | none =>
    match scope.globals.lookup name with
    | some (.item typed) =>
      if typed.space.isSome || typed.handle.isSome then touch { globals := [name] }
      return typed
    | _ => failure

def inferLiteral (value : Constant) : Typing Typed := do
  require (value.type != .half || (← read).extensions.contains "f16")
  return .ofConstant value

mutual

def resolve : Expression → Typing DataType
  | .name text => do
    let scope ← read
    match plainType? scope text, scope.globals.lookup text with
    | some type, _ => return type
    | none, some (.type type) => return type
    | _, _ => failure
  | .template "array" [element] => do
    arrayOf (← resolve element) none
  | .template "array" [element, length] => do
    let count ← infer length
    let count ← ofOption count.natural?
    require (0 < count)
    arrayOf (← resolve element) (some count)
  | .template "atomic" [content] => do
    match ← resolve content with
    | .scalar leaf =>
      require (leaf == .int || leaf == .uint || leaf == .long || leaf == .ulong)
      return .atomic leaf
    | _ => failure
  | .template "ptr" [.name space, target] => do
    return .pointer (← ofOption (spaceNamed? [space])) (← resolve target)
  | .template "ptr" [.name space, target, .name access] => do
    return .pointer (← ofOption (spaceNamed? [space, access])) (← resolve target)
  | .template name [.name format, .name access] => do
    let dimension ← ofOption (storageTexture? name)
    let kind ← ofOption (texelFormat? format)
    return .texture (.storage kind (← ofOption (accessNamed? access))) dimension
  | .template name [content] => do
    match ← resolve content, shape? name.toList, sampledTexture? name with
    | .scalar leaf, some (shape, []), _ =>
      match shape leaf with
      | .matrix _ _ leaf => require leaf.isFloat
      | _ => pure ()
      return shape leaf
    | .scalar leaf, _, some (dimension, multisampled) =>
      let kind ← ofOption ([(ScalarType.float, NumericKind.float), (.int, .int),
        (.uint, .word)].lookup leaf)
      return .texture (.sampled kind multisampled) dimension
    | _, _, _ => failure
  | _ => failure

def infer : Expression → Typing Typed
  | .literal value => inferLiteral value
  | .name text => inferName text
  | .template _ _ => failure
  | .call callee arguments => do
    let values ← inferAll arguments
    let result ← match callee with
      | .name name => callNamed name values
      | .template "bitcast" [target] => do
        let type ← resolve target
        some <$> reinterpret type values
      | .template name targets => do
        let type ← resolve (.template name targets)
        some <$> construct type values
      | _ => failure
    ofOption result
  | .unary operator operand => do
    let operand ← infer operand
    unary operator operand
  | .binary operator left right => do
    let left ← infer left
    let right ← infer right
    binary operator left right
  | .member base field => do
    let base ← infer base
    member base field
  | .index base position => do
    let base ← infer base
    let position ← infer position
    let position ← position.load
    element base position

def inferAll : List Expression → Typing (List Typed)
  | [] => return []
  | first :: rest => do
    let value ← infer first
    let value ← value.load
    return value :: (← inferAll rest)

end

end FramePlan.Shader
