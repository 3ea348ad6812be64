import FramePlan.Shader.Operator

/-!
# Functions on textures

The rules take the types of the arguments, of which the first is a texture, to what the call gives
and asks for.

The rules are those of the validator of `naga`.
-/

namespace FramePlan.Shader

/-- What a call of a texture function amounts to. -/
structure TextureCall where
  result : Option DataType
  /-- The level of detail comes from neighbouring fragments. -/
  needsNeighbours : Bool := false
  /-- The texture is read through the sampler that follows it. -/
  samples : Bool := false
deriving Repr

namespace TextureCall

def scalarOf : NumericKind → ScalarType
  | .float => .float
  | .int => .int
  | .word => .uint

/-- A scalar or vector with as many components as a coordinate of the texture. -/
def coordinate (dimension : Dimension) (leaf : ScalarType) : DataType :=
  match dimension with
  | .line => .scalar leaf
  | .plane | .planeArray => .vector .two leaf
  | .volume | .cube | .cubeArray => .vector .three leaf

def extent (dimension : Dimension) : DataType :=
  match dimension with
  | .line => .uint
  | .volume => .vector .three .uint
  | _ => .vector .two .uint

/-- Whether a type becomes a signed or an unsigned integer type of a shape. -/
def isIndexed (shape type : DataType) : Bool :=
  type.becomes (shape.withLeaf .int) || type.becomes (shape.withLeaf .uint)

/-- Takes the index of a layer off the arguments, where the texture has layers. -/
def withoutLayer? (dimension : Dimension) (types : List DataType) : Option (List DataType) :=
  if dimension.isArrayed then
    match types with
    | layer :: rest => if isIndexed .int layer then some rest else none
    | [] => none
  else some types

def withoutTypes? : List DataType → List DataType → Option (List DataType)
  | [], types => some types
  | _ :: _, [] => none
  | wanted :: rest, type :: types => if type.becomes wanted then withoutTypes? rest types else none

/-- Whether nothing is left but perhaps an offset, which textures with straight axes allow. -/
def isOffset (dimension : Dimension) : List DataType → Bool
  | [] => true
  | [offset] =>
    (dimension == .plane || dimension == .planeArray || dimension == .volume) &&
      offset.becomes (coordinate dimension .int)
  | _ => false

/-- The argument types between the coordinates and the offset, or `none` for another function.
`isDepth` is true if the texture holds depths. -/
def furtherTypes? (name : String) (isDepth : Bool) (dimension : Dimension) :
    Option (List DataType) :=
  let gradient := coordinate dimension .float
  match name with
  | "textureSample" => some []
  | "textureSampleBias" => if isDepth then none else some [.float]
  | "textureSampleLevel" => some [if isDepth then .int else .float]
  | "textureSampleGrad" => if isDepth then none else some [gradient, gradient]
  | "textureSampleCompare" | "textureSampleCompareLevel" | "textureGatherCompare" =>
    if isDepth then some [.float] else none
  | "textureGather" => some []
  | _ => none

def sampled? (name : String) (content : TextureClass) (dimension : Dimension)
    (comparison : Bool) (types : List DataType) : Option TextureCall := do
  let compares := ["textureSampleCompare", "textureSampleCompareLevel",
    "textureGatherCompare"].contains name
  let gathers := name == "textureGather" || name == "textureGatherCompare"
  let (isDepth, leaf) ← match content with
    | .sampled kind false =>
      if gathers || kind == .float then some (false, scalarOf kind) else none
    | .depth false => some (true, .float)
    | _ => none
  if compares != comparison then none
  else
    let further ← furtherTypes? name isDepth dimension
    let types ← withoutTypes? [coordinate dimension .float] types
    let types ← withoutLayer? dimension types
    let types ← withoutTypes? further types
    if !isOffset dimension types then none
    else
      let result : DataType :=
        if gathers then .vector .four leaf
        else if isDepth then .scalar leaf else .vector .four leaf
      let needsNeighbours :=
        ["textureSample", "textureSampleBias", "textureSampleCompare"].contains name
      some { result := result, needsNeighbours, samples := true }

def load? (content : TextureClass) (dimension : Dimension) (types : List DataType) :
    Option TextureCall := do
  let position :: types := types | none
  if !isIndexed (coordinate dimension .int) position then none
  else
    let types ← withoutLayer? dimension types
    let levelled : Bool := match types with
      | [level] => isIndexed .int level
      | _ => false
    match content with
    | .sampled kind _ =>
      if levelled then some { result := some (.vector .four (scalarOf kind)) } else none
    | .depth _ => if levelled then some { result := some .float } else none
    | .storage kind access =>
      if types.isEmpty && access.allowsRead then
        some { result := some (.vector .four (scalarOf kind)) }
      else none

def store? (content : TextureClass) (dimension : Dimension) (types : List DataType) :
    Option TextureCall := do
  let position :: types := types | none
  let types ← withoutLayer? dimension types
  match content, types with
  | .storage kind access, [value] =>
    if isIndexed (coordinate dimension .int) position && access.allowsWrite &&
        value.becomes (.vector .four (scalarOf kind))
    then some { result := none } else none
  | _, _ => none

/-- A call that asks for a property of the texture. -/
def query? (name : String) (content : TextureClass) (dimension : Dimension)
    (types : List DataType) : Option TextureCall :=
  let isMultisampled := match content with
    | .sampled _ multisampled | .depth multisampled => multisampled
    | .storage _ _ => false
  let hasLevels := match content with
    | .storage _ _ => false
    | _ => !isMultisampled
  let count : Option TextureCall := some { result := some .uint }
  match name, types with
  | "textureDimensions", [] => some { result := some (extent dimension) }
  | "textureDimensions", [level] =>
    if hasLevels && isIndexed .int level then some { result := some (extent dimension) } else none
  | "textureNumLevels", [] => if hasLevels then count else none
  | "textureNumLayers", [] => if dimension.isArrayed then count else none
  | "textureNumSamples", [] => if isMultisampled then count else none
  | _, _ => none

/-- A call of a texture function, given the types of its arguments. -/
def of? (name : String) (types : List DataType) : Option TextureCall :=
  match name, types with
  | "textureGather", component :: .texture content dimension :: .sampler comparison :: rest =>
    match content with
    | .sampled _ _ =>
      if isIndexed .int component then sampled? name content dimension comparison rest else none
    | _ => none
  | "textureGather", .texture (.depth multisampled) dimension :: .sampler comparison :: rest =>
    sampled? name (.depth multisampled) dimension comparison rest
  | "textureGather", _ => none
  | "textureSampleBaseClampToEdge", [.texture (.sampled .float false) .plane, .sampler false, at_] =>
    if at_.becomes (.vector .two .float) then
      some { result := some (.vector .four .float), samples := true }
    else none
  | name, .texture content dimension :: .sampler comparison :: rest =>
    sampled? name content dimension comparison rest
  | "textureLoad", .texture content dimension :: rest => load? content dimension rest
  | "textureStore", .texture content dimension :: rest => store? content dimension rest
  | name, .texture content dimension :: rest => query? name content dimension rest
  | _, _ => none

end TextureCall

end FramePlan.Shader
