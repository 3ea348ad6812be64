import FramePlan.Shader.Varying

/-!
# Abilities that a source needs

Numbers of 32 bits, and the formats and supplied values that every device has, can be used anywhere.
Other types, literals of other widths, push constants, early depth tests, blending of two sources and
some supplied values are for devices that offer them. They are looked for where they stand: a name only
counts in the place of a type.

They are the capabilities that the validator of `naga` asks a device for; a module that needs one is
refused by `Gpu.compileShader` only.
-/

namespace FramePlan.Shader

/-- The scalars that not every device has. -/
def extraScalars : List ScalarType := [.half, .double, .long, .ulong]

/-- The names in types that not every device has: scalars, and formats of texels. -/
def extraTypeNames : List String :=
  ["f16", "f64", "i64", "u64", "r16unorm", "r16snorm", "rg16unorm", "rg16snorm", "rgba16unorm",
    "rgba16snorm", "r64uint"]

/-- Whether a name in a type is one that not every device has, or that of a shape of halves. -/
def isExtraTypeName (name : String) : Bool :=
  extraTypeNames.contains name || (shape? name.toList).any fun (_, suffix) => suffix == ['h']

mutual

/-- Whether an expression needs an extra ability, as a type or as a value. -/
def Expression.needsExtra (isType : Bool) : Expression → Bool
  | .literal value => extraScalars.contains value.type
  | .name text => isType && isExtraTypeName text
  | .template "array" [element, length] => element.needsExtra true || length.needsExtra false
  | .template _ arguments => anyNeedsExtra true arguments
  | .call callee arguments => callee.needsExtra true || anyNeedsExtra false arguments
  | .unary _ operand => operand.needsExtra false
  | .binary _ left right => left.needsExtra false || right.needsExtra false
  | .member base _ => base.needsExtra false
  | .index base position => base.needsExtra false || position.needsExtra false

def anyNeedsExtra (isType : Bool) : List Expression → Bool
  | [] => false
  | first :: rest => first.needsExtra isType || anyNeedsExtra isType rest

end

mutual

def Statement.needsExtra : Statement → Bool
  | .nothing | .leave | .proceed | .discard => false
  | .block body => bodyNeedsExtra body
  | .value _ type value | .constant _ type value =>
    type.any (·.needsExtra true) || value.needsExtra false
  | .variable _ type value => type.any (·.needsExtra true) || value.any (·.needsExtra false)
  | .evaluate value | .step value | .assertion value => value.needsExtra false
  | .assign target value | .update _ target value =>
    target.needsExtra false || value.needsExtra false
  | .call _ arguments => anyNeedsExtra false arguments
  | .choice condition accept reject =>
    condition.needsExtra false || bodyNeedsExtra accept || bodyNeedsExtra reject
  | .selection selector cases => selector.needsExtra false || casesNeedExtra cases
  | .loop body continuing breakIf =>
    bodyNeedsExtra body || bodyNeedsExtra continuing || breakIf.any (·.needsExtra false)
  | .giveBack value => value.any (·.needsExtra false)

def bodyNeedsExtra : List Statement → Bool
  | [] => false
  | first :: rest => first.needsExtra || bodyNeedsExtra rest

def casesNeedExtra : List Case → Bool
  | [] => false
  | .mk selectors body :: rest =>
    (selectors.any fun selector => selector.any (·.needsExtra false)) || bodyNeedsExtra body ||
      casesNeedExtra rest

end

/-- Whether attributes start a stage that tests depths before it runs. -/
def testsDepthEarly (attributes : List Attribute) : Bool :=
  let names := attributes.map (·.name)
  names.contains "early_depth_test" && names.any ["vertex", "fragment", "compute"].contains

def DeclarationKind.needsExtra : DeclarationKind → Bool
  | .alias type => type.needsExtra true
  | .structure members => members.any (·.type.needsExtra true)
  | .constant type value => type.any (·.needsExtra true) || value.needsExtra false
  | .override type value => type.any (·.needsExtra true) || value.any (·.needsExtra false)
  | .variable space type value =>
    let isPushed := space.any fun
      | .name text => text == "push_constant"
      | _ => false
    isPushed || type.any (·.needsExtra true) || value.any (·.needsExtra false)
  | .function parameters result body =>
    parameters.any (·.type.needsExtra true) || result.any (·.type.needsExtra true) ||
      bodyNeedsExtra body

/-- Whether something that a source declares needs an extra ability. -/
def SourceTree.needsExtra (tree : SourceTree) : Bool :=
  (tree.declarations.any fun declaration =>
    testsDepthEarly declaration.attributes || declaration.kind.needsExtra) ||
    anyNeedsExtra false tree.assertions

/-- The supplied values that not every device has. -/
def extraBuiltins : List String :=
  ["primitive_index", "view_index", "num_subgroups", "subgroup_id", "subgroup_size",
    "subgroup_invocation_id"]

def StageValue.needsExtra (stageValue : StageValue) : Bool :=
  match stageValue.varying with
  | .builtin name => extraBuiltins.contains name
  | .location _ _ _ blendSource => blendSource.isSome

end FramePlan.Shader
