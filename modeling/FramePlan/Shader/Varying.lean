import FramePlan.Shader.Typing

/-!
# What travels between stages

The parameters and the result of an entry point are bound to locations, through which data of the
host or of the stage before arrives, or to values that the pipeline supplies by name.

The rules are those of the validator of `naga` for the interface of an entry point.
-/

namespace FramePlan.Shader

open Typing

inductive Stage where
  | vertex
  | fragment
  | compute
deriving DecidableEq, Repr

/-- How a value is blended between the corners of a primitive. -/
inductive Interpolation where
  | perspective
  | linear
  | flat
deriving DecidableEq, Repr

/-- Where inside a pixel a blended value is taken. -/
inductive SamplePoint where
  | center
  | centroid
  | sample
  | first
  | either
deriving DecidableEq, Repr

/-- What a parameter, a member or a result is bound to. -/
inductive Varying where
  | location (index : Nat) (interpolation : Option Interpolation) (point : Option SamplePoint)
      (blendSource : Option Nat)
  | builtin (name : String)
deriving DecidableEq, Repr

/-- A bound parameter, member or result. -/
structure StageValue where
  name : String
  type : DataType
  varying : Varying
deriving DecidableEq, Repr

/-- Where a supplied value may be used: its stages with the direction, and its type. -/
structure BuiltinRule where
  stages : List (Stage × Bool)
  type : DataType
deriving Repr

namespace Varying

/-- The rules of the supplied values. The truth value is true for an output. -/
def builtins : List (String × BuiltinRule) :=
  let vector : DataType := .vector .four .float
  let triple : DataType := .vector .three .uint
  let compute := [(Stage.compute, false)]
  [("position", ⟨[(.vertex, true), (.fragment, false)], vector⟩),
    ("vertex_index", ⟨[(.vertex, false)], .uint⟩),
    ("instance_index", ⟨[(.vertex, false)], .uint⟩),
    ("view_index", ⟨[(.vertex, false), (.fragment, false)], .int⟩),
    ("front_facing", ⟨[(.fragment, false)], .bool⟩),
    ("frag_depth", ⟨[(.fragment, true)], .float⟩),
    ("primitive_index", ⟨[(.fragment, false)], .uint⟩),
    ("sample_index", ⟨[(.fragment, false)], .uint⟩),
    ("sample_mask", ⟨[(.fragment, false), (.fragment, true)], .uint⟩),
    ("local_invocation_id", ⟨compute, triple⟩),
    ("local_invocation_index", ⟨compute, .uint⟩),
    ("global_invocation_id", ⟨compute, triple⟩),
    ("workgroup_id", ⟨compute, triple⟩),
    ("num_workgroups", ⟨compute, triple⟩),
    ("num_subgroups", ⟨compute, .uint⟩),
    ("subgroup_id", ⟨compute, .uint⟩),
    ("subgroup_size", ⟨(.fragment, false) :: compute, .uint⟩),
    ("subgroup_invocation_id", ⟨(.fragment, false) :: compute, .uint⟩)]

def interpolationNamed? (name : String) : Option Interpolation :=
  [("perspective", Interpolation.perspective), ("linear", .linear), ("flat", .flat)].lookup name

def samplePointNamed? (name : String) : Option SamplePoint :=
  [("center", SamplePoint.center), ("centroid", .centroid), ("sample", .sample), ("first", .first),
    ("either", .either)].lookup name

/-- The arguments of the attribute with a name; an attribute may not be repeated. -/
def attribute? (attributes : List Attribute) (name : String) :
    Typing (Option (Option (List Expression))) := do
  match attributes.filter (·.name == name) with
  | [] => return none
  | [only] => return some only.arguments
  | _ => failure

/-- The natural number that the attribute with a name gives. -/
def naturalOf? (attributes : List Attribute) (name : String) : Typing (Option Nat) := do
  match ← attribute? attributes name with
  | none => return none
  | some (some [value]) =>
    let value ← infer value
    some <$> ofOption value.natural?
  | some _ => failure

/-- The names of the attributes that bind something to a varying. -/
def attributeNames : List String :=
  ["location", "builtin", "interpolate", "invariant", "blend_src"]

/-- The interpolation that holds where none is asked for: floating-point numbers are blended. -/
def defaultInterpolation (type : DataType) : Option Interpolation × Option SamplePoint :=
  match type.leaf? with
  | some leaf =>
    if leaf.isFloat then (some .perspective, some .center)
    else if leaf.isInteger then (some .flat, none) else (none, none)
  | none => (none, none)

/-- Whether blending and the place it is taken at go together. -/
def isConsistent (interpolation : Interpolation) (point : Option SamplePoint) : Bool :=
  match interpolation, point with
  | _, none => true
  | .flat, some .first | .flat, some .either => true
  | .flat, _ => false
  | _, some point => point == .center || point == .centroid || point == .sample

def interpolationOf (attributes : List Attribute) :
    Typing (Option (Interpolation × Option SamplePoint)) := do
  match ← attribute? attributes "interpolate" with
  | none => return none
  | some (some [.name kind]) => return some (← ofOption (interpolationNamed? kind), none)
  | some (some [.name kind, .name point]) =>
    return some (← ofOption (interpolationNamed? kind), ← ofOption (samplePointNamed? point))
  | some _ => failure

def ofAttributes (attributes : List Attribute) (type : DataType) : Typing (Option Varying) := do
  let attributes := attributes.filter (attributeNames.contains ·.name)
  let location ← naturalOf? attributes "location"
  let blendSource ← naturalOf? attributes "blend_src"
  let builtin ← attribute? attributes "builtin"
  let interpolation ← interpolationOf attributes
  let invariant ← attribute? attributes "invariant"
  require (blendSource.all (· < 2))
  require (blendSource.isNone || (← read).extensions.contains "dual_source_blending")
  match location, builtin, interpolation, invariant with
  | none, none, none, none =>
    require blendSource.isNone
    return none
  | some index, none, interpolation, none =>
    let (kind, point) := match interpolation with
      | some (kind, point) => (some kind, point)
      | none => defaultInterpolation type
    return some (.location index kind point blendSource)
  | none, some (some [.name name]), none, invariant =>
    require ((builtins.lookup name).isSome && blendSource.isNone)
    require (invariant.all (·.isNone) && (invariant.isNone || name == "position"))
    return some (.builtin name)
  | _, _, _, _ => failure

/-- Whether a stage may take in or give out a value. -/
def isAllowed (scope : Scope) (stage : Stage) (isOutput : Bool) (stageValue : StageValue) : Bool :=
  match stageValue.varying with
  | .builtin name =>
    match builtins.lookup name with
    | some rule => rule.stages.contains (stage, isOutput) && rule.type == stageValue.type
    | none => false
  | .location index interpolation point blendSource =>
    let isBlended := match stage with
      | .vertex => isOutput
      | .fragment => !isOutput
      | .compute => false
    let isFloat := stageValue.type.isPlain ScalarType.isFloat
    -- what two sources are blended from are colors that a fragment stage gives out
    let mayBlend := stage == .fragment && isOutput && index == 0
    (blendSource.isNone || mayBlend) &&
      (scope.traits stageValue.type).isVarying && interpolation.all (isConsistent · point) &&
      (!isBlended || (if isFloat then interpolation.isSome else interpolation == some .flat))

/-- What two values of one direction may not share. -/
def clashes (first second : StageValue) : Bool :=
  match first.varying, second.varying with
  | .location index _ _ none, .location other _ _ none => index == other
  | .location index _ _ (some source), .location other _ _ (some otherSource) =>
    index == other && source == otherSource
  | .builtin name, .builtin other => name == other
  | _, _ => false

/-- Whether no two values clash. -/
def areDistinct : List StageValue → Bool
  | [] => true
  | stageValue :: rest => rest.all (!clashes stageValue ·) && areDistinct rest

end Varying

end FramePlan.Shader
