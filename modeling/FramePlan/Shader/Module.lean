import FramePlan.Shader.Ability
import FramePlan.Shader.Flow
import FramePlan.Shader.Parser
import FramePlan.Slot

/-!
# Valid shader modules

A module is what a source declares once its names are resolved and its rules are checked.
Declarations may stand in any order, so they are settled in rounds: each round settles every
declaration that uses settled names only. Declarations that depend on themselves are never settled,
and the module is not valid.

The rules are those of the front end and the validator of `naga`, with every capability.
-/

namespace FramePlan.Shader

open Typing

/-- A variable at the level of the module. -/
structure ModuleVariable where
  name : String
  space : AddressSpace
  type : DataType
  slot : Option ResourceSlot
deriving DecidableEq, Repr

/-- A function at which a stage starts. -/
structure EntryPoint where
  stage : Stage
  name : String
  inputs : List StageValue
  outputs : List StageValue
  effects : Effects
deriving DecidableEq, Repr

/-- A member of a structure with what it is bound to. -/
structure BoundMember where
  name : String
  type : DataType
  varying : Option Varying
deriving DecidableEq, Repr

/-- What has been settled of a module. -/
structure Module where
  scope : Scope
  structures : List (String × List BoundMember)
  moduleVariables : List ModuleVariable
  entryPoints : List EntryPoint
  /-- Whether a declaration needs an ability that not every device has. -/
  needsExtra : Bool

namespace Module

def attributeNames : List String :=
  ["binding", "group", "id", "vertex", "fragment", "compute", "workgroup_size", "must_use",
    "early_depth_test", "diagnostic"]

/-- Whether attributes are among those of a list, each once. -/
def areAmong (names : List String) (attributes : List Attribute) : Bool :=
  attributes.all (names.contains ·.name) && (attributes.map (·.name)).Nodup

/-- The slot that attributes give: both a group and a binding, or neither. -/
def slotOf (attributes : List Attribute) : Typing (Option ResourceSlot) := do
  match ← Varying.naturalOf? attributes "group", ← Varying.naturalOf? attributes "binding" with
  | some group, some binding => return some ⟨group.toUInt32, binding.toUInt32⟩
  | none, none => return none
  | _, _ => failure

/-- A member with the size and the alignment that are asked for. -/
structure MemberRequest where
  member : BoundMember
  size : Option Nat
  alignment : Option Nat
deriving Repr

def requestOf (field : Field) : Typing MemberRequest := do
  require (areAmong ("size" :: "align" :: Varying.attributeNames) field.attributes)
  let type ← resolve field.type
  require (((← read).traits type).isData)
  let size ← Varying.naturalOf? field.attributes "size"
  let alignment ← Varying.naturalOf? field.attributes "align"
  let layouts := (← read).layouts
  require (size.all (type.size layouts ≤ ·))
  require (alignment.all fun asked =>
    type.alignment layouts ≤ asked && 1 <<< asked.log2 == asked)
  return ⟨⟨field.name, type, ← Varying.ofAttributes field.attributes type⟩, size, alignment⟩

/-- Puts members one after the other, each at the next place that suits it. Gives their places, the
alignment of the whole and the bytes taken up. -/
def place (layouts : Layouts) (requests : List MemberRequest) : List PlacedMember × Nat × Nat :=
  requests.foldl (fun (placed, alignment, taken) request =>
    let type := request.member.type
    let own := request.alignment.getD (type.alignment layouts)
    let offset := roundUp own taken
    (placed ++ [⟨type, offset⟩], max alignment own,
      offset + request.size.getD (type.size layouts))) ([], 1, 0)

def withStructure (module : Module) (name : String) (requests : List MemberRequest) : Module :=
  let (placed, alignment, taken) := place module.scope.layouts requests
  let layout := StructLayout.ofMembers module.scope.layouts placed alignment taken
  let members := requests.map (·.member)
  let scope := module.scope
  { module with
    structures := (name, members) :: module.structures
    scope := { scope with
      layouts := (name, layout) :: scope.layouts
      members := (name, members.map fun member => (member.name, member.type)) :: scope.members } }

def withEntity (module : Module) (name : String) (entity : Entity) : Module :=
  { module with scope := { module.scope with globals := (name, entity) :: module.scope.globals } }

/-- Whether a variable of a space may have a type; `isBound` is true if it has a slot. -/
def allowsVariable (scope : Scope) (space : AddressSpace) (type : DataType) (isBound : Bool) :
    Bool :=
  let traits := scope.traits type
  match space with
  | .function => false
  | .perInvocation => traits.isConstructible && !isBound
  | .workgroup => traits.isData && traits.isSized && !isBound
  | .uniform =>
    traits.isData && traits.isCopyable && traits.isSized && traits.isShared && isBound &&
      (type.uniformAlignment? scope.layouts).isSome
  | .storage access => traits.isData && traits.isShared && access.allowsRead && isBound
  | .pushConstant =>
    traits.isData && traits.isCopyable && traits.isSized && traits.isShared && !isBound
  | .handle =>
    isBound && match type with
      | .texture _ _ | .sampler _ => true
      | _ => false

def variableOf (name : String) (attributes : List Attribute) (space : List Expression)
    (type value : Option Expression) : Typing (ModuleVariable × Typed) := do
  let words := space.filterMap fun
    | .name text => some text
    | _ => none
  let space ← if space.isEmpty then pure .handle else ofOption (spaceNamed? words)
  let type? ← type.mapM resolve
  let initial ← value.mapM fun value => do
    let typed ← infer value
    require (typed.phase != .running && space == .perInvocation)
    ofOption (match type? with
      | some type => typed.become? type
      | none => typed.concrete?)
  let type ← ofOption (type?.or (initial.map (·.type)))
  let slot ← slotOf attributes
  require (allowsVariable (← read) space type slot.isSome)
  let typed : Typed := if space == .handle then { type, handle := some (.global name) }
    else { type, space := some space }
  return (⟨name, space, type, slot⟩, typed)

def constantOf (type : Option Expression) (value : Expression) : Typing Typed := do
  let typed ← infer value
  require (typed.phase == .early)
  match type with
  | some type => ofOption (typed.become? (← resolve type))
  | none => return typed

/-- The settled form of a constant that may be replaced. -/
def overrideOf (attributes : List Attribute) (type value : Option Expression) : Typing Typed := do
  let type? ← type.mapM resolve
  let initial ← value.mapM fun value => do
    let typed ← infer value
    require (typed.phase != .running)
    ofOption (match type? with
      | some type => typed.become? type
      | none => typed.concrete?)
  let type ← ofOption (type?.or (initial.map (·.type)))
  require ((elements? type).isNone && type.isPlain fun _ => true)
  let id ← Varying.naturalOf? attributes "id"
  require (id.all (· < 0x10000))
  return { type, phase := .pipeline }

/-- The stage that attributes start, if they start one. -/
def stageOf (attributes : List Attribute) : Typing (Option Stage) := do
  let names := attributes.map (·.name)
  let found := [("vertex", Stage.vertex), ("fragment", .fragment), ("compute", .compute)].filter
    fun (name, _) => names.contains name
  match found with
  | [] => return none
  | [(name, stage)] =>
    require ((attributes.filter (·.name == name)).all (·.arguments.isNone))
    if stage == .compute then
      match ← Varying.attribute? attributes "workgroup_size" with
      | some (some sizes) =>
        require (!sizes.isEmpty && sizes.length ≤ 3)
        let values ← sizes.mapM infer
        require (values.all fun value => value.natural?.any (0 < ·) || value.phase == .pipeline)
      | _ => failure
    return some stage
  | _ => failure

/-- The values of a parameter or result: itself, or the members of its structure. -/
def stageValuesOf? (module : Module) (name : String) (type : DataType) (varying : Option Varying) :
    Option (List StageValue) :=
  match varying, type with
  | some varying, type => some [⟨name, type, varying⟩]
  | none, .structure structure_ => do
    let members ← module.structures.lookup structure_
    members.mapM fun member => member.varying.map (⟨member.name, member.type, ·⟩)
  | none, _ => none

/-- Whether an entry point keeps the rules of its stage. -/
def isSound (module : Module) (entry : EntryPoint) : Bool :=
  let scope := module.scope
  let slots := (module.moduleVariables.filter fun found =>
    entry.effects.globals.contains found.name).filterMap (·.slot)
  entry.inputs.all (Varying.isAllowed scope entry.stage false) &&
    entry.outputs.all (Varying.isAllowed scope entry.stage true) &&
    Varying.areDistinct entry.inputs && Varying.areDistinct entry.outputs &&
    (entry.stage != .vertex || entry.outputs.any (·.varying == .builtin "position")) &&
    (!entry.effects.needsFragment || entry.stage == .fragment) &&
    (!entry.effects.needsCompute || entry.stage == .compute) && slots.Nodup

/-- Whether a function may have a parameter of a type. -/
def allowsParameter (scope : Scope) (type : DataType) : Bool :=
  (scope.traits type).isArgument

/-- A parameter with its type and what it is bound to. -/
def parameterOf (field : Field) : Typing BoundMember := do
  require (areAmong Varying.attributeNames field.attributes)
  let type ← resolve field.type
  require (allowsParameter (← read) type)
  return ⟨field.name, type, ← Varying.ofAttributes field.attributes type⟩

def knownOf (parameter : BoundMember) (index : Nat) : String × Typed :=
  let handle := match parameter.type with
    | .texture _ _ | .sampler _ => some (Handle.parameter index)
    | _ => none
  (parameter.name, { type := parameter.type, handle })

/-- The settled form of a function: its parameters, its result and its stage. -/
def functionOf (attributes : List Attribute) (parameters : List Field)
    (result : Option ResultType) (body : List Statement) :
    Typing (List BoundMember × Option BoundMember × Option Stage) := do
  let stage ← stageOf attributes
  let bound ← parameters.mapM parameterOf
  let given ← result.mapM fun result => do
    require (areAmong Varying.attributeNames result.attributes)
    let type ← resolve result.type
    require (((← read).traits type).isConstructible)
    return BoundMember.mk "" type (← Varying.ofAttributes result.attributes type)
  require (result.isSome || !(attributes.map (·.name)).contains "must_use")
  set ({} : Effects)
  checkBody (bound.zipIdx.map fun (parameter, index) => knownOf parameter index)
    (given.map (·.type)) body
  return (bound, given, stage)

/-- Runs a rule in the scope of a module. -/
def run {α : Type} (module : Module) (rule : Typing α) : Option (α × Effects) :=
  (rule.run module.scope).run {}

/-- Adds a declaration, if it uses settled names only and keeps its rules. -/
def settle? (module : Module) (declaration : Declaration) : Option Module := do
  let name := declaration.name
  let attributes := declaration.attributes
  if !areAmong attributeNames attributes then none
  else
    let (slot, _) ← module.run (slotOf attributes)
    match declaration.kind with
    | .alias type =>
      let (type, _) ← module.run (resolve type)
      return module.withEntity name (.type type)
    | .structure fields =>
      let (requests, _) ← module.run (fields.mapM requestOf)
      let isSized (request : MemberRequest) : Bool :=
        (module.scope.traits request.member.type).isSized
      if fields.isEmpty || !(fields.map (·.name)).Nodup || !requests.dropLast.all isSized then none
      else return (module.withStructure name requests).withEntity name (.type (.structure name))
    | .constant type value =>
      let (typed, _) ← module.run (constantOf type value)
      return module.withEntity name (.item typed)
    | .override type value =>
      let (typed, _) ← module.run (overrideOf attributes type value)
      return module.withEntity name (.item typed)
    | .variable space type value =>
      let ((found, typed), _) ← module.run (variableOf name attributes space type value)
      return { module.withEntity name (.item typed) with
        moduleVariables := module.moduleVariables ++ [{ found with slot }] }
    | .function parameters result body =>
      let ((parameters, given, stage), effects) ←
        module.run (functionOf attributes parameters result body)
      match stage with
      | none =>
        let mustUse := (attributes.map (·.name)).contains "must_use"
        return module.withEntity name
          (.function ⟨parameters.map (·.type), given.map (·.type), mustUse, effects⟩)
      | some stage =>
        let inputs ← parameters.mapM fun parameter =>
          module.stageValuesOf? parameter.name parameter.type parameter.varying
        let outputs ← match given with
          | none => some []
          | some result => module.stageValuesOf? "" result.type result.varying
        let entry : EntryPoint := ⟨stage, name, inputs.flatten, outputs, effects⟩
        if module.isSound entry then
          return { module with entryPoints := module.entryPoints ++ [entry] }
        else none

/-- Settles what can be settled of some declarations; gives the module and the declarations left. -/
def settleRound (module : Module) (declarations : List Declaration) :
    Module × List Declaration :=
  declarations.foldl (fun (module, left) declaration =>
    match module.settle? declaration with
    | some module => (module, left)
    | none => (module, left ++ [declaration])) (module, [])

/-- Settles declarations in rounds until none is left. -/
def settleAll? : (rounds : Nat) → Module → List Declaration → Option Module
  | _, module, [] => some module
  | 0, _, _ :: _ => none
  | rounds + 1, module, declarations =>
    let (module, left) := module.settleRound declarations
    settleAll? rounds module left

/-- The module before anything is declared: only the structures that functions of the language give
back are there. -/
def initial (tree : SourceTree) : Module :=
  let atomics : List (String × List (String × DataType)) :=
    [("__atomic_compare_exchange_result_i32", [("old_value", .int), ("exchanged", .bool)]),
      ("__atomic_compare_exchange_result_u32", [("old_value", .uint), ("exchanged", .bool)])]
  let empty : Module :=
    { scope :=
        { extensions := tree.extensions, layouts := [], members := [], globals := [], locals := [] }
      structures := [], moduleVariables := [], entryPoints := [], needsExtra := tree.needsExtra }
  (Arithmetic.resultStructures ++ atomics).foldl (fun module (name, members) =>
    module.withStructure name (members.map fun (field, type) => ⟨⟨field, type, none⟩, none, none⟩))
    empty

/-- The module of a tree, if the tree is valid. -/
def ofTree? (tree : SourceTree) : Option Module := do
  let declarations := tree.declarations
  let start := { initial tree with scope := { (initial tree).scope with
    names := declarations.map (·.name) } }
  if !(declarations.map (·.name)).Nodup then none
  else
    let module ← settleAll? declarations.length start declarations
    let (values, _) ← module.run (tree.assertions.mapM infer)
    if values.all (·.known == some (.bool true)) then some module else none

/-- The module of a source, if the source is valid. -/
def ofSource? (source : String) : Option Module := do ofTree? (← SourceTree.ofSource? source)

def entryPoint? (module : Module) (stage : Stage) (name : String) : Option EntryPoint :=
  module.entryPoints.find? fun entry => entry.stage == stage && entry.name == name

/-- Whether the module can do without abilities that not every device has. -/
def isPlain (module : Module) : Bool :=
  !module.needsExtra && module.entryPoints.all fun entry =>
    !(entry.inputs ++ entry.outputs).any StageValue.needsExtra

def find? (module : Module) (name : String) : Option ModuleVariable :=
  module.moduleVariables.find? (·.name == name)

end Module

end FramePlan.Shader
