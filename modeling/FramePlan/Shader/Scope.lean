import FramePlan.Shader.Operator

/-!
# Scopes

What the names of a shader stand for, and what is known of an expression: its type, whether it is a
place in memory, when its value is known, and what evaluating it touches.
-/

namespace FramePlan.Shader

/-- When the value of an expression is known. -/
inductive Phase where
  /-- Beforehand. -/
  | early
  /-- When a pipeline is made. -/
  | pipeline
  /-- While the shader runs. -/
  | running
deriving DecidableEq, Repr

def Phase.join : Phase → Phase → Phase
  | .running, _ | _, .running => .running
  | .pipeline, _ | _, .pipeline => .pipeline
  | .early, .early => .early

inductive Handle where
  | global (name : String)
  | parameter (index : Nat)
deriving DecidableEq, Repr

/-- What is known of an expression. -/
structure Typed where
  type : DataType
  /-- The space of the place that the expression denotes, unless it denotes a value. -/
  space : Option AddressSpace := none
  phase : Phase := .running
  /-- The value, for scalars that are known beforehand. -/
  known : Option Constant := none
  handle : Option Handle := none
deriving DecidableEq, Repr

/-- What evaluating something touches. -/
structure Effects where
  globals : List String := []
  /-- Runs in fragment stages only. -/
  needsFragment : Bool := false
  /-- Runs in compute stages only. -/
  needsCompute : Bool := false
  /-- The textures that are read, each with its sampler. -/
  samplings : List (Handle × Handle) := []
deriving DecidableEq, Repr

namespace Effects

/-- Both effects, the first ones first. -/
def join (first second : Effects) : Effects where
  globals := first.globals ++ second.globals.filter (!first.globals.contains ·)
  needsFragment := first.needsFragment || second.needsFragment
  needsCompute := first.needsCompute || second.needsCompute
  samplings := first.samplings ++ second.samplings.filter (!first.samplings.contains ·)

/-- The effects of a call, given where the handles among the arguments come from. -/
def atCall (effects : Effects) (arguments : List (Option Handle)) : Effects :=
  let resolve : Handle → Option Handle
    | .global name => some (.global name)
    | .parameter index => (arguments[index]?).join
  { effects with samplings := effects.samplings.filterMap fun (texture, sampler) => do
      return (← resolve texture, ← resolve sampler) }

end Effects

/-- What a call of a function asks for and gives. -/
structure Signature where
  parameters : List DataType
  result : Option DataType
  mustUse : Bool
  effects : Effects
deriving DecidableEq, Repr

/-- What a name at the level of the module stands for. -/
inductive Entity where
  | type (type : DataType)
  | item (typed : Typed)
  | function (signature : Signature)
deriving Repr

/-- The names that can be used at a place. -/
structure Scope where
  extensions : List String
  layouts : Layouts
  /-- The members of the structures. -/
  members : List (String × List (String × DataType))
  /-- Every name that the module declares, settled or not. -/
  names : List String := []
  globals : List (String × Entity)
  /-- The local names, innermost first. -/
  locals : List (String × Typed)

namespace Scope

def member? (scope : Scope) (structure_ field : String) : Option DataType := do
  (← scope.members.lookup structure_).lookup field

def traits (scope : Scope) (type : DataType) : Traits := type.traits scope.layouts

end Scope

/-- Finds out what is known of something in a scope, and what it touches. Fails where the shader is
not valid. -/
abbrev Typing := ReaderT Scope (StateT Effects Option)

namespace Typing

/-- Fails unless a condition holds. -/
def require (condition : Bool) : Typing Unit := if condition then pure () else failure

def ofOption {α : Type} (result : Option α) : Typing α :=
  match result with
  | some value => pure value
  | none => failure

/-- Adds effects. -/
def touch (effects : Effects) : Typing Unit := modify (·.join effects)

end Typing

namespace Typed

/-- A value of a type that is known while the shader runs. -/
def ofType (type : DataType) : Typed := { type }

def ofConstant (value : Constant) : Typed :=
  { type := .scalar value.type, phase := .early, known := some value }

/-- The value that stands at a place; only what can be copied can be taken. -/
def load (typed : Typed) : Typing Typed := do
  match typed.space with
  | none => return typed
  | some space =>
    let traits := (← read).traits typed.type
    Typing.require (space.access.allowsRead && traits.isSized && traits.isCopyable)
    return { typed with space := none, phase := .running, known := none }

/-- The value with its leaf turned into another one by itself. -/
def withLeaf? (typed : Typed) (leaf : ScalarType) : Option Typed := do
  let own ← typed.type.leaf?
  if !own.becomes leaf then none
  else match typed.known with
    | some value => return { typed with
        type := typed.type.withLeaf leaf, known := some (← value.become? leaf) }
    | none => return { typed with type := typed.type.withLeaf leaf }

/-- The value as one of another type that it becomes by itself. -/
def become? (typed : Typed) (target : DataType) : Option Typed :=
  if typed.type == target then some typed
  else if typed.type.becomes target then target.leaf?.bind typed.withLeaf?
  else none

/-- The value without an abstract type. -/
def concrete? (typed : Typed) : Option Typed := typed.become? typed.type.concrete

def natural? (typed : Typed) : Option Nat := do
  let concrete ← typed.concrete?
  let value ← (← concrete.known).integer?
  if value < 0 then none else some value.toNat

def phaseOf (values : List Typed) : Phase :=
  values.foldl (fun phase value => phase.join value.phase) .early

end Typed

end FramePlan.Shader
