import FramePlan.Shader.Typing

/-!
# Statements

Checks the statements of a function body in order. A frame holds what a statement depends on and
what the next one depends on.

A function that gives something back may not run off its end. What counts as an end is the last
operation of the body: leaving it, a choice or selection all of whose branches end, or a value that
is computed and not stored.

The rules are those of the validator of `naga`.
-/

namespace FramePlan.Shader

open Typing

/-- The surroundings of a statement. -/
structure Frame where
  /-- The names in sight, innermost first. -/
  locals : List (String × Typed)
  /-- The names of the innermost block. -/
  declared : List String
  result : Option DataType
  inLoop : Bool := false
  canLeave : Bool := false
  canGiveBack : Bool := true
  /-- Whether the last operation so far ends the block. -/
  ended : Bool := false

namespace Frame

/-- Runs a rule with the local names of a frame. -/
def within {α : Type} (frame : Frame) (rule : Typing α) : Typing α :=
  withReader (fun scope => { scope with locals := frame.locals }) rule

/-- The frame at the start of a block inside. -/
def inner (frame : Frame) : Frame := { frame with declared := [], ended := false }

/-- Adds a name, which may not be taken in the same block. -/
def declare (frame : Frame) (name : String) (typed : Typed) : Typing Frame := do
  require (!frame.declared.contains name)
  return { frame with
    locals := (name, typed) :: frame.locals, declared := name :: frame.declared }

/-- A value of a type that may be written down. -/
def valueOf (frame : Frame) (type : Option Expression) (value : Expression) : Typing Typed :=
  frame.within do
    let value ← infer value
    let value ← value.load
    match type with
    | some type => ofOption (value.become? (← resolve type))
    | none => return value

/-- A condition, which has to be a truth value. -/
def condition (frame : Frame) (value : Expression) : Typing Unit := do
  let value ← frame.valueOf none value
  require (value.type == .bool)

/-- Whether evaluating an expression is an operation of its own. -/
def computes (frame : Frame) (value : Expression) : Typing Bool := frame.within do
  match value with
  | .literal _ => return false
  | .name _ => return (← infer value).space.isSome
  | .call (.name name) _ =>
    match (← read).globals.lookup name with
    | some (.function _) => return false
    | _ => return (← infer value).phase == .running
  | value => return (← infer value).phase == .running

def targetOf (frame : Frame) (target : Expression) : Typing Typed := frame.within do
  let place ← infer target
  match place.space with
  | none => failure
  | some space =>
    let traits := (← read).traits place.type
    require (space.access.allowsWrite && traits.isSized && traits.isCopyable)
    return place

def declareVariable (frame : Frame) (name : String) (type value : Option Expression) : Typing Frame := do
  let (type, initial) ← match type, value with
    | none, none => failure
    | some type, none => pure (← frame.within (resolve type), none)
    | type, some value =>
      let given ← frame.valueOf type value
      let given ← ofOption given.concrete?
      pure (given.type, some given)
  require (((← read).traits type).isConstructible)
  let stores := frame.inLoop || initial.any (·.phase != .early)
  let frame ← frame.declare name { type, space := some .function }
  return { frame with ended := frame.ended && !stores }

def callStatement (frame : Frame) (function : String) (arguments : List Expression) :
    Typing Unit := frame.within do
  match (← read).globals.lookup function with
  | some (.function signature) => require !signature.mustUse
  | _ => pure ()
  let values ← inferAll arguments
  let _ ← callNamed function values

/-- The values that cases select, each as an integer of a type. -/
def selected (frame : Frame) (type : DataType) (selectors : List (Option Expression)) :
    Typing (List (Option Int)) := do
  selectors.mapM fun selector => do
    match selector with
    | none => return none
    | some value =>
      let value ← frame.valueOf none value
      let value ← ofOption (value.become? type)
      let constant ← ofOption value.known
      some <$> ofOption constant.integer?

end Frame

def Case.selectors : Case → List (Option Expression)
  | .mk selectors _ => selectors

mutual

/-- Checks a statement; gives the frame behind it. -/
def Statement.check (frame : Frame) : Statement → Typing Frame
  | .nothing => return frame
  | .block body => do
    let inside ← checkAll frame.inner body
    return { frame with ended := inside.ended }
  | .value name type value => do
    let typed ← frame.valueOf type value
    let typed ← ofOption typed.concrete?
    let computes ← frame.computes value
    let frame ← frame.declare name { typed with phase := .running, known := none }
    return { frame with ended := frame.ended || computes }
  | .constant name type value => do
    let typed ← frame.valueOf type value
    require (typed.phase == .early)
    frame.declare name typed
  | .variable name type value => frame.declareVariable name type value
  | .evaluate value => do
    let _ ← frame.valueOf none value
    return { frame with ended := frame.ended || (← frame.computes value) }
  | .assign target value => do
    let place ← frame.targetOf target
    let value ← frame.valueOf none value
    let _ ← ofOption (value.become? place.type)
    return { frame with ended := false }
  | .update operator target value => do
    let place ← frame.targetOf target
    let value ← frame.valueOf none value
    let result ← frame.within (binary operator place value)
    require (result.type == place.type)
    return { frame with ended := false }
  | .step target => do
    let place ← frame.targetOf target
    require (place.type == .int || place.type == .uint)
    return { frame with ended := false }
  | .call function arguments => do
    frame.callStatement function arguments
    return { frame with ended := false }
  | .choice condition accept reject => do
    frame.condition condition
    let accepted ← checkAll frame.inner accept
    let rejected ← checkAll frame.inner reject
    return { frame with ended := accepted.ended && rejected.ended }
  | .selection selector cases => do
    let selector ← frame.valueOf none selector
    let selector ← ofOption selector.concrete?
    require (selector.type == .int || selector.type == .uint)
    let values ← cases.mapM fun case => frame.selected selector.type case.selectors
    require (values.flatten.contains none && values.flatten.Nodup)
    let ended ← checkCases { frame.inner with canLeave := true } cases
    return { frame with ended }
  | .loop body continuing breakIf => do
    let frameInside := { frame.inner with inLoop := true, canLeave := true }
    let inside ← checkAll frameInside body
    let last := { inside with
      inLoop := false, canLeave := false, canGiveBack := false, ended := false }
    let behind ← checkAll last continuing
    match breakIf with
    | some condition => behind.condition condition
    | none => pure ()
    return { frame with ended := false }
  | .leave => do
    require frame.canLeave
    return { frame with ended := true }
  | .proceed => do
    require frame.inLoop
    return { frame with ended := true }
  | .giveBack value => do
    require frame.canGiveBack
    match value, frame.result with
    | none, none => pure ()
    | some value, some type => do
      let value ← frame.valueOf none value
      let _ ← ofOption (value.become? type)
    | _, _ => failure
    return { frame with ended := true }
  | .discard => do
    touch { needsFragment := true }
    return { frame with ended := true }
  | .assertion condition => do
    let value ← frame.valueOf none condition
    require (value.known == some (.bool true))
    return frame

/-- Checks statements in order. -/
def checkAll (frame : Frame) : List Statement → Typing Frame
  | [] => return frame
  | first :: rest => do
    let frame ← first.check frame
    checkAll frame rest

/-- Checks the bodies of cases; returns whether all of them end. -/
def checkCases (frame : Frame) : List Case → Typing Bool
  | [] => return true
  | .mk _ body :: rest => do
    let inside ← checkAll frame body
    let ended ← checkCases frame rest
    return inside.ended && ended

end

/-- Checks the body of a function, given its parameters. -/
def checkBody (parameters : List (String × Typed)) (result : Option DataType)
    (body : List Statement) : Typing Unit := do
  let start : Frame := { locals := [], declared := [], result }
  let start ← parameters.foldlM (fun frame (name, typed) => frame.declare name typed) start
  let last ← checkAll start body
  require (result.isNone || last.ended)

end FramePlan.Shader
