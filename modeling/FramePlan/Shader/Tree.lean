import FramePlan.Shader.Constant

/-!
# Shader trees

A shader as it is written: declarations in any order, bodies as statements, types as expressions
(a name, or a name with arguments in angle brackets). Names are not resolved yet.
-/

namespace FramePlan.Shader

inductive Expression where
  | literal (value : Constant)
  | name (text : String)
  /-- A name with arguments in angle brackets. -/
  | template (name : String) (arguments : List Expression)
  | call (callee : Expression) (arguments : List Expression)
  | unary (operator : UnaryOperator) (operand : Expression)
  | binary (operator : BinaryOperator) (left right : Expression)
  | member (base : Expression) (field : String)
  | index (base position : Expression)
deriving Repr

mutual

/-- A statement of a function body. -/
inductive Statement where
  | nothing
  | block (body : List Statement)
  /-- A name for a value. -/
  | value (name : String) (type : Option Expression) (value : Expression)
  /-- A name for a value that is known beforehand. -/
  | constant (name : String) (type : Option Expression) (value : Expression)
  | variable (name : String) (type value : Option Expression)
  /-- An expression whose value is not used. -/
  | evaluate (value : Expression)
  | assign (target value : Expression)
  /-- An assignment that combines the old value with another one. -/
  | update (operator : BinaryOperator) (target value : Expression)
  /-- An increment or a decrement. -/
  | step (target : Expression)
  | call (function : String) (arguments : List Expression)
  | choice (condition : Expression) (accept reject : List Statement)
  | selection (selector : Expression) (cases : List Case)
  | loop (body continuing : List Statement) (breakIf : Option Expression)
  | leave
  | proceed
  | giveBack (value : Option Expression)
  | discard
  | assertion (condition : Expression)

/-- A case of a selection; a selector that is left out is the default. -/
inductive Case where
  | mk (selectors : List (Option Expression)) (body : List Statement)

end

/-- An attribute; one without parentheses has no argument list. -/
structure Attribute where
  name : String
  arguments : Option (List Expression)
deriving Repr

/-- A member of a structure, a parameter of a function. -/
structure Field where
  attributes : List Attribute
  name : String
  type : Expression
deriving Repr

/-- What a function gives back. -/
structure ResultType where
  attributes : List Attribute
  type : Expression
deriving Repr

/-- A declaration at the level of the module. -/
inductive DeclarationKind where
  | alias (type : Expression)
  | structure (members : List Field)
  | constant (type : Option Expression) (value : Expression)
  /-- A constant that may be replaced when a pipeline is made. -/
  | override (type value : Option Expression)
  | variable (space : List Expression) (type value : Option Expression)
  | function (parameters : List Field) (result : Option ResultType) (body : List Statement)

/-- A named declaration with its attributes. -/
structure Declaration where
  attributes : List Attribute
  name : String
  kind : DeclarationKind

/-- A shader source in the form of a tree. -/
structure SourceTree where
  /-- The extensions that the source enables. -/
  extensions : List String
  declarations : List Declaration
  assertions : List Expression

end FramePlan.Shader
