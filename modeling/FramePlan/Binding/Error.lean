import FramePlan.Value

/-!
# Binding errors

Why a name that a program declares cannot be bound for one draw or command. The frame carries on.

The type is the engine's `BindingError`, with the messages that it displays.
-/

namespace FramePlan

def Scalar.name : Scalar → String
  | .bool => "Bool"
  | .int => "Int"
  | .word => "Word"
  | .float => "Float"

inductive BindingError where
  | missingStream (name : String)
  | missingUniform (name : String)
  | uniformTypeMismatch (name : String) (expected found : InputType)
  | unknownSampler (name : String)
  | unsupportedStreamType (name : String) (type : InputType)
  | streamArrayMismatch (name : String) (type : InputType) (kind : Scalar)
  | streamTypeMismatch (name : String) (expected found : InputType)
deriving DecidableEq, Repr

def BindingError.kind : BindingError → String
  | .missingStream _ => "MissingStream"
  | .missingUniform _ => "MissingUniform"
  | .uniformTypeMismatch _ _ _ => "UniformTypeMismatch"
  | .unknownSampler _ => "UnknownSampler"
  | .unsupportedStreamType _ _ => "UnsupportedStreamType"
  | .streamArrayMismatch _ _ _ => "StreamArrayMismatch"
  | .streamTypeMismatch _ _ _ => "StreamTypeMismatch"

def BindingError.message : BindingError → String
  | .missingStream name => s!"stream `{name}` is not present in the stream map"
  | .missingUniform name => s!"uniform `{name}` has no value in the object or the pipeline input"
  | .uniformTypeMismatch name expected found =>
    s!"uniform `{name}` is declared as {expected.name} but the supplied value is {found.name}"
  | .unknownSampler name => s!"the bound program has no sampler named `{name}`"
  | .unsupportedStreamType name type =>
    s!"stream `{name}` has type {type.name}, which cannot be used as a vertex attribute"
  | .streamArrayMismatch name type kind =>
    s!"stream `{name}` has type {type.name} but its array holds {kind.name} values"
  | .streamTypeMismatch name expected found =>
    s!"stream `{name}` is declared as {expected.name} but the supplied stream is {found.name}"

end FramePlan
