import FramePlan.Document.Decode

/-!
# Configuration

What is fixed per compiled pipeline besides its description: shader entry points and profiles, and
what happens to a uniform without a value.

`Config` is the engine's `PipelineConfig`.
-/

namespace FramePlan

/-- What to do with a uniform that neither the object nor the input provides. -/
inductive UnboundUniformPolicy where
  /-- Submit nothing and report it. -/
  | skip
  /-- Submit the zero value of the declared type. -/
  | zero
deriving DecidableEq, Repr

namespace UnboundUniformPolicy

def name : UnboundUniformPolicy → String
  | .skip => "skip"
  | .zero => "zero"

def all : List UnboundUniformPolicy := [.skip, .zero]

end UnboundUniformPolicy

/-- Settings for compiling and running a pipeline. -/
structure Config where
  vertexEntryPoint : String := "main"
  fragmentEntryPoint : String := "main"
  vertexProfile : String := "vs_5_0"
  fragmentProfile : String := "ps_5_0"
  unboundUniforms : UnboundUniformPolicy := .skip
deriving DecidableEq, Repr

namespace Config

/-- The default settings. -/
def default : Config := {}

/-- The fields of written settings; each may be left out. -/
def fields : Fields Config :=
  Fields.pure Config.mk
    <*> .field "vertex_entry_point" Decode.string (some default.vertexEntryPoint)
    <*> .field "fragment_entry_point" Decode.string (some default.fragmentEntryPoint)
    <*> .field "vertex_profile" Decode.string (some default.vertexProfile)
    <*> .field "fragment_profile" Decode.string (some default.fragmentProfile)
    <*> .field "unbound_uniforms"
      (Decode.choice (UnboundUniformPolicy.all.map fun policy => (policy.name, policy)))
      (some default.unboundUniforms)

def decode : Decoder Config := fields.decode "struct PipelineConfig"

end Config

end FramePlan
