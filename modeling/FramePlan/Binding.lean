import FramePlan.Config
import FramePlan.Resources

/-!
# Binding names

The values, streams and slots that the names of a program stand for in one draw.

`resolveUniform?`, `uniformValue`, `streamBinding` and `samplerSlot` are the binder's
`resolve_uniform`, `uniform_value`, `stream_binding` and `resolve_sampler`.
-/

namespace FramePlan

variable {Handle : Type} {handles : Handles}

/-- The value under a name: that of the object counts before that of the scene. -/
def resolveUniform? (name : String) (object : Option (Object Handle)) (scene : Scene Handle) :
    Option Value :=
  (object.bind (·.uniforms.get? name)).or (scene.uniforms.get? name)

/-- The value submitted for a uniform. Without a value the policy decides. -/
def uniformValue (name : String) (slot : UniformSlot) (object : Option (Object Handle))
    (scene : Scene Handle) (policy : UnboundUniformPolicy) : Except BindingError Value :=
  match resolveUniform? name object scene with
  | some value =>
    if value.inputType = slot.type then .ok value
    else .error (.uniformTypeMismatch name slot.type value.inputType)
  | none =>
    match policy, Value.zero? slot.type with
    | .zero, some value => .ok value
    | .zero, none | .skip, _ => .error (.missingUniform name)

/-- How the stream for an attribute is bound: it has to have the declared type. -/
def streamBinding (slot : StreamSlot) (streams : Streams Handle) :
    Except BindingError (StreamBinding Handle) :=
  match streams.get? slot.stream with
  | none => .error (.missingStream slot.stream)
  | some stream =>
    if stream.type = slot.type then stream.binding slot.stream
    else .error (.streamTypeMismatch slot.stream slot.type stream.type)

def samplerSlot (name : String) (program : CompiledProgram handles) :
    Except BindingError SamplerSlot :=
  match program.samplers.get? name with
  | some slot => .ok slot
  | none => .error (.unknownSampler name)

end FramePlan
