import FramePlan.Binding

/-!
# What binding errors are about

Each way to bind something fails with errors of its own: streams, uniforms and samplers do not get
mixed up in a report.
-/

namespace FramePlan

variable {handles : Handles}

/-- A name for which a program has no sampler. -/
def CompiledProgram.lacksSampler? (program : CompiledProgram handles) (name : String) :
    Option String :=
  if (program.samplers.get? name).isNone then some name else none

/-- What a binding error is about. -/
inductive BindingSubject where
  | stream
  | uniform
  | sampler
deriving DecidableEq

namespace BindingError

def subject : BindingError → BindingSubject
  | .missingStream _ | .unsupportedStreamType _ _ | .streamArrayMismatch _ _ _
  | .streamTypeMismatch _ _ _ => .stream
  | .missingUniform _ | .uniformTypeMismatch _ _ _ => .uniform
  | .unknownSampler _ => .sampler

/-- The sampler that is unknown. -/
def samplerName? : BindingError → Option String
  | .unknownSampler name => some name
  | _ => none

theorem samplerName?_eq_none {error : BindingError} (hsubject : error.subject ≠ .sampler) :
    error.samplerName? = none := by
  cases error with
  | unknownSampler name => exact absurd rfl hsubject
  | _ => rfl

end BindingError

theorem subject_of_streamBinding {Handle : Type} {slot : StreamSlot} {streams : Streams Handle}
    {error : BindingError} (herror : streamBinding slot streams = .error error) :
    error.subject = .stream := by
  unfold streamBinding at herror
  split at herror
  · cases herror
    rfl
  · split at herror
    · unfold Stream.binding at herror
      split at herror
      · cases herror
        rfl
      · split at herror
        · cases herror
          rfl
        · split at herror
          · cases herror
          · cases herror
            rfl
    · cases herror
      rfl

theorem subject_of_uniformValue {Handle : Type} {name : String} {slot : UniformSlot}
    {object : Option (Object Handle)} {scene : Scene Handle} {policy : UnboundUniformPolicy}
    {error : BindingError} (herror : uniformValue name slot object scene policy = .error error) :
    error.subject = .uniform := by
  unfold uniformValue at herror
  split at herror
  · split at herror
    · cases herror
    · cases herror
      rfl
  · split at herror
    · cases herror
    · cases herror
      rfl
    · cases herror
      rfl

end FramePlan
