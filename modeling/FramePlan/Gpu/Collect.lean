import FramePlan.Gpu

/-!
# The resources of a draw

Both stages of a program are served from what is bound. A uniform gets a buffer with the bytes last
set at its slot, filled up with zeros; a texture or sampler gets what its unit holds, which is unit
zero unless its slot was pointed elsewhere.

Of two stages with a uniform at one slot the first decides the buffer; of two textures or samplers at
one slot the last counts.

`Gpu.collect` is `collect_resources` of the engine's `WgpuDevice`, and `textureAt` its
`texture_for`.
-/

namespace FramePlan

open Shader (Interface UniformInfo)

/-- As what a shader may read a texture. -/
inductive SampleType where
  | depth
  | float (filterable : Bool)
deriving DecidableEq, Repr

/-- What is bound at a slot for one draw. -/
inductive BoundResource where
  | uniform (contents : List UInt8)
  | texture (image : GpuImage) (sampleType : SampleType)
  | sampler (binding : SamplerBinding)
deriving DecidableEq, Repr

namespace BoundState

def textureAt (bound : BoundState) (name : String) (slot : ResourceSlot) :
    Except DeviceError BoundTexture :=
  match bound.units.get? ((bound.samplerUnits.get? slot).getD 0) with
  | some texture => .ok texture
  | none => .error (.unboundResource (.resource name))

/-- Bytes filled up with zeros to a multiple of sixteen that is not below a size. -/
def padded (contents : List UInt8) (size : Nat) : List UInt8 :=
  let length := roundUp 16 (max contents.length size)
  contents ++ List.replicate (length - contents.length) 0

/-- The buffer for a uniform. -/
def uniformContents (bound : BoundState) (info : UniformInfo) : List UInt8 :=
  padded ((bound.uniforms.get? info.slot).getD []) info.size

end BoundState

/-- As what a bound texture can be read: only a sampler that compares reads depths. -/
def BoundTexture.sampleType (features : GpuFeatures) (texture : BoundTexture) : SampleType :=
  match texture.image.format with
  | .depth => if texture.sampler.binding = .comparison then .depth else .float false
  | .color => .float features.filterableFloats

namespace Gpu

/-- The resources of a draw by slot. -/
abbrev Resources := Table ResourceSlot BoundResource

/-- Adds the buffer of a uniform, unless something is at its slot already. -/
def addUniform (bound : BoundState) (resources : Resources) (info : UniformInfo) : Resources :=
  if resources.contains info.slot then resources
  else resources.insert info.slot (.uniform (bound.uniformContents info))

/-- Adds the texture of a name. -/
def addTexture (features : GpuFeatures) (bound : BoundState) (resources : Resources)
    (entry : String × ResourceSlot) : Except DeviceError Resources := do
  let texture ← bound.textureAt entry.1 entry.2
  return resources.insert entry.2 (.texture texture.image (texture.sampleType features))

/-- Adds the sampler of a name. -/
def addSampler (bound : BoundState) (resources : Resources) (entry : String × ResourceSlot) :
    Except DeviceError Resources := do
  let texture ← bound.textureAt entry.1 entry.2
  return resources.insert entry.2 (.sampler texture.sampler.binding)

/-- Adds what a stage exposes: its uniforms, then its textures, then its samplers. -/
def addStage (features : GpuFeatures) (bound : BoundState) (resources : Resources)
    (interface : Interface) : Except DeviceError Resources := do
  let resources := interface.uniforms.values.foldl (addUniform bound) resources
  let resources ← interface.textures.entries.foldlM (addTexture features bound) resources
  interface.samplers.entries.foldlM (addSampler bound) resources

/-- The resources of both stages, the vertex stage first. -/
def collect (features : GpuFeatures) (bound : BoundState) (vertex fragment : Interface) :
    Except DeviceError Resources := do
  let resources ← addStage features bound .empty vertex
  addStage features bound resources fragment

end Gpu

end FramePlan
