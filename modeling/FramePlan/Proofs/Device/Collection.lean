import FramePlan.Proofs.Device.Gathering

/-!
# What a draw is served with

The resources of a draw are gathered slot by slot from both stages. A texture or a sampler is put at its
slot whatever is there already, and it is what the unit holds that the slot is pointed at. A uniform
only gets a slot that nothing else has, so of two uniforms at one slot the one that is met first decides
how long the buffer is, and the vertex stage is asked first.

* `Gpu.served_of_collect`: every texture and every sampler comes from the unit of its slot.
* `Gpu.exists_of_collect_eq_error`: nothing but a texture or a sampler can be missing.
* `Gpu.get?_collect_of_notMem`: what is at a slot that only uniforms have.
* `uniform_buffer_fits_first`: the buffer for a uniform begins with the bytes that were set last and is
  filled up with zeros, for the size of the uniform that is met first at its slot.
* `uniform_buffer_too_short`: another uniform at the slot may be longer than the buffer.
-/

namespace FramePlan

open Shader (Interface UniformInfo CompiledStage)

/-! ## Textures and samplers -/

/-- The slots of the textures and of the samplers of a stage. -/
def Shader.Interface.handleSlots (interface : Interface) : List ResourceSlot :=
  interface.textures.values ++ interface.samplers.values

/-- What may be at a slot: any buffer, or what the slot reaches, as a texture or as a sampler. -/
def BoundState.Serves (bound : BoundState) (features : GpuFeatures) (slot : ResourceSlot) :
    BoundResource → Prop
  | .uniform _ => True
  | .texture image sampleType =>
    ∃ texture, bound.reached? slot = some texture ∧ texture.image = image ∧
      texture.sampleType features = sampleType
  | .sampler binding =>
    ∃ texture, bound.reached? slot = some texture ∧ texture.sampler.binding = binding

theorem Shader.Interface.map_slot_declaredHandles (interface : Interface) :
    interface.declaredHandles.map (·.slot) = interface.handleSlots := by
  rw [declaredHandles, handleSlots, List.map_append, List.map_map, List.map_map]
  rfl

theorem BoundState.serves_of_resourceAt? {bound : BoundState} {features : GpuFeatures}
    {slot : ResourceSlot} {handle : DeclaredHandle} {resource : BoundResource}
    (hput : handle.resourceAt? features bound slot = some resource) :
    bound.Serves features slot resource := by
  obtain ⟨_, hput⟩ := Option.ite_none_right_eq_some.1 hput
  obtain ⟨texture, htexture, rfl⟩ := Option.map_eq_some_iff.1 hput
  cases handle.use with
  | image => exact ⟨texture, htexture, rfl, rfl⟩
  | sampler => exact ⟨texture, htexture, rfl⟩

namespace Gpu

variable {features : GpuFeatures} {bound : BoundState} {resources : Resources}

/-- Whether all that has been gathered is served from what is bound. -/
def IsServed (features : GpuFeatures) (bound : BoundState) (resources : Resources) : Prop :=
  ∀ ⦃slot resource⦄, resources.get? slot = some resource → bound.Serves features slot resource

/-- Every texture and every sampler of a draw is what its slot reaches. -/
theorem served_of_collect {vertex fragment : Interface}
    (hok : collect features bound vertex fragment = .ok resources) :
    IsServed features bound resources := by
  intro slot resource hget
  rw [get?_of_collect hok, Option.or_eq_some_iff] at hget
  rcases hget with hlast | ⟨_, huniform⟩
  · obtain ⟨handle, _, hput⟩ := List.mem_filterMap.1 (List.mem_of_getLast? hlast)
    exact BoundState.serves_of_resourceAt? hput
  · obtain ⟨info, _, rfl⟩ := Option.map_eq_some_iff.1 huniform
    exact trivial

/-! ## What can be missing -/

variable {error : DeviceError}

/-- Nothing but a texture or a sampler can be missing where resources are gathered. -/
theorem exists_of_collect_eq_error {vertex fragment : Interface}
    (herror : collect features bound vertex fragment = .error error) :
    ∃ name, error = .unboundResource (.resource name) := by
  obtain ⟨_, handle, _, _, _, _, rfl⟩ := exists_first_of_collect_eq_error herror
  exact ⟨handle.name, rfl⟩

/-- What cannot be put together misses a stream, a texture or a sampler. -/
theorem exists_of_assemble_eq_error {program : BoundProgram} {target : GpuView}
    {vertexCount : UInt32}
    (herror : assemble features bound program target vertexCount = .error error) :
    ∃ missing, error = .unboundResource missing := by
  rcases eq_error_or_of_bind_eq_error herror with hstreams | ⟨_, _, herror⟩
  · obtain ⟨listed, _, hrefused⟩ := exists_of_mapM_eq_error hstreams
    unfold BoundState.streamFor at hrefused
    split at hrefused
    · cases hrefused
      exact ⟨_, rfl⟩
    · split at hrefused
      · cases hrefused
        exact ⟨_, rfl⟩
      · cases hrefused
  · rcases eq_error_or_of_bind_eq_error herror with hcollect | ⟨_, _, hpure⟩
    · obtain ⟨name, rfl⟩ := exists_of_collect_eq_error hcollect
      exact ⟨_, rfl⟩
    · cases hpure

/-- A draw that breaks a rule has been put together before. -/
theorem exists_of_draw_eq_validation {primitive : Primitive} {vertexCount : UInt32} {gpu : Gpu}
    {rejection : Rejection}
    (hdraw : (draw primitive vertexCount gpu).1 = .error (.validation rejection)) :
    ∃ program target call,
      assemble gpu.features gpu.bound program target vertexCount = .ok call ∧
      call.rejection? = some rejection := by
  rcases draw_cases primitive vertexCount gpu with
    hrefused | ⟨_, hrefused⟩ | ⟨_, haccepted⟩ | ⟨program, target, _, _, hchecked⟩
  · rw [hrefused] at hdraw
    cases hdraw
  · rw [hrefused] at hdraw
    cases hdraw
  · rw [haccepted] at hdraw
    cases hdraw
  · rw [hchecked] at hdraw
    rcases eq_error_or_of_bind_eq_error hdraw with hassemble | ⟨call, hassemble, hcheck⟩
    · obtain ⟨_, herror⟩ := exists_of_assemble_eq_error hassemble
      cases herror
    · obtain ⟨_, hrejection, herror⟩ := check_eq_error_iff.1 hcheck
      cases herror
      exact ⟨program, target, call, hassemble, hrejection⟩

/-! ## Slots that only uniforms have -/

/-- At a slot that no texture and no sampler has is the buffer of the first uniform there, the vertex
stage first. -/
theorem get?_collect_of_notMem {vertex fragment : Interface} {slot : ResourceSlot}
    (hslot : slot ∉ vertex.handleSlots ++ fragment.handleSlots)
    (hok : collect features bound vertex fragment = .ok resources) :
    resources.get? slot =
      ((vertex.uniforms.values ++ fragment.uniforms.values).find? (·.slot = slot)).map fun info =>
        .uniform (bound.uniformContents info) := by
  rw [← Interface.map_slot_declaredHandles, ← Interface.map_slot_declaredHandles,
    ← List.map_append] at hslot
  apply get?_of_collect_of_ne hok
  intro handle hmem hsame
  exact hslot (hsame ▸ List.mem_map_of_mem hmem)

end Gpu

/-! ## Buffers of uniforms -/

def Action.uniformAt? {handles : Handles} (slot : ResourceSlot) : Action handles → Option Value
  | .setUniform other value => if other = slot then some value else none
  | _ => none

/-- What is written to a slot is the last value that actions write there. -/
theorem Gpu.get?_uniforms_foldl_apply (slot : ResourceSlot) (actions : List (Action Gpu.handles))
    (gpu : Gpu) :
    (actions.foldl (fun device action => action.apply device) gpu).bound.uniforms.get? slot =
      ((actions.filterMap (Action.uniformAt? slot)).getLast?.map Value.packed).or
        (gpu.bound.uniforms.get? slot) := by
  have hstep (gpu : Gpu) (action : Action Gpu.handles) (_ : action ∈ actions) :
      (action.apply gpu).bound.uniforms.get? slot =
        ((action.uniformAt? slot).map Value.packed).or (gpu.bound.uniforms.get? slot) := by
    cases action with
    | setUniform other value =>
      refine (Table.get?_insert_eq_ite gpu.bound.uniforms other slot value.packed).trans ?_
      rw [Action.uniformAt?]
      split <;> rfl
    | _ => rfl
  rw [← List.getLast?_map, List.map_filterMap]
  exact foldl_eq_getLast? (fun gpu : Gpu => gpu.bound.uniforms.get? slot)
    (fun gpu (action : Action Gpu.handles) => action.apply gpu) hstep gpu

/-- The bytes at a slot after some actions: those of the value that was written last. -/
def Gpu.writtenAt (slot : ResourceSlot) (actions : List (Action Gpu.handles)) (gpu : Gpu) :
    List UInt8 :=
  (((actions.filterMap (Action.uniformAt? slot)).getLast?.map Value.packed).or
    (gpu.bound.uniforms.get? slot)).getD []

/-- The shortest buffer of whole sixteens of bytes that begins with some bytes, is filled up with zeros,
and has room for a size. -/
structure IsBufferFor (written : List UInt8) (size : Nat) (contents : List UInt8) : Prop where
  begins : ∃ count, contents = written ++ List.replicate count 0
  whole : 16 ∣ contents.length
  roomy : size ≤ contents.length
  shortest : ∀ length, 16 ∣ length → written.length ≤ length → size ≤ length →
    contents.length ≤ length

theorem BoundState.isBufferFor_padded (written : List UInt8) (size : Nat) :
    IsBufferFor written size (padded written size) := by
  have hroom : max written.length size ≤ roundUp 16 (max written.length size) :=
    le_roundUp (by decide)
  have hlength : (padded written size).length = roundUp 16 (max written.length size) := by
    have hwritten := Nat.le_trans (Nat.le_max_left _ _) hroom
    rw [padded, List.length_append, List.length_replicate, Nat.add_sub_cancel' hwritten]
  refine ⟨⟨_, rfl⟩, ?_, ?_, ?_⟩
  · rw [hlength]
    exact dvd_roundUp 16 _
  · rw [hlength]
    exact Nat.le_trans (Nat.le_max_right _ _) hroom
  · intro length hwhole hwritten hsize
    rw [hlength]
    exact roundUp_le (by decide) hwhole (Nat.max_le.2 ⟨hwritten, hsize⟩)

/-- Whatever has been done, a uniform of either stage gets a buffer of its own if no texture and no
sampler has its slot. The buffer begins with the bytes that were written last, has zeros behind them, and
is as long as the first uniform at the slot needs, the vertex stage first. -/
theorem uniform_buffer_fits_first {features : GpuFeatures} {gpu : Gpu}
    {actions : List (Action Gpu.handles)} {vertex fragment : Interface}
    {resources : Gpu.Resources}
    (hcollect : Gpu.collect features
      (actions.foldl (fun device action => action.apply device) gpu).bound vertex fragment =
        .ok resources)
    {info : UniformInfo} (hinfo : info ∈ vertex.uniforms.values ++ fragment.uniforms.values)
    (hslot : info.slot ∉ vertex.handleSlots ++ fragment.handleSlots) :
    ∃ first contents,
      (vertex.uniforms.values ++ fragment.uniforms.values).find? (·.slot = info.slot) =
        some first ∧
      resources.get? info.slot = some (.uniform contents) ∧
      IsBufferFor (gpu.writtenAt info.slot actions) first.size contents := by
  have hfound : ((vertex.uniforms.values ++ fragment.uniforms.values).find?
      (·.slot = info.slot)).isSome = true :=
    List.find?_isSome.2 ⟨info, hinfo, decide_eq_true rfl⟩
  obtain ⟨first, hfirst⟩ := Option.isSome_iff_exists.1 hfound
  have hsame : first.slot = info.slot := by simpa using List.find?_some hfirst
  refine ⟨first, _, hfirst, ?_, BoundState.isBufferFor_padded _ _⟩
  rw [Gpu.get?_collect_of_notMem hslot hcollect, hfirst, Option.map_some,
    BoundState.uniformContents, hsame, Gpu.get?_uniforms_foldl_apply, Gpu.writtenAt]

/-! ## Two uniforms at one slot -/

namespace Sample

/-- Reads a matrix at the slot where the vertex stage has a vector. -/
def matrixFragment : String :=
  "@group(0)@binding(0)var<uniform>b:mat4x4f;" ++
  "@fragment fn f()->@location(0)vec4f\x7breturn b[0];\x7d"

/-- The slot that both stages use. -/
def sharedSlot : ResourceSlot := ⟨0, 0⟩

def vectorInfo : UniformInfo := ⟨sharedSlot, 16, some vector⟩

def matrixInfo : UniformInfo := ⟨sharedSlot, 64, some (.matrix .four)⟩

def vectorStage : Interface where
  uniforms := .ofList [("a", vectorInfo)]
  inputs := .ofList [("p", ⟨0, some ⟨.float, .four⟩⟩)]

def matrixStage : Interface where
  uniforms := .ofList [("b", matrixInfo)]

theorem interfaces_sharedSlot :
    (Interface.ofSource vertexShader .vertex "v").toOption = some vectorStage ∧
    (Interface.ofSource matrixFragment .fragment "f").toOption = some matrixStage := by
  decide +kernel

/-- The actions by which the slot gets its bytes. -/
def writesOnes : List (Action Gpu.handles) := [.setUniform sharedSlot ones]

theorem collect_sharedSlot :
    Gpu.collect {} (writesOnes.foldl (fun device action => action.apply device) ({} : Gpu)).bound
        vectorStage matrixStage =
      .ok (.ofList [(sharedSlot, .uniform ones.packed)]) := by
  rfl

end Sample

/-- The matrix shares the buffer of the vector. -/
theorem uniform_buffer_fits_first_sharedSlot : ∃ resources,
    Gpu.collect {}
        (Sample.writesOnes.foldl (fun device action => action.apply device) ({} : Gpu)).bound
        Sample.vectorStage Sample.matrixStage = .ok resources ∧
    ∃ first contents,
      (Sample.vectorStage.uniforms.values ++ Sample.matrixStage.uniforms.values).find?
        (·.slot = Sample.sharedSlot) = some first ∧
      resources.get? Sample.sharedSlot = some (.uniform contents) ∧
      IsBufferFor (({} : Gpu).writtenAt Sample.sharedSlot Sample.writesOnes) first.size contents := by
  refine ⟨_, Sample.collect_sharedSlot, ?_⟩
  have hinfo : Sample.matrixInfo ∈
      Sample.vectorStage.uniforms.values ++ Sample.matrixStage.uniforms.values := by decide
  have hslot : Sample.matrixInfo.slot ∉
      Sample.vectorStage.handleSlots ++ Sample.matrixStage.handleSlots := by decide
  exact uniform_buffer_fits_first Sample.collect_sharedSlot hinfo hslot

/-- A buffer may be too short: both stages are valid and everything is gathered, but the matrix of the
fragment stage, of sixty-four bytes, gets the sixteen that the vector of the vertex stage needs. -/
theorem uniform_buffer_too_short : ∃ resources contents,
    (Interface.ofSource Sample.vertexShader .vertex "v").toOption = some Sample.vectorStage ∧
    (Interface.ofSource Sample.matrixFragment .fragment "f").toOption = some Sample.matrixStage ∧
    Gpu.collect {}
        (Sample.writesOnes.foldl (fun device action => action.apply device) ({} : Gpu)).bound
        Sample.vectorStage Sample.matrixStage = .ok resources ∧
    Sample.matrixInfo ∈ Sample.matrixStage.uniforms.values ∧
    Sample.matrixInfo.slot ∉ Sample.vectorStage.handleSlots ++ Sample.matrixStage.handleSlots ∧
    resources.get? Sample.matrixInfo.slot = some (.uniform contents) ∧
    contents.length < Sample.matrixInfo.size := by
  obtain ⟨hvertex, hfragment⟩ := Sample.interfaces_sharedSlot
  exact ⟨_, Sample.ones.packed, hvertex, hfragment, Sample.collect_sharedSlot, by decide, by decide,
    rfl, by decide⟩

end FramePlan
