import FramePlan.Proofs.Device.Drawing

/-!
# Gathering what stages declare

The stages of a program are served slot by slot, and nothing but an empty unit can stand in the way. What
stages declare is gone through in a fixed order, the vertex stage first and textures before samplers, each
by name. The first one whose unit is empty is the one that is reported.

* `Gpu.collect_eq`: gathering is looking for what is missing, and putting everything in place if nothing is.
* `Gpu.get?_of_collect`: what is at a slot.
* `collect_is_exact`: when everything can be gathered, what is gathered, and what is reported missing.
-/

namespace FramePlan

open Shader (Interface UniformInfo)

instance : Std.LawfulEqOrd ResourceSlot where
  eq_of_compare := ResourceSlot.compare_eq_iff.1

/-! ## Textures and samplers of stages -/

/-- The unit that a slot is pointed at; it is unit zero if nothing has pointed the slot anywhere. -/
def BoundState.unitOf (bound : BoundState) (slot : ResourceSlot) : UInt32 :=
  (bound.samplerUnits.get? slot).getD 0

/-- The texture that a slot reaches. -/
def BoundState.reached? (bound : BoundState) (slot : ResourceSlot) : Option BoundTexture :=
  bound.units.get? (bound.unitOf slot)

/-- What a stage does with a texture that is bound: it reads its image or uses its sampler. -/
inductive TextureUse where
  | image
  | sampler
deriving DecidableEq

/-- A texture or a sampler that a stage declares. -/
structure DeclaredHandle where
  use : TextureUse
  name : String
  slot : ResourceSlot
deriving DecidableEq

/-- What a bound texture is to a stage. -/
def TextureUse.seen (features : GpuFeatures) (texture : BoundTexture) : TextureUse → BoundResource
  | .image => .texture texture.image (texture.sampleType features)
  | .sampler => .sampler texture.sampler.binding

/-- The textures of a stage by name, then its samplers by name. -/
def Shader.Interface.declaredHandles (interface : Interface) : List DeclaredHandle :=
  (interface.textures.entries.map fun entry => ⟨.image, entry.1, entry.2⟩) ++
    interface.samplers.entries.map fun entry => ⟨.sampler, entry.1, entry.2⟩

/-- What a declaration has put at a slot, if it is for this slot. -/
def DeclaredHandle.resourceAt? (features : GpuFeatures) (bound : BoundState) (slot : ResourceSlot)
    (handle : DeclaredHandle) : Option BoundResource :=
  if handle.slot = slot then (bound.reached? slot).map (handle.use.seen features) else none

/-- Whether nothing can be put at the slot of a declaration. -/
def BoundState.lacks (bound : BoundState) (handle : DeclaredHandle) : Bool :=
  (bound.reached? handle.slot).isNone

theorem BoundState.textureAt_eq (bound : BoundState) (name : String) (slot : ResourceSlot) :
    bound.textureAt name slot =
      match bound.reached? slot with
      | some texture => .ok texture
      | none => .error (.unboundResource (.resource name)) := rfl

namespace Gpu

variable {features : GpuFeatures} {bound : BoundState}

/-- Adds what the slot of a name reaches, seen in some way. -/
def addReached (seen : BoundTexture → BoundResource) (bound : BoundState) (resources : Resources)
    (entry : String × ResourceSlot) : Except DeviceError Resources := do
  let texture ← bound.textureAt entry.1 entry.2
  return resources.insert entry.2 (seen texture)

/-- Adds what a declaration reaches. -/
def addHandle (features : GpuFeatures) (bound : BoundState) (resources : Resources)
    (handle : DeclaredHandle) : Except DeviceError Resources :=
  addReached (handle.use.seen features) bound resources (handle.name, handle.slot)

/-- Puts what a declaration reaches at its slot. -/
def putHandle (features : GpuFeatures) (bound : BoundState) (resources : Resources)
    (handle : DeclaredHandle) : Resources :=
  match bound.reached? handle.slot with
  | some texture => resources.insert handle.slot (handle.use.seen features texture)
  | none => resources

/-- Declarations are added up to the first one for which there is nothing. -/
theorem foldlM_addHandle (handles : List DeclaredHandle) (resources : Resources) :
    handles.foldlM (addHandle features bound) resources =
      match handles.find? bound.lacks with
      | some handle => .error (.unboundResource (.resource handle.name))
      | none => .ok (handles.foldl (putHandle features bound) resources) := by
  induction handles generalizing resources with
  | nil => rfl
  | cons handle rest ih =>
    rw [List.foldlM_cons, List.find?_cons, List.foldl_cons, addHandle, addReached,
      BoundState.textureAt_eq, BoundState.lacks, putHandle]
    cases bound.reached? handle.slot with
    | none => rfl
    | some texture => exact ih _

theorem addStage_eq (resources : Resources) (interface : Interface) :
    addStage features bound resources interface =
      interface.declaredHandles.foldlM (addHandle features bound)
        (interface.uniforms.values.foldl (addUniform bound) resources) := by
  simp only [Interface.declaredHandles, List.foldlM_append, List.foldlM_map]
  rfl

/-- What a stage adds, whatever may be missing. -/
def putStage (features : GpuFeatures) (bound : BoundState) (resources : Resources)
    (interface : Interface) : Resources :=
  interface.declaredHandles.foldl (putHandle features bound)
    (interface.uniforms.values.foldl (addUniform bound) resources)

/-- Gathering fails for the first declaration of both stages for which there is nothing. -/
theorem collect_eq (vertex fragment : Interface) :
    collect features bound vertex fragment =
      match (vertex.declaredHandles ++ fragment.declaredHandles).find? bound.lacks with
      | some handle => .error (.unboundResource (.resource handle.name))
      | none => .ok (putStage features bound (putStage features bound .empty vertex) fragment) := by
  rw [collect, addStage_eq, foldlM_addHandle, List.find?_append]
  cases vertex.declaredHandles.find? bound.lacks with
  | some handle => rfl
  | none => exact (addStage_eq _ fragment).trans (foldlM_addHandle _ _)

/-- The last declaration for a slot decides what is there. -/
theorem get?_foldl_putHandle (handles : List DeclaredHandle) (resources : Resources)
    (slot : ResourceSlot) :
    (handles.foldl (putHandle features bound) resources).get? slot =
      (handles.filterMap (·.resourceAt? features bound slot)).getLast?.or (resources.get? slot) := by
  refine foldl_eq_getLast? (fun resources : Resources => resources.get? slot)
    (putHandle features bound) (fun resources handle _ => ?_) resources
  rw [putHandle, DeclaredHandle.resourceAt?]
  by_cases hslot : handle.slot = slot
  · rw [if_pos hslot, hslot]
    cases bound.reached? slot with
    | none => rfl
    | some texture => exact Table.get?_insert_self ..
  · rw [if_neg hslot]
    cases bound.reached? handle.slot with
    | none => rfl
    | some texture => exact (Table.get?_insert_eq_ite ..).trans (if_neg hslot)

/-- Of uniforms at one slot the first one is served, unless the slot is taken. -/
theorem get?_foldl_addUniform (infos : List UniformInfo) (resources : Resources)
    (slot : ResourceSlot) :
    (infos.foldl (addUniform bound) resources).get? slot =
      (resources.get? slot).or
        ((infos.find? (·.slot = slot)).map fun info => .uniform (bound.uniformContents info)) := by
  induction infos generalizing resources with
  | nil => exact (Option.or_none ..).symm
  | cons info rest ih =>
    rw [List.foldl_cons, ih, List.find?_cons]
    by_cases hslot : info.slot = slot
    · subst hslot
      rw [decide_eq_true rfl, addUniform, Table.contains]
      cases htaken : resources.get? info.slot with
      | none => simp
      | some resource => simp [htaken]
    · have hkept : (addUniform bound resources info).get? slot = resources.get? slot := by
        unfold addUniform
        split
        · rfl
        · rw [Table.get?_insert_eq_ite, if_neg hslot]
      rw [decide_eq_false hslot, hkept]

theorem get?_putStage (resources : Resources) (interface : Interface) (slot : ResourceSlot) :
    (putStage features bound resources interface).get? slot =
      (interface.declaredHandles.filterMap (·.resourceAt? features bound slot)).getLast?.or
        ((resources.get? slot).or ((interface.uniforms.values.find? (·.slot = slot)).map
          fun info => .uniform (bound.uniformContents info))) := by
  rw [putStage, get?_foldl_putHandle, get?_foldl_addUniform]

/-- At a slot is what the last declaration for it has put there, and the buffer of the first uniform if
there is none. -/
theorem get?_of_collect {vertex fragment : Interface} {resources : Resources}
    (hok : collect features bound vertex fragment = .ok resources) (slot : ResourceSlot) :
    resources.get? slot =
      ((vertex.declaredHandles ++ fragment.declaredHandles).filterMap
        (·.resourceAt? features bound slot)).getLast?.or
        (((vertex.uniforms.values ++ fragment.uniforms.values).find? (·.slot = slot)).map
          fun info => .uniform (bound.uniformContents info)) := by
  rw [collect_eq] at hok
  split at hok
  · cases hok
  · cases hok
    rw [get?_putStage, get?_putStage, Table.get?_empty, Option.none_or, List.filterMap_append,
      List.getLast?_append, List.find?_append, Option.map_or, Option.or_assoc, Option.or_assoc]

/-! ## What both stages get -/

theorem exists_collect_eq_ok_iff {vertex fragment : Interface} :
    (∃ resources, collect features bound vertex fragment = .ok resources) ↔
      ∀ handle ∈ vertex.declaredHandles ++ fragment.declaredHandles,
        (bound.reached? handle.slot).isSome = true := by
  have hnone : (vertex.declaredHandles ++ fragment.declaredHandles).find? bound.lacks = none ↔
      ∀ handle ∈ vertex.declaredHandles ++ fragment.declaredHandles,
        (bound.reached? handle.slot).isSome = true := by
    simp only [List.find?_eq_none, BoundState.lacks, Option.isNone_iff_eq_none,
      Option.isSome_iff_ne_none, ne_eq]
  rw [collect_eq, ← hnone]
  cases (vertex.declaredHandles ++ fragment.declaredHandles).find? bound.lacks with
  | some handle => simp
  | none => simp

theorem exists_first_of_collect_eq_error {vertex fragment : Interface} {error : DeviceError}
    (herror : collect features bound vertex fragment = .error error) :
    ∃ before handle after,
      vertex.declaredHandles ++ fragment.declaredHandles = before ++ handle :: after ∧
      (∀ other ∈ before, (bound.reached? other.slot).isSome = true) ∧
      bound.reached? handle.slot = none ∧
      error = .unboundResource (.resource handle.name) := by
  rw [collect_eq] at herror
  split at herror
  · next handle hfind =>
    cases herror
    obtain ⟨hlacks, before, after, hsplit, hbefore⟩ := List.find?_eq_some_iff_append.1 hfind
    refine ⟨before, handle, after, hsplit, fun other hother => ?_, Option.isNone_iff_eq_none.1 hlacks,
      rfl⟩
    have hheld := hbefore other hother
    rw [BoundState.lacks, Option.not_isNone] at hheld
    exact hheld
  · cases herror

variable {vertex fragment : Interface} {resources : Resources}

/-- A declaration puts something at its slot and nowhere else. -/
theorem filterMap_resourceAt?_eq_nil {slot : ResourceSlot} {handles : List DeclaredHandle}
    (hother : ∀ handle ∈ handles, handle.slot ≠ slot) :
    handles.filterMap (·.resourceAt? features bound slot) = [] := by
  rw [List.filterMap_eq_nil_iff]
  intro handle hmem
  exact if_neg (hother handle hmem)

theorem get?_of_collect_of_last (hok : collect features bound vertex fragment = .ok resources)
    {before after : List DeclaredHandle} {handle : DeclaredHandle}
    (hsplit : vertex.declaredHandles ++ fragment.declaredHandles = before ++ handle :: after)
    (hafter : ∀ other ∈ after, other.slot ≠ handle.slot) :
    ∃ texture, bound.reached? handle.slot = some texture ∧
      resources.get? handle.slot = some (handle.use.seen features texture) := by
  have hheld : (bound.reached? handle.slot).isSome = true :=
    exists_collect_eq_ok_iff.1 ⟨_, hok⟩ handle (by simp [hsplit])
  obtain ⟨texture, htexture⟩ := Option.isSome_iff_exists.1 hheld
  have hown : handle.resourceAt? features bound handle.slot =
      some (handle.use.seen features texture) := by
    rw [DeclaredHandle.resourceAt?, if_pos rfl, htexture, Option.map_some]
  refine ⟨texture, htexture, ?_⟩
  rw [get?_of_collect hok, hsplit, List.filterMap_append, List.filterMap_cons, hown,
    filterMap_resourceAt?_eq_nil hafter, List.getLast?_append]
  rfl

/-- Where no declaration is for a slot, a uniform is served. -/
theorem get?_of_collect_of_ne (hok : collect features bound vertex fragment = .ok resources)
    {slot : ResourceSlot}
    (hother : ∀ handle ∈ vertex.declaredHandles ++ fragment.declaredHandles, handle.slot ≠ slot) :
    resources.get? slot =
      ((vertex.uniforms.values ++ fragment.uniforms.values).find? (·.slot = slot)).map fun info =>
        .uniform (bound.uniformContents info) := by
  rw [get?_of_collect hok, filterMap_resourceAt?_eq_nil hother, List.getLast?_nil, Option.none_or]

/-- The slots are those of uniforms and of declarations. -/
theorem contains_of_collect (hok : collect features bound vertex fragment = .ok resources)
    (slot : ResourceSlot) :
    resources.contains slot = true ↔
      (∃ info ∈ vertex.uniforms.values ++ fragment.uniforms.values, info.slot = slot) ∨
        ∃ handle ∈ vertex.declaredHandles ++ fragment.declaredHandles, handle.slot = slot := by
  by_cases hdeclared :
      ∃ handle ∈ vertex.declaredHandles ++ fragment.declaredHandles, handle.slot = slot
  · obtain ⟨handle, hmem, hslot⟩ := hdeclared
    obtain ⟨texture, htexture⟩ :=
      Option.isSome_iff_exists.1 (exists_collect_eq_ok_iff.1 ⟨_, hok⟩ handle hmem)
    have hown : handle.resourceAt? features bound slot = some (handle.use.seen features texture) := by
      rw [DeclaredHandle.resourceAt?, if_pos hslot, ← hslot, htexture, Option.map_some]
    have hput := List.ne_nil_of_mem (List.mem_filterMap.2 ⟨handle, hmem, hown⟩)
    rw [Table.contains, get?_of_collect hok, Option.isSome_or, List.getLast?_isSome.2 hput,
      Bool.true_or]
    exact iff_of_true rfl (.inr ⟨handle, hmem, hslot⟩)
  · have hother : ∀ handle ∈ vertex.declaredHandles ++ fragment.declaredHandles,
        handle.slot ≠ slot := fun handle hmem hslot => hdeclared ⟨handle, hmem, hslot⟩
    rw [Table.contains, get?_of_collect_of_ne hok hother, Option.isSome_map, List.find?_isSome,
      or_iff_left hdeclared]
    simp only [decide_eq_true_eq]

end Gpu

/-! ## Units -/

/-- The unit that an action points a slot at. -/
def Action.unitAt? {handles : Handles} (slot : ResourceSlot) : Action handles → Option UInt32
  | .setSamplerUniform target textureUnit =>
    if target.texture = slot ∨ target.sampler = some slot then some textureUnit else none
  | _ => none

/-- The texture that an action puts into a unit. -/
def Action.heldAt? (textureUnit : UInt32) : Action Gpu.handles → Option BoundTexture
  | .setTexture other image sampler => if other = textureUnit then some ⟨image, sampler⟩ else none
  | _ => none

namespace Gpu

/-- The unit of a slot after some actions: the one that it was pointed at last, by them or before, and
unit zero if it never was. -/
def unitAfter (gpu : Gpu) (actions : List (Action Gpu.handles)) (slot : ResourceSlot) : UInt32 :=
  ((actions.filterMap (Action.unitAt? slot)).getLast?.or (gpu.bound.samplerUnits.get? slot)).getD 0

/-- What a unit holds after some actions: the texture that was put into it last, by them or before. -/
def heldAfter (gpu : Gpu) (actions : List (Action Gpu.handles)) (textureUnit : UInt32) :
    Option BoundTexture :=
  (actions.filterMap (Action.heldAt? textureUnit)).getLast?.or (gpu.bound.units.get? textureUnit)

theorem get?_samplerUnits_setSamplerUniform (gpu : Gpu) (target : SamplerSlot) (textureUnit : UInt32)
    (slot : ResourceSlot) :
    (setSamplerUniform target textureUnit gpu).bound.samplerUnits.get? slot =
      if target.texture = slot ∨ target.sampler = some slot then some textureUnit
      else gpu.bound.samplerUnits.get? slot := by
  obtain ⟨texture, sampler⟩ := target
  cases sampler with
  | none =>
    refine (Table.get?_insert_eq_ite gpu.bound.samplerUnits texture slot textureUnit).trans ?_
    simp
  | some sampler =>
    refine (Table.get?_insert_eq_ite (gpu.bound.samplerUnits.insert texture textureUnit) sampler slot
      textureUnit).trans ?_
    rw [Table.get?_insert_eq_ite]
    by_cases hsampler : sampler = slot
    · simp [hsampler]
    · simp [hsampler]

theorem reached?_foldl_apply (gpu : Gpu) (actions : List (Action Gpu.handles)) (slot : ResourceSlot) :
    (actions.foldl (fun device action => action.apply device) gpu).bound.reached? slot =
      gpu.heldAfter actions (gpu.unitAfter actions slot) := by
  have hpointed : (actions.foldl (fun device action => action.apply device)
      gpu).bound.samplerUnits.get? slot =
        (actions.filterMap (Action.unitAt? slot)).getLast?.or (gpu.bound.samplerUnits.get? slot) := by
    refine foldl_eq_getLast? (fun gpu : Gpu => gpu.bound.samplerUnits.get? slot)
      (fun gpu (action : Action Gpu.handles) => action.apply gpu) (fun gpu action _ => ?_) gpu
    cases action with
    | setSamplerUniform target textureUnit =>
      refine (get?_samplerUnits_setSamplerUniform gpu target textureUnit slot).trans ?_
      rw [Action.unitAt?]
      split <;> rfl
    | _ => rfl
  have hheld (textureUnit : UInt32) : (actions.foldl (fun device action => action.apply device)
      gpu).bound.units.get? textureUnit = gpu.heldAfter actions textureUnit := by
    refine foldl_eq_getLast? (fun gpu : Gpu => gpu.bound.units.get? textureUnit)
      (fun gpu (action : Action Gpu.handles) => action.apply gpu) (fun gpu action _ => ?_) gpu
    cases action with
    | setTexture other image sampler =>
      refine (Table.get?_insert_eq_ite gpu.bound.units other textureUnit ⟨image, sampler⟩).trans ?_
      rw [Action.heldAt?]
      split <;> rfl
    | _ => rfl
  rw [BoundState.reached?, BoundState.unitOf, hpointed, hheld, unitAfter]

end Gpu

/-! ## What is gathered -/

/-- After any actions the resources of two stages can be gathered just when every texture and every
sampler that they declare has a texture in the unit of its slot. They are gathered at the slots of
uniforms, textures and samplers and nowhere else: where a texture or a sampler has the slot, the last one
in order, with what the unit of the slot holds; elsewhere the buffer of the first uniform. Otherwise the
first one in order that has nothing in its unit is reported. -/
theorem collect_is_exact (features : GpuFeatures) (gpu : Gpu) (actions : List (Action Gpu.handles))
    (vertex fragment : Interface) :
    let bound := (actions.foldl (fun device action => action.apply device) gpu).bound
    let declared := vertex.declaredHandles ++ fragment.declaredHandles
    let uniforms := vertex.uniforms.values ++ fragment.uniforms.values
    let held := fun handle : DeclaredHandle =>
      gpu.heldAfter actions (gpu.unitAfter actions handle.slot)
    ((∃ resources, Gpu.collect features bound vertex fragment = .ok resources) ↔
      ∀ handle ∈ declared, (held handle).isSome = true) ∧
    (∀ resources, Gpu.collect features bound vertex fragment = .ok resources →
      (∀ slot, resources.contains slot = true ↔
        (∃ info ∈ uniforms, info.slot = slot) ∨ ∃ handle ∈ declared, handle.slot = slot) ∧
      (∀ before handle after, declared = before ++ handle :: after →
        (∀ other ∈ after, other.slot ≠ handle.slot) →
        ∃ texture, held handle = some texture ∧
          resources.get? handle.slot = some (handle.use.seen features texture)) ∧
      ∀ slot, (∀ handle ∈ declared, handle.slot ≠ slot) →
        resources.get? slot = (uniforms.find? (·.slot = slot)).map fun info =>
          .uniform (bound.uniformContents info)) ∧
    ∀ error, Gpu.collect features bound vertex fragment = .error error →
      ∃ before handle after, declared = before ++ handle :: after ∧
        (∀ other ∈ before, (held other).isSome = true) ∧ held handle = none ∧
        error = .unboundResource (.resource handle.name) := by
  intro bound declared uniforms held
  have hheld (handle : DeclaredHandle) : bound.reached? handle.slot = held handle :=
    gpu.reached?_foldl_apply actions handle.slot
  have hiff : (∃ resources, Gpu.collect features bound vertex fragment = .ok resources) ↔
      ∀ handle ∈ declared, (held handle).isSome = true := by
    simp only [← hheld]
    exact Gpu.exists_collect_eq_ok_iff
  refine ⟨hiff, fun resources hok => ⟨Gpu.contains_of_collect hok, ?_, ?_⟩, fun error herror => ?_⟩
  · intro before handle after hsplit hafter
    rw [← hheld]
    exact Gpu.get?_of_collect_of_last hok hsplit hafter
  · exact fun slot hother => Gpu.get?_of_collect_of_ne hok hother
  · simp only [← hheld]
    exact Gpu.exists_first_of_collect_eq_error herror

namespace Sample

/-- A texture that has a uniform at its slot, and the sampler for it. -/
def litVertex : Interface where
  uniforms := .ofList [("a", ⟨⟨0, 1⟩, 16, some vector⟩)]
  textures := .ofList [("lit", ⟨0, 1⟩)]
  samplers := .ofList [("litSampler", ⟨0, 2⟩)]

/-- A texture at the slot where the vertex stage has a sampler. -/
def litFragment : Interface where
  textures := .ofList [("glow", ⟨0, 2⟩)]

def litTexture : BoundTexture := ⟨⟨7, 4, 4, 1, .color⟩, ⟨.nonFiltering⟩⟩

/-- Both slots are pointed at a unit, and a texture is put into it. -/
def litActions : List (Action Gpu.handles) :=
  [.setSamplerUniform ⟨⟨0, 1⟩, some ⟨0, 2⟩⟩ 5, .setTexture 5 litTexture.image litTexture.sampler]

end Sample

/-- Both slots of the sample are served with the texture, the uniform and the sampler notwithstanding.
Without it the texture of the vertex stage is the first one that is missing. -/
theorem collect_is_exact_lit :
    (∃ resources,
      Gpu.collect {} (Sample.litActions.foldl (fun device action => action.apply device)
          ({} : Gpu)).bound Sample.litVertex Sample.litFragment = .ok resources ∧
      resources.contains ⟨0, 0⟩ = false ∧
      resources.get? ⟨0, 1⟩ = some (.texture Sample.litTexture.image (.float false)) ∧
      resources.get? ⟨0, 2⟩ = some (.texture Sample.litTexture.image (.float false))) ∧
    Gpu.collect {} ({} : Gpu).bound Sample.litVertex Sample.litFragment =
      .error (.unboundResource (.resource "lit")) := by
  constructor
  · obtain ⟨hiff, hgathered, _⟩ :=
      collect_is_exact {} {} Sample.litActions Sample.litVertex Sample.litFragment
    obtain ⟨resources, hok⟩ := hiff.2 (by decide)
    obtain ⟨hslots, hlast, _⟩ := hgathered resources hok
    refine ⟨resources, hok, ?_, ?_, ?_⟩
    · exact Bool.eq_false_iff.2 ((hslots ⟨0, 0⟩).not.2 (by decide))
    · obtain ⟨texture, hheld, hget⟩ :=
        hlast [] ⟨.image, "lit", ⟨0, 1⟩⟩ _ rfl (by decide)
      cases hheld
      exact hget
    · obtain ⟨texture, hheld, hget⟩ :=
        hlast [_, _] ⟨.image, "glow", ⟨0, 2⟩⟩ [] rfl (by decide)
      cases hheld
      exact hget
  · obtain ⟨hiff, _, hmissing⟩ := collect_is_exact {} {} [] Sample.litVertex Sample.litFragment
    cases hcollect : Gpu.collect {} ({} : Gpu).bound Sample.litVertex Sample.litFragment with
    | ok resources =>
      have hheld := hiff.1 ⟨resources, hcollect⟩ ⟨.image, "lit", ⟨0, 1⟩⟩ (by decide)
      exact absurd hheld (by decide)
    | error error =>
      obtain ⟨before, handle, after, hsplit, hbefore, _, rfl⟩ := hmissing error hcollect
      cases before with
      | nil =>
        obtain ⟨rfl, _⟩ := List.cons.inj hsplit
        rfl
      | cons first rest =>
        obtain ⟨rfl, _⟩ := List.cons.inj hsplit
        exact absurd (hbefore _ List.mem_cons_self) (by decide)

end FramePlan
