import FramePlan.Proofs.Table
import FramePlan.Resources.Compile

/-!
# Slot maps

A program keeps one slot for each name that it declares and its stages expose. The stages are asked in
turn, so the vertex stage decides wherever it has the name, and a uniform whose type it declares
differently has no slot at all.

* `get?_uniformSlots_eq_some_iff`, `get?_samplerSlots_eq_some_iff`, `get?_streamSlots_eq_some_iff`:
  which names have a slot, and which one.
-/

namespace FramePlan

open Shader (Interface UniformInfo InputInfo)

theorem ofStages_eq_some_iff {α : Type} {lookup : Interface → Option α}
    {vertex fragment : Interface} {found : α} :
    ofStages lookup vertex fragment = some found ↔
      lookup vertex = some found ∨ lookup vertex = none ∧ lookup fragment = some found :=
  Option.or_eq_some_iff

theorem get?_uniformSlots_eq_some_iff {declared : Table String InputType}
    {vertex fragment : Interface} {name : String} {slot : UniformSlot} :
    (uniformSlots declared vertex fragment).get? name = some slot ↔
      declared.get? name = some slot.type ∧
        ∃ info, ofStages (·.uniforms.get? name) vertex fragment = some info ∧
          info.slot = slot.slot ∧ info.type = some slot.type.written := by
  obtain ⟨place, type⟩ := slot
  rw [uniformSlots, Table.get?_filterMap, Option.bind_eq_some_iff]
  constructor
  · rintro ⟨found, hdeclared, hslot⟩
    split at hslot
    · next info hinfo =>
      split at hslot
      · next htype =>
        cases hslot
        exact ⟨hdeclared, info, hinfo, rfl, htype⟩
      · cases hslot
    · cases hslot
  · rintro ⟨hdeclared, info, hinfo, hplace, htype⟩
    refine ⟨type, hdeclared, ?_⟩
    simp only [hinfo, htype, hplace, if_true]

theorem get?_samplerSlots_eq_some_iff {declared : Table String InputType}
    {vertex fragment : Interface} {name : String} {slot : SamplerSlot} :
    (samplerSlots declared vertex fragment).get? name = some slot ↔
      (declared.get? name).isSome = true ∧
        ofStages (·.textures.get? name) vertex fragment = some slot.texture ∧
        ofStages (·.samplers.get? (name ++ "_sampler")) vertex fragment = slot.sampler := by
  obtain ⟨texture, sampler⟩ := slot
  rw [samplerSlots, Table.get?_filterMap, Option.bind_eq_some_iff, Option.isSome_iff_exists]
  constructor
  · rintro ⟨type, hdeclared, hslot⟩
    obtain ⟨found, htexture, hslot⟩ := Option.map_eq_some_iff.1 hslot
    cases hslot
    exact ⟨⟨type, hdeclared⟩, htexture, rfl⟩
  · rintro ⟨⟨type, hdeclared⟩, htexture, rfl⟩
    exact ⟨type, hdeclared, by rw [htexture, Option.map_some]⟩

theorem get?_streamSlots_eq_some_iff {declared : Table String Parameter} {vertex : Interface}
    {name : String} {slot : StreamSlot} :
    (streamSlots declared vertex).get? name = some slot ↔
      declared.get? name = some ⟨slot.stream, slot.type⟩ ∧
        ∃ format, vertex.inputs.get? name = some ⟨slot.location, some format⟩ ∧
          VertexFormat.ofInputType? slot.type = some format := by
  obtain ⟨stream, location, type⟩ := slot
  rw [streamSlots, Table.get?_filterMap, Option.bind_eq_some_iff]
  constructor
  · rintro ⟨parameter, hdeclared, hslot⟩
    split at hslot
    · next input hinput =>
      split at hslot
      · next hfits =>
        cases hslot
        obtain ⟨format, hformat⟩ := Option.isSome_iff_exists.1 hfits.1
        refine ⟨hdeclared, format, ?_, hfits.2.trans hformat⟩
        rw [hinput, ← hformat]
      · cases hslot
    · cases hslot
  · rintro ⟨hdeclared, format, hinput, hformat⟩
    refine ⟨⟨stream, type⟩, hdeclared, ?_⟩
    simp only [hinput, hformat, Option.isSome_some, and_self, if_true]

/-- Where exposed inputs arrive at different locations, so do the streams of a program. -/
theorem nodup_location_streamSlots {declared : Table String Parameter} {vertex : Interface}
    (hdistinct : ∀ {name other : String} {info otherInfo : InputInfo},
      vertex.inputs.get? name = some info → vertex.inputs.get? other = some otherInfo →
        info.location = otherInfo.location → name = other) :
    ((streamSlots declared vertex).values.map StreamSlot.location).Nodup := by
  rw [Table.values, List.map_map]
  refine List.pairwise_map.2 ((streamSlots declared vertex).ascending.imp_of_mem ?_)
  intro first second hfirst hsecond hlt hlocation
  obtain ⟨_, _, hget, _⟩ := get?_streamSlots_eq_some_iff.1 (Table.get?_eq_some_iff.2 hfirst)
  obtain ⟨_, _, hother, _⟩ := get?_streamSlots_eq_some_iff.1 (Table.get?_eq_some_iff.2 hsecond)
  have hname : first.1 = second.1 := hdistinct hget hother hlocation
  rw [hname, Std.compare_self] at hlt
  cases hlt

end FramePlan
