import FramePlan.Engine
import FramePlan.Proofs.Attempt

/-!
# What a compiled pipeline is made of

A pipeline that has been compiled was found valid, and each of its resources comes from the
description at the same index. So an index that validation has accepted leads to a compiled resource.

* `CompiledPipeline.isCompiled_of_compile_eq_ok`: what a successful compilation leaves behind.
* `CompiledPipeline.IsCompiled.index_lt`: the reference of a command is in range.
* `CompiledPipeline.IsCompiled.exists_madeFrom`: the program at an index is made from its description.
-/

namespace FramePlan

variable {State : Type} {handles : Handles}

namespace Pipeline

theorem index_lt_of_mem_references {pipeline : Pipeline} (hvalid : pipeline.validate = .ok ())
    {reference : Reference} (hmem : reference ∈ pipeline.references) :
    reference.index < pipeline.count reference.kind := by
  unfold validate at hvalid
  cases hfound : pipeline.references.findSome? pipeline.dangling? with
  | some dangling =>
    rw [hfound] at hvalid
    cases hvalid
  | none =>
    have hnone := List.findSome?_eq_none_iff.1 hfound reference hmem
    by_contra hindex
    simp [dangling?, hindex] at hnone

theorem mem_references_of_mem_commands {pipeline : Pipeline} {command : Command}
    (hmem : command ∈ pipeline.commands) {kind : ResourceKind} {index : Nat}
    (hreference : command.reference? = some (kind, index)) :
    ∃ place, ⟨.command place, kind, index⟩ ∈ pipeline.references := by
  obtain ⟨place, hplace, rfl⟩ := List.mem_iff_getElem.1 hmem
  refine ⟨place, List.mem_append_right _ (List.mem_filterMap.2 ?_)⟩
  refine ⟨(pipeline.commands[place], place), ?_, by simp [hreference]⟩
  exact List.mk_mem_zipIdx_iff_getElem?.2 (List.getElem?_eq_getElem hplace)

theorem mem_references_of_mem_targets {pipeline : Pipeline} {target : RenderTarget}
    (htarget : target ∈ pipeline.targets) {item : TargetItem} (hitem : item ∈ target.items)
    {index : Nat} (hindex : item.textureIndex? = some index) :
    ∃ place, ⟨place, .texture, index⟩ ∈ pipeline.references := by
  obtain ⟨place, hplace, rfl⟩ := List.mem_iff_getElem.1 htarget
  obtain ⟨inner, hinner, rfl⟩ := List.mem_iff_getElem.1 hitem
  refine ⟨.targetItem place inner, List.mem_append_left _ (List.mem_append_left _
    (List.mem_append_left _ (List.mem_flatMap.2 ?_)))⟩
  refine ⟨(pipeline.targets[place], place), ?_, List.mem_filterMap.2
    ⟨(pipeline.targets[place].items[inner], inner), ?_, by simp [hindex]⟩⟩
  · exact List.mk_mem_zipIdx_iff_getElem?.2 (List.getElem?_eq_getElem hplace)
  · exact List.mk_mem_zipIdx_iff_getElem?.2 (List.getElem?_eq_getElem hinner)

theorem mem_references_of_mem_slots {pipeline : Pipeline} {slot : Slot}
    (hslot : slot ∈ pipeline.slots) {index : Nat} (hindex : index ∈ slot.programs) :
    ∃ place, ⟨place, .program, index⟩ ∈ pipeline.references := by
  obtain ⟨place, hplace, rfl⟩ := List.mem_iff_getElem.1 hslot
  refine ⟨.slot place, List.mem_append_left _ (List.mem_append_left _
    (List.mem_append_right _ (List.mem_flatMap.2 ?_)))⟩
  refine ⟨(pipeline.slots[place], place), ?_, List.mem_map_of_mem hindex⟩
  exact List.mk_mem_zipIdx_iff_getElem?.2 (List.getElem?_eq_getElem hplace)

theorem mem_references_of_mem_streams {pipeline : Pipeline} {stream : StreamData}
    (hstream : stream ∈ pipeline.streams) {index : Nat} (hindex : index ∈ stream.programs) :
    ∃ place, ⟨place, .program, index⟩ ∈ pipeline.references := by
  obtain ⟨place, hplace, rfl⟩ := List.mem_iff_getElem.1 hstream
  refine ⟨.stream place, List.mem_append_left _
    (List.mem_append_right _ (List.mem_flatMap.2 ?_))⟩
  refine ⟨(pipeline.streams[place], place), ?_, List.mem_map_of_mem hindex⟩
  exact List.mk_mem_zipIdx_iff_getElem?.2 (List.getElem?_eq_getElem hplace)

theorem index_lt_of_mem_targets {pipeline : Pipeline} (hvalid : pipeline.validate = .ok ())
    {target : RenderTarget} (htarget : target ∈ pipeline.targets) {item : TargetItem}
    (hitem : item ∈ target.items) {index : Nat} (hindex : item.textureIndex? = some index) :
    index < pipeline.textures.length := by
  obtain ⟨place, hplace⟩ := mem_references_of_mem_targets htarget hitem hindex
  exact index_lt_of_mem_references hvalid hplace

theorem index_lt_of_mem_commands {pipeline : Pipeline} (hvalid : pipeline.validate = .ok ())
    {command : Command} (hmem : command ∈ pipeline.commands) {kind : ResourceKind} {index : Nat}
    (hreference : command.reference? = some (kind, index)) : index < pipeline.count kind := by
  obtain ⟨place, hplace⟩ := mem_references_of_mem_commands hmem hreference
  exact index_lt_of_mem_references hvalid hplace

end Pipeline

/-- Resources whose every element a device made from the element of the description at its index. -/
structure Resources.IsCompiled (State : Type) [Device State handles] (pipeline : Pipeline)
    (config : Config) (resources : Resources handles) : Prop where
  textures : List.Forall₂ (fun descriptor texture => ∃ before after : State,
    compileTexture descriptor before = (.ok texture, after)) pipeline.textures resources.textures
  targets : List.Forall₂ (fun descriptor target => ∃ before after : State,
    compileTarget resources.textures resources.backBuffer descriptor before =
      (.ok target, after)) pipeline.targets resources.targets
  programs : List.Forall₂ (fun descriptor program => ∃ before after : State,
    compileProgram config descriptor before = (.ok program, after))
      pipeline.programs resources.programs
  streams : List.Forall₂ (fun descriptor data => ∃ primitive, ∃ before after : State,
    compileStreams primitive descriptor before = (.ok data, after))
      pipeline.streams resources.streams

/-- What is related to the elements of a list, one by one, is related at every index. -/
theorem exists_of_forall₂_getElem? {α β : Type} {related : α → β → Prop} {items : List α}
    {results : List β} (hall : List.Forall₂ related items results) {index : Nat} {result : β}
    (hget : results[index]? = some result) :
    ∃ item, items[index]? = some item ∧ related item result := by
  induction hall generalizing index with
  | nil => cases hget
  | cons hhead _ ih =>
    cases index with
    | zero =>
      cases hget
      exact ⟨_, rfl, hhead⟩
    | succ index => exact ih hget

/-- What is related to the elements of a list, one by one, is related to one of them each. -/
theorem exists_of_mem_forall₂ {α β : Type} {related : α → β → Prop} {items : List α}
    {results : List β} (hall : List.Forall₂ related items results) {result : β}
    (hmem : result ∈ results) : ∃ item ∈ items, related item result := by
  obtain ⟨index, hget⟩ := List.mem_iff_getElem?.1 hmem
  obtain ⟨item, hitem, hrelated⟩ := exists_of_forall₂_getElem? hall hget
  exact ⟨item, List.mem_of_getElem? hitem, hrelated⟩

/-- A program with the slots of what its two stages expose, as a device has compiled them. -/
structure CompiledProgram.MadeFrom (State : Type) [Device State handles] (config : Config)
    (descriptor : Program) (vertex fragment : CompiledShader handles.Shader)
    (program : CompiledProgram handles) : Prop where
  vertex_compiled : ∃ before after : State,
    Device.compileShader .vertex descriptor.vertexShader config.vertexEntryPoint
      config.vertexProfile before = (.ok vertex, after)
  fragment_compiled : ∃ before after : State,
    Device.compileShader .fragment descriptor.fragmentShader config.fragmentEntryPoint
      config.fragmentProfile before = (.ok fragment, after)
  layout_created : ∃ before after : State,
    Device.createInputLayout vertex.handle (inputAttributes vertex.interface) before =
      (.ok program.inputLayout, after)
  handles_eq : program.vertex = vertex.handle ∧ program.fragment = fragment.handle
  uniforms : program.uniforms =
    uniformSlots descriptor.uniforms vertex.interface fragment.interface
  samplers : program.samplers =
    samplerSlots descriptor.textures vertex.interface fragment.interface
  streams : program.streams = streamSlots descriptor.streams vertex.interface

/-- A pipeline that a device has compiled from a valid description. -/
structure CompiledPipeline.IsCompiled (State : Type) [Device State handles] (pipeline : Pipeline)
    (config : Config) (compiled : CompiledPipeline handles) : Prop where
  valid : pipeline.validate = .ok ()
  description : compiled.description = pipeline
  resources : compiled.resources.IsCompiled State pipeline config
  config : compiled.config = config

section Inversion

variable [Device State handles]

/-- Attempts at the elements of a list that know their index give a result for every element. Each is
made in a state that is seen as the first one, if they keep this view. -/
theorem Attempt.forall₂_of_mapM_zipIdx_of_keeps {Error α β γ : Type} {view : State → γ}
    {attempt : α × Nat → Attempt State Error β} {made : α → β → Prop} {items : List α}
    {results : List β} {state last : State} (hkeeps : ∀ entry, Keeps view (attempt entry))
    (hok : items.zipIdx.mapM attempt state = (.ok results, last))
    (hmade : ∀ item index result before after, view before = view state →
      attempt (item, index) before = (.ok result, after) → made item result) :
    List.Forall₂ made items results := by
  have hall := forall₂_of_mapM_of_keeps hkeeps hok
  rw [← List.zipIdx_map_fst 0 items, List.forall₂_map_left_iff]
  exact hall.imp fun entry result ⟨before, after, hview, hentry⟩ =>
    hmade entry.1 entry.2 result before after hview hentry

theorem Attempt.forall₂_of_mapM_zipIdx_eq_ok {Error α β : Type}
    {attempt : α × Nat → Attempt State Error β} {made : α → β → Prop} {items : List α}
    {results : List β} {state last : State}
    (hok : items.zipIdx.mapM attempt state = (.ok results, last))
    (hmade : ∀ item index result before after,
      attempt (item, index) before = (.ok result, after) → made item result) :
    List.Forall₂ made items results := by
  have hnothing (entry : α × Nat) : Keeps (fun _ => ()) (attempt entry) := fun _ => rfl
  exact forall₂_of_mapM_zipIdx_of_keeps hnothing hok fun item index result before after _ =>
    hmade item index result before after

theorem compileProgram_of_compileProgramAt {config : Config} {descriptor : Program} {index : Nat}
    {program : CompiledProgram handles} {before after : State}
    (hok : compileProgramAt config descriptor index before = (.ok program, after)) :
    compileProgram config descriptor before = (.ok program, after) := by
  unfold compileProgramAt at hok
  split at hok
  · exact absurd hok Attempt.throw_ne_ok
  · exact Attempt.adapt_eq_ok.1 hok

theorem CompiledProgram.exists_madeFrom {config : Config} {descriptor : Program}
    {program : CompiledProgram handles} {before after : State}
    (hok : compileProgram config descriptor before = (.ok program, after)) :
    ∃ vertex fragment, program.MadeFrom State config descriptor vertex fragment := by
  obtain ⟨vertex, afterVertex, hvertex, hok⟩ := Attempt.bind_eq_ok.1 hok
  obtain ⟨fragment, afterFragment, hfragment, hok⟩ := Attempt.bind_eq_ok.1 hok
  obtain ⟨layout, afterLayout, hlayout, hok⟩ := Attempt.bind_eq_ok.1 hok
  cases hok
  exact ⟨vertex, fragment, ⟨_, _, hvertex⟩, ⟨_, _, hfragment⟩, ⟨_, _, hlayout⟩, ⟨rfl, rfl⟩,
    rfl, rfl, rfl⟩

theorem compileStreams_of_compileStreamsAt {descriptor : StreamData} {index : Nat}
    {data : CompiledStreams handles} {before after : State}
    (hok : compileStreamsAt descriptor index before = (.ok data, after)) :
    ∃ primitive, compileStreams primitive descriptor before = (.ok data, after) := by
  unfold compileStreamsAt at hok
  cases hprimitive : descriptor.primitive.primitive? with
  | none =>
    rw [hprimitive] at hok
    exact absurd hok Attempt.throw_ne_ok
  | some primitive =>
    rw [hprimitive] at hok
    exact ⟨primitive, Attempt.adapt_eq_ok.1 hok⟩

theorem Resources.isCompiled_of_compile_eq_ok {pipeline : Pipeline} {width height : UInt32}
    {config : Config} {resources : Resources handles} {state last : State}
    (hok : Resources.compile pipeline width height config state = (.ok resources, last)) :
    resources.IsCompiled State pipeline config := by
  unfold Resources.compile at hok
  obtain ⟨backBuffer, afterBackBuffer, _, hok⟩ := Attempt.bind_eq_ok.1 hok
  obtain ⟨textures, afterTextures, htextures, hok⟩ := Attempt.bind_eq_ok.1 hok
  obtain ⟨targets, afterTargets, htargets, hok⟩ := Attempt.bind_eq_ok.1 hok
  obtain ⟨programs, afterPrograms, hprograms, hok⟩ := Attempt.bind_eq_ok.1 hok
  obtain ⟨streams, afterStreams, hstreams, hok⟩ := Attempt.bind_eq_ok.1 hok
  cases hok
  constructor
  · exact Attempt.forall₂_of_mapM_zipIdx_eq_ok htextures fun _ _ _ before after h =>
      ⟨before, after, Attempt.adapt_eq_ok.1 h⟩
  · exact Attempt.forall₂_of_mapM_zipIdx_eq_ok htargets fun _ _ _ before after h =>
      ⟨before, after, Attempt.adapt_eq_ok.1 h⟩
  · exact Attempt.forall₂_of_mapM_zipIdx_eq_ok hprograms fun _ _ _ before after h =>
      ⟨before, after, compileProgram_of_compileProgramAt h⟩
  · apply Attempt.forall₂_of_mapM_zipIdx_eq_ok hstreams
    intro _ _ _ before after h
    obtain ⟨primitive, hprimitive⟩ := compileStreams_of_compileStreamsAt h
    exact ⟨primitive, before, after, hprimitive⟩

namespace CompiledPipeline

theorem compile_eq_ok {pipeline : Pipeline} {width height : UInt32} {config : Config}
    {compiled : CompiledPipeline handles} {state last : State} :
    compile pipeline width height config state = (.ok compiled, last) ↔
      check (Device.backend state) pipeline = .ok () ∧
        ∃ resources, Resources.compile pipeline width height config state =
          (.ok resources, last) ∧ compiled = ⟨pipeline, config, resources⟩ := by
  unfold compile
  constructor
  · intro hok
    obtain ⟨device, afterGet, hget, hok⟩ := Attempt.bind_eq_ok.1 hok
    cases hget
    obtain ⟨_, afterCheck, hlifted, hok⟩ := Attempt.bind_eq_ok.1 hok
    obtain ⟨hcheck, rfl⟩ := Attempt.liftM_eq_ok.1 hlifted
    obtain ⟨resources, afterResources, hresources, hok⟩ := Attempt.bind_eq_ok.1 hok
    cases hok
    exact ⟨hcheck, resources, hresources, rfl⟩
  · rintro ⟨hcheck, resources, hresources, rfl⟩
    refine Attempt.bind_eq_ok.2 ⟨state, state, rfl, ?_⟩
    refine Attempt.bind_eq_ok.2 ⟨(), state, Attempt.liftM_eq_ok.2 ⟨hcheck, rfl⟩, ?_⟩
    exact Attempt.bind_eq_ok.2 ⟨resources, last, hresources, rfl⟩

theorem check_eq_ok {backend : Backend} {pipeline : Pipeline} :
    check backend pipeline = .ok () ↔
      pipeline.backend = backend ∧ pipeline.validate = .ok () := by
  unfold check
  split
  · next hother => simp [hother]
  · next hsame =>
    rw [not_not] at hsame
    cases hvalid : pipeline.validate with
    | error dangling => simp [Except.mapError]
    | ok _ => simp [Except.mapError, hsame]

theorem isCompiled_of_compile_eq_ok {pipeline : Pipeline} {width height : UInt32}
    {config : Config} {compiled : CompiledPipeline handles} {state last : State}
    (hok : compile pipeline width height config state = (.ok compiled, last)) :
    compiled.IsCompiled State pipeline config := by
  obtain ⟨hcheck, resources, hresources, rfl⟩ := compile_eq_ok.1 hok
  exact ⟨(check_eq_ok.1 hcheck).2, rfl, Resources.isCompiled_of_compile_eq_ok hresources, rfl⟩

def count (compiled : CompiledPipeline handles) : ResourceKind → Nat
  | .texture => compiled.resources.textures.length
  | .program => compiled.resources.programs.length
  | .target => compiled.resources.targets.length
  | .slot => compiled.description.slots.length
  | .stream => compiled.resources.streams.length

namespace IsCompiled

variable {pipeline : Pipeline} {config : Config} {compiled : CompiledPipeline handles}

theorem count_eq (hcompiled : compiled.IsCompiled State pipeline config) (kind : ResourceKind) :
    compiled.count kind = pipeline.count kind := by
  cases kind with
  | texture => exact hcompiled.resources.textures.length_eq.symm
  | program => exact hcompiled.resources.programs.length_eq.symm
  | target => exact hcompiled.resources.targets.length_eq.symm
  | slot => rw [count, hcompiled.description, Pipeline.count]
  | stream => exact hcompiled.resources.streams.length_eq.symm

theorem index_lt (hcompiled : compiled.IsCompiled State pipeline config) {command : Command}
    (hmem : command ∈ pipeline.commands) {kind : ResourceKind} {index : Nat}
    (hreference : command.reference? = some (kind, index)) : index < compiled.count kind := by
  rw [hcompiled.count_eq]
  exact Pipeline.index_lt_of_mem_commands hcompiled.valid hmem hreference

theorem exists_madeFrom (hcompiled : compiled.IsCompiled State pipeline config) {index : Nat}
    {program : CompiledProgram handles}
    (hget : compiled.resources.programs[index]? = some program) :
    ∃ descriptor vertex fragment, pipeline.programs[index]? = some descriptor ∧
      program.MadeFrom State config descriptor vertex fragment := by
  obtain ⟨descriptor, hdescriptor, before, after, hok⟩ :=
    exists_of_forall₂_getElem? hcompiled.resources.programs hget
  obtain ⟨vertex, fragment, hmade⟩ := CompiledProgram.exists_madeFrom hok
  exact ⟨descriptor, vertex, fragment, hdescriptor, hmade⟩

end IsCompiled

end CompiledPipeline

end Inversion

end FramePlan
