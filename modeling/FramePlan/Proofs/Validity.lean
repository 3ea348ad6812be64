import FramePlan.Pipeline.Validity
import Mathlib.Data.List.Basic

/-!
# The first defect of a pipeline

A pipeline refers to its resources from the items of its targets, from its slots and its stream data, and
from its commands. Validation goes through these places once, in this order, and stops at the first one
that refers to something which is not there. It reports that place and what was wrong there, so a
pipeline that passes has all that it refers to.

* `Place.key`: the order in which places are validated.
* `Pipeline.referenceAt?`: what stands at a place.
* `Pipeline.IsClosed`: a pipeline with all that it refers to.
* `Pipeline.IsFirstDefect`: the place that validation stops at.
* `validate_finds_first_defect`: what validation answers.
-/

namespace FramePlan

/-- A place at which a reference may stand: an item of a target, a program that a slot or stream data
lists, or a command. -/
inductive Place where
  | targetItem (target item : Nat)
  | slotProgram (slot entry : Nat)
  | streamProgram (stream entry : Nat)
  | command (index : Nat)
deriving DecidableEq, Repr

namespace Place

/-- The round of the validation in which a place is checked, and its position in the round. -/
def key : Place → List Nat
  | .targetItem target item => [0, target, item]
  | .slotProgram slot entry => [1, slot, entry]
  | .streamProgram stream entry => [2, stream, entry]
  | .command index => [3, index, 0]

/-- The words for a place in a message. -/
def context : Place → String
  | .targetItem target item => "target " ++ toString target ++ " item " ++ toString item
  | .slotProgram slot _ => "slot " ++ toString slot
  | .streamProgram stream _ => "stream " ++ toString stream
  | .command index => "command " ++ toString index

/-- The site under which the references at a place are listed. -/
def site : Place → ReferenceSite
  | .targetItem target item => .targetItem target item
  | .slotProgram slot _ => .slot slot
  | .streamProgram stream _ => .stream stream
  | .command index => .command index

theorem text_site (place : Place) : place.site.text = place.context := by
  cases place <;> rfl

end Place

theorem TargetItem.exists_of_textureIndex?_eq_some {item : TargetItem} {texture : Nat}
    (htexture : item.textureIndex? = some texture) :
    ∃ mipLevel layer, item.reference = some (.textureImage texture mipLevel layer) := by
  unfold textureIndex? at htexture
  split at htexture
  · next mipLevel layer hreference =>
    cases htexture
    exact ⟨mipLevel, layer, hreference⟩
  · cases htexture
  · cases htexture

namespace Pipeline

variable {pipeline : Pipeline} {place : Place}

/-- What the reference at a place refers to, if a reference stands there. -/
def referenceAt? (pipeline : Pipeline) : Place → Option (ResourceKind × Nat)
  | .targetItem target item =>
    pipeline.targets[target]?.bind fun target => target.items[item]?.bind fun item =>
      item.textureIndex?.map (.texture, ·)
  | .slotProgram slot entry =>
    pipeline.slots[slot]?.bind fun slot => slot.programs[entry]?.map (.program, ·)
  | .streamProgram stream entry =>
    pipeline.streams[stream]?.bind fun stream => stream.programs[entry]?.map (.program, ·)
  | .command index => pipeline.commands[index]?.bind Command.reference?

/-- Whether a command refers to nothing that a pipeline does not have. -/
def Provides (pipeline : Pipeline) : Command → Prop
  | .setTexture _ texture => texture < pipeline.textures.length
  | .setProgram program => program < pipeline.programs.length
  | .setRenderTarget target => target < pipeline.targets.length
  | .renderSlot slot => slot < pipeline.slots.length
  | .renderStream stream => stream < pipeline.streams.length
  | .setRasterContext _ | .setAccumulationContext _ | .clearRenderTarget _
  | .setSamplerUniform _ _ => True

/-- A pipeline with all that it refers to. -/
structure IsClosed (pipeline : Pipeline) : Prop where
  items : ∀ target ∈ pipeline.targets, ∀ item ∈ target.items, ∀ texture mipLevel layer,
    item.reference = some (.textureImage texture mipLevel layer) →
      texture < pipeline.textures.length
  slots : ∀ slot ∈ pipeline.slots, ∀ program ∈ slot.programs, program < pipeline.programs.length
  streams : ∀ stream ∈ pipeline.streams, ∀ program ∈ stream.programs,
    program < pipeline.programs.length
  commands : ∀ command ∈ pipeline.commands, pipeline.Provides command

/-- A place refers beyond the end of a list, and no place before it does. -/
structure IsFirstDefect (pipeline : Pipeline) (place : Place) (kind : ResourceKind) (index : Nat) :
    Prop where
  referred : pipeline.referenceAt? place = some (kind, index)
  beyond : pipeline.count kind ≤ index
  first : ∀ earlier : Place, earlier.key < place.key → ∀ otherKind other,
    pipeline.referenceAt? earlier = some (otherKind, other) → other < pipeline.count otherKind

/-- A command refers to nothing that a pipeline does not have just when its reference, if it has one, is
in range. -/
theorem provides_iff {command : Command} : pipeline.Provides command ↔
    ∀ kind index, command.reference? = some (kind, index) → index < pipeline.count kind := by
  cases command <;> simp [Provides, Command.reference?, count]

/-! ## Places in order -/

/-- The indices of the entries of groups, group by group. -/
def entriesOf {α β : Type} (groups : List α) (entries : α → List β) : List (Nat × Nat) :=
  groups.zipIdx.flatMap fun group => (entries group.1).zipIdx.map fun entry => (group.2, entry.2)

/-- The places of a pipeline in the order of their validation. -/
def places (pipeline : Pipeline) : List Place :=
  (entriesOf pipeline.targets RenderTarget.items).map (fun entry => .targetItem entry.1 entry.2) ++
    ((entriesOf pipeline.slots Slot.programs).map (fun entry => .slotProgram entry.1 entry.2) ++
      ((entriesOf pipeline.streams StreamData.programs).map
          (fun entry => .streamProgram entry.1 entry.2) ++
        pipeline.commands.zipIdx.map (fun command => .command command.2)))

theorem pairwise_zipIdx {α : Type} (items : List α) :
    items.zipIdx.Pairwise fun earlier later => earlier.2 < later.2 := by
  have hindices : (items.zipIdx.map Prod.snd).Pairwise (· < ·) := by
    rw [List.zipIdx_map_snd]
    exact List.pairwise_lt_range'
  exact List.pairwise_map.1 hindices

theorem pairwise_entriesOf {α β : Type} (groups : List α) (entries : α → List β) :
    (entriesOf groups entries).Pairwise fun earlier later =>
      earlier.1 < later.1 ∨ earlier.1 = later.1 ∧ earlier.2 < later.2 := by
  refine List.pairwise_flatMap.2 ⟨?_, (pairwise_zipIdx groups).imp ?_⟩
  · intro group _
    refine List.pairwise_map.2 ((pairwise_zipIdx (entries group.1)).imp ?_)
    intro earlier later hlt
    exact .inr ⟨rfl, hlt⟩
  · intro earlier later hlt entry hentry other hother
    obtain ⟨_, _, rfl⟩ := List.mem_map.1 hentry
    obtain ⟨_, _, rfl⟩ := List.mem_map.1 hother
    exact .inl hlt

theorem mk_mem_entriesOf {α β : Type} {groups : List α} {entries : α → List β} {outer inner : Nat}
    {group : α} {entry : β} (hgroup : groups[outer]? = some group)
    (hentry : (entries group)[inner]? = some entry) : (outer, inner) ∈ entriesOf groups entries := by
  refine List.mem_flatMap.2 ⟨(group, outer), List.mk_mem_zipIdx_iff_getElem?.2 hgroup, ?_⟩
  exact List.mem_map.2 ⟨(entry, inner), List.mk_mem_zipIdx_iff_getElem?.2 hentry, rfl⟩

/-- Every place is validated once, in the order of the keys. -/
theorem pairwise_places (pipeline : Pipeline) :
    pipeline.places.Pairwise fun earlier later => earlier.key < later.key := by
  have hitems := pairwise_entriesOf pipeline.targets RenderTarget.items
  have hslots := pairwise_entriesOf pipeline.slots Slot.programs
  have hstreams := pairwise_entriesOf pipeline.streams StreamData.programs
  have hcommands := pairwise_zipIdx pipeline.commands
  simp only [places, List.pairwise_append, List.pairwise_map, List.mem_append, List.mem_map,
    forall_exists_index, and_imp, or_imp, forall_and, forall_apply_eq_imp_iff₂, Place.key,
    List.cons_lt_cons_iff, List.not_lt_nil]
  simpa using ⟨hitems, hslots, hstreams, hcommands⟩

theorem mem_places {reference : ResourceKind × Nat}
    (hreference : pipeline.referenceAt? place = some reference) : place ∈ pipeline.places := by
  cases place with
  | targetItem target item =>
    obtain ⟨found, htarget, hitem⟩ := Option.bind_eq_some_iff.1 hreference
    obtain ⟨_, hitem, _⟩ := Option.bind_eq_some_iff.1 hitem
    exact List.mem_append_left _ (List.mem_map_of_mem (mk_mem_entriesOf htarget hitem))
  | slotProgram slot entry =>
    obtain ⟨found, hslot, hentry⟩ := Option.bind_eq_some_iff.1 hreference
    obtain ⟨_, hentry, _⟩ := Option.map_eq_some_iff.1 hentry
    refine List.mem_append_right _ (List.mem_append_left _ ?_)
    exact List.mem_map_of_mem (mk_mem_entriesOf hslot hentry)
  | streamProgram stream entry =>
    obtain ⟨found, hstream, hentry⟩ := Option.bind_eq_some_iff.1 hreference
    obtain ⟨_, hentry, _⟩ := Option.map_eq_some_iff.1 hentry
    refine List.mem_append_right _ (List.mem_append_right _ (List.mem_append_left _ ?_))
    exact List.mem_map_of_mem (mk_mem_entriesOf hstream hentry)
  | command index =>
    obtain ⟨_, hcommand, _⟩ := Option.bind_eq_some_iff.1 hreference
    refine List.mem_append_right _ (List.mem_append_right _ (List.mem_append_right _ ?_))
    exact List.mem_map_of_mem (List.mk_mem_zipIdx_iff_getElem?.2 hcommand)

/-- The reference at a place, as it is listed. -/
def listedAt? (pipeline : Pipeline) (place : Place) : Option Reference :=
  (pipeline.referenceAt? place).map fun reference => ⟨place.site, reference.1, reference.2⟩

/-- What is listed for the entries of groups is listed group by group. -/
theorem filterMap_entriesOf {α β γ : Type} (groups : List α) (entries : α → List β)
    (listed : Nat × Nat → Option γ) (select : Nat → β × Nat → Option γ)
    (hlisted : ∀ outer inner group entry, groups[outer]? = some group →
      (entries group)[inner]? = some entry → listed (outer, inner) = select outer (entry, inner)) :
    (entriesOf groups entries).filterMap listed =
      groups.zipIdx.flatMap fun group => (entries group.1).zipIdx.filterMap (select group.2) := by
  rw [entriesOf, List.filterMap_flatMap]
  apply List.flatMap_congr
  rintro ⟨group, outer⟩ hgroup
  rw [List.filterMap_map]
  apply List.filterMap_congr
  rintro ⟨entry, inner⟩ hentry
  exact hlisted outer inner group entry (List.mk_mem_zipIdx_iff_getElem?.1 hgroup)
    (List.mk_mem_zipIdx_iff_getElem?.1 hentry)

theorem filterMap_zipIdx_fst {α β : Type} (f : α → β) (items : List α) :
    (items.zipIdx.filterMap fun item => some (f item.1)) = items.map f := by
  calc (items.zipIdx.filterMap fun item => some (f item.1))
      = (items.zipIdx.map Prod.fst).map f := by rw [List.filterMap_eq_map', List.map_map]; rfl
    _ = items.map f := by rw [List.zipIdx_map_fst]

theorem references_eq (pipeline : Pipeline) :
    pipeline.references = pipeline.places.filterMap pipeline.listedAt? := by
  have htargets := filterMap_entriesOf pipeline.targets RenderTarget.items
    (fun entry => pipeline.listedAt? (.targetItem entry.1 entry.2))
    (fun target item => item.1.textureIndex?.map (⟨.targetItem target item.2, .texture, ·⟩))
    (by
      intro target inner group item hgroup hitem
      simp [listedAt?, referenceAt?, hgroup, hitem, Place.site, Function.comp_def])
  have hslots := filterMap_entriesOf pipeline.slots Slot.programs
    (fun entry => pipeline.listedAt? (.slotProgram entry.1 entry.2))
    (fun slot program => some ⟨.slot slot, .program, program.1⟩)
    (by
      intro slot inner group program hgroup hprogram
      simp [listedAt?, referenceAt?, hgroup, hprogram, Place.site])
  have hstreams := filterMap_entriesOf pipeline.streams StreamData.programs
    (fun entry => pipeline.listedAt? (.streamProgram entry.1 entry.2))
    (fun stream program => some ⟨.stream stream, .program, program.1⟩)
    (by
      intro stream inner group program hgroup hprogram
      simp [listedAt?, referenceAt?, hgroup, hprogram, Place.site])
  have hcommands : pipeline.commands.zipIdx.filterMap
      (fun command => pipeline.listedAt? (.command command.2)) = pipeline.commandReferences := by
    apply List.filterMap_congr
    rintro ⟨command, index⟩ hcommand
    have hget := List.mk_mem_zipIdx_iff_getElem?.1 hcommand
    simp [listedAt?, referenceAt?, hget, Place.site]
  simp only [filterMap_zipIdx_fst] at hslots hstreams
  simp only [references, places, List.filterMap_append, List.filterMap_map, Function.comp_def,
    htargets, hslots, hstreams, hcommands, List.append_assoc]
  rfl

/-! ## The answer of validation -/

/-- The defect at a place, if what it refers to is beyond the end of its list. -/
def defect? (pipeline : Pipeline) (place : Place) : Option DanglingReference :=
  (pipeline.listedAt? place).bind pipeline.dangling?

theorem findSome?_filterMap {α β γ : Type} (f : α → Option β) (g : β → Option γ) (items : List α) :
    (items.filterMap f).findSome? g = items.findSome? fun item => (f item).bind g := by
  induction items with
  | nil => rfl
  | cons item rest ih => cases hitem : f item <;> simp [List.findSome?_cons, hitem, ih]

theorem validate_eq (pipeline : Pipeline) :
    pipeline.validate =
      match pipeline.places.findSome? pipeline.defect? with
      | some dangling => .error dangling
      | none => .ok () := by
  rw [validate, references_eq, findSome?_filterMap]
  rfl

theorem defect?_eq_none_iff :
    pipeline.defect? place = none ↔
      ∀ kind index, pipeline.referenceAt? place = some (kind, index) →
        index < pipeline.count kind := by
  unfold defect? listedAt? dangling?
  cases pipeline.referenceAt? place with
  | none => simp
  | some reference => simp; grind

theorem defect?_eq_some_iff {dangling : DanglingReference} :
    pipeline.defect? place = some dangling ↔
      ∃ kind index, pipeline.referenceAt? place = some (kind, index) ∧
        pipeline.count kind ≤ index ∧
        dangling = ⟨⟨place.site, kind, index⟩, pipeline.count kind⟩ := by
  unfold defect? listedAt? dangling?
  cases pipeline.referenceAt? place with
  | none => simp
  | some reference => simp; grind

/-- A pipeline has all that it refers to just when no place refers beyond the end of a list. -/
theorem isClosed_iff : pipeline.IsClosed ↔
    ∀ place kind index, pipeline.referenceAt? place = some (kind, index) →
      index < pipeline.count kind := by
  constructor
  · intro hclosed place kind index hreference
    cases place with
    | targetItem target item =>
      obtain ⟨found, htarget, hitem⟩ := Option.bind_eq_some_iff.1 hreference
      obtain ⟨attachment, hentry, htexture⟩ := Option.bind_eq_some_iff.1 hitem
      obtain ⟨texture, htexture, hkind⟩ := Option.map_eq_some_iff.1 htexture
      cases hkind
      obtain ⟨mipLevel, layer, hreferred⟩ := TargetItem.exists_of_textureIndex?_eq_some htexture
      exact hclosed.items found (List.mem_of_getElem? htarget) attachment
        (List.mem_of_getElem? hentry) index mipLevel layer hreferred
    | slotProgram slot entry =>
      obtain ⟨found, hslot, hentry⟩ := Option.bind_eq_some_iff.1 hreference
      obtain ⟨program, hentry, hkind⟩ := Option.map_eq_some_iff.1 hentry
      cases hkind
      exact hclosed.slots found (List.mem_of_getElem? hslot) index (List.mem_of_getElem? hentry)
    | streamProgram stream entry =>
      obtain ⟨found, hstream, hentry⟩ := Option.bind_eq_some_iff.1 hreference
      obtain ⟨program, hentry, hkind⟩ := Option.map_eq_some_iff.1 hentry
      cases hkind
      exact hclosed.streams found (List.mem_of_getElem? hstream) index
        (List.mem_of_getElem? hentry)
    | command position =>
      obtain ⟨command, hcommand, hreference⟩ := Option.bind_eq_some_iff.1 hreference
      exact (provides_iff.1 (hclosed.commands command (List.mem_of_getElem? hcommand)))
        kind index hreference
  · intro hall
    constructor
    · intro target htarget item hitem texture mipLevel layer hreference
      obtain ⟨outer, htarget⟩ := List.mem_iff_getElem?.1 htarget
      obtain ⟨inner, hitem⟩ := List.mem_iff_getElem?.1 hitem
      exact hall (.targetItem outer inner) .texture texture
        (by simp [referenceAt?, htarget, hitem, TargetItem.textureIndex?, hreference])
    · intro slot hslot program hprogram
      obtain ⟨outer, hslot⟩ := List.mem_iff_getElem?.1 hslot
      obtain ⟨inner, hprogram⟩ := List.mem_iff_getElem?.1 hprogram
      exact hall (.slotProgram outer inner) .program program
        (by simp [referenceAt?, hslot, hprogram])
    · intro stream hstream program hprogram
      obtain ⟨outer, hstream⟩ := List.mem_iff_getElem?.1 hstream
      obtain ⟨inner, hprogram⟩ := List.mem_iff_getElem?.1 hprogram
      exact hall (.streamProgram outer inner) .program program
        (by simp [referenceAt?, hstream, hprogram])
    · intro command hcommand
      obtain ⟨position, hcommand⟩ := List.mem_iff_getElem?.1 hcommand
      refine provides_iff.2 fun kind index hreference => hall (.command position) kind index ?_
      simp [referenceAt?, hcommand, hreference]

theorem validate_eq_ok_iff : pipeline.validate = .ok () ↔ pipeline.IsClosed := by
  have hnone : pipeline.validate = .ok () ↔
      pipeline.places.findSome? pipeline.defect? = none := by
    rw [validate_eq]
    cases pipeline.places.findSome? pipeline.defect? <;> simp
  rw [hnone, List.findSome?_eq_none_iff, isClosed_iff]
  constructor
  · intro hall place kind index hreference
    exact defect?_eq_none_iff.1 (hall place (mem_places hreference)) kind index hreference
  · intro hall place _
    exact defect?_eq_none_iff.2 (hall place)

theorem validate_eq_error_iff {dangling : DanglingReference} :
    pipeline.validate = .error dangling ↔
      ∃ place kind index, pipeline.IsFirstDefect place kind index ∧
        dangling = ⟨⟨place.site, kind, index⟩, pipeline.count kind⟩ := by
  have hsome : pipeline.validate = .error dangling ↔
      pipeline.places.findSome? pipeline.defect? = some dangling := by
    rw [validate_eq]
    cases pipeline.places.findSome? pipeline.defect? <;> simp
  rw [hsome, List.findSome?_eq_some_iff]
  have hordered := pipeline.pairwise_places
  constructor
  · rintro ⟨before, place, after, hplaces, hdefect, hbefore⟩
    obtain ⟨kind, index, hreferred, hbeyond, rfl⟩ := defect?_eq_some_iff.1 hdefect
    refine ⟨place, kind, index, ⟨hreferred, hbeyond, ?_⟩, rfl⟩
    intro earlier hearlier otherKind otherIndex hother
    have hmem := mem_places hother
    rw [hplaces] at hordered hmem
    have hafter := (List.pairwise_cons.1 (List.pairwise_append.1 hordered).2.1).1
    rcases List.mem_append.1 hmem with hmem | hmem
    · exact defect?_eq_none_iff.1 (hbefore earlier hmem) otherKind otherIndex hother
    · -- what is not before the place does not have an earlier key
      rcases List.mem_cons.1 hmem with rfl | hmem
      · exact absurd hearlier (List.lt_irrefl _)
      · exact absurd hearlier (List.lt_asymm (hafter earlier hmem))
  · rintro ⟨place, kind, index, hfirst, rfl⟩
    obtain ⟨before, after, hplaces⟩ := List.append_of_mem (mem_places hfirst.referred)
    refine ⟨before, place, after, hplaces, ?_, ?_⟩
    · exact defect?_eq_some_iff.2 ⟨kind, index, hfirst.referred, hfirst.beyond, rfl⟩
    · intro earlier hmem
      rw [hplaces] at hordered
      have hkey := (List.pairwise_append.1 hordered).2.2 earlier hmem place List.mem_cons_self
      exact defect?_eq_none_iff.2 (hfirst.first earlier hkey)

/-- Validation passes just the pipelines that have all that they refer to. Of any other it reports the
first defect: the place, the kind and the index of the reference, and the length of the list that the
reference points into. The message gives the same in words. -/
theorem validate_finds_first_defect (pipeline : Pipeline) :
    (pipeline.validate = .ok () ↔ pipeline.IsClosed) ∧
      ∀ dangling, pipeline.validate = .error dangling ↔
        ∃ place kind index, pipeline.IsFirstDefect place kind index ∧
          dangling = ⟨⟨place.site, kind, index⟩, pipeline.count kind⟩ ∧
          dangling.reference.site.text = place.context ∧
          dangling.message = place.context ++ " references " ++ kind.name ++ " " ++
            toString index ++ ", but the pipeline only has " ++ toString (pipeline.count kind) := by
  refine ⟨validate_eq_ok_iff, fun dangling => validate_eq_error_iff.trans ?_⟩
  constructor
  · rintro ⟨place, kind, index, hfirst, rfl⟩
    have hcomma : ", but the pipeline only has " = ", " ++ "but the pipeline only has " := by decide
    refine ⟨place, kind, index, hfirst, rfl, place.text_site, ?_⟩
    rw [hcomma]
    simp only [DanglingReference.message, Place.text_site, String.append_assoc]
    rfl
  · rintro ⟨place, kind, index, hfirst, hdangling, -, -⟩
    exact ⟨place, kind, index, hfirst, hdangling⟩

end Pipeline

end FramePlan
