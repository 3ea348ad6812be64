import FramePlan.Proofs.Device.Requests
import FramePlan.Resources.Compile

/-!
# The attachments of a target

The items of a target are gone through in order, and each one decides over one attachment: over color, or
over depth and stencil together. An item that refers to a texture gets a view of its own from the recorder,
whether or not a later item overrides it; any other item takes the view of the back buffer.

* `TargetItem.viewCall?`: the call for a view of its own that an item makes.
* `asks_addItem`, `asks_compileTarget`: what a target asks for, and what becomes of its attachments.
* `last_item_decides`: the last item for an attachment decides over it.
-/

namespace FramePlan

/-- What a target has a view for. Depth and stencil share one. -/
inductive Attachment where
  | color
  | depthStencil
deriving DecidableEq

/-- The attachment that images of a semantic belong to. -/
def ImageSemantic.attachment : ImageSemantic → Attachment
  | .color => .color
  | .depth | .stencil => .depthStencil

def CompiledTarget.view? (target : CompiledTarget Recorder.handles) :
    Attachment → Option RecordedView
  | .color => target.color
  | .depthStencil => target.depth

def CompiledTarget.withView (target : CompiledTarget Recorder.handles) (view : RecordedView) :
    Attachment → CompiledTarget Recorder.handles
  | .color => { target with color := some view }
  | .depthStencil => { target with depth := some view }

theorem CompiledTarget.view?_withView (target : CompiledTarget Recorder.handles)
    (view : RecordedView) (changed attachment : Attachment) :
    (target.withView view changed).view? attachment =
      if attachment = changed then some view else target.view? attachment := by
  cases changed <;> cases attachment <;> rfl

def BackBuffer.view (backBuffer : BackBuffer Recorder.handles) : Attachment → RecordedView
  | .color => backBuffer.colorView
  | .depthStencil => backBuffer.depthView

/-- The call that asks for a view of an image. -/
def Attachment.viewCall : Attachment → Nat → DeviceCall
  | .color, image => .createRenderView image
  | .depthStencil, image => .createDepthView image

namespace TargetItem

/-- The image of the texture that an item refers to. -/
def image? (textures : List (CompiledTexture Recorder.handles)) (item : TargetItem) :
    Option RecordedImage :=
  item.textureIndex?.bind fun index => textures[index]?.map (·.image)

/-- The call for a view of its own that an item makes. -/
def viewCall? (textures : List (CompiledTexture Recorder.handles)) (item : TargetItem) :
    Option DeviceCall :=
  (item.image? textures).map fun image => item.semantic.attachment.viewCall image.id

/-- Whether the texture that an item refers to, if it refers to one, is there. -/
def IsCovered (textures : List (CompiledTexture Recorder.handles)) (item : TargetItem) : Prop :=
  ∀ index, item.textureIndex? = some index → index < textures.length

/-- The view that an item gives its attachment, under a number if it is one of its own. -/
def view (textures : List (CompiledTexture Recorder.handles))
    (backBuffer : BackBuffer Recorder.handles) (item : TargetItem) (id : Nat) : RecordedView :=
  match item.image? textures with
  | some image => ⟨id, image.id⟩
  | none => backBuffer.view item.semantic.attachment

/-- An item that refers to a texture gives a view of the image of this texture; any other item gives the
view of the back buffer. -/
theorem view_of_reference {textures : List (CompiledTexture Recorder.handles)} {item : TargetItem}
    (hcovered : item.IsCovered textures) (backBuffer : BackBuffer Recorder.handles) (id : Nat) :
    match item.reference with
    | some (.textureImage index _ _) => ∃ texture, textures[index]? = some texture ∧
      item.view textures backBuffer id = ⟨id, texture.image.id⟩
    | some (.framebuffer _) | none =>
      item.view textures backBuffer id = backBuffer.view item.semantic.attachment := by
  unfold IsCovered textureIndex? at hcovered
  unfold view image? textureIndex?
  cases hreference : item.reference with
  | none => rfl
  | some reference =>
    cases reference with
    | textureImage index level layer =>
      rw [hreference] at hcovered
      have hget := List.getElem?_eq_getElem (hcovered index rfl)
      refine ⟨_, hget, ?_⟩
      rw [Option.bind_some, hget]
      rfl
    | framebuffer semantic => rfl

end TargetItem

variable {recorder : Recorder} {textures : List (CompiledTexture Recorder.handles)}

/-- An item asks for the view of its own, if it needs one, and puts its view at its attachment. -/
theorem asks_addItem {item : TargetItem} (hcovered : item.IsCovered textures)
    (backBuffer : BackBuffer Recorder.handles) (target : CompiledTarget Recorder.handles) :
    Asks recorder (addItem textures backBuffer target item)
      ((item.viewCall? textures).toList.map (.create · none)) fun next =>
        next = target.withView (item.view textures backBuffer recorder.nextId)
          item.semantic.attachment := by
  unfold addItem TargetItem.viewCall? TargetItem.view TargetItem.image?
  cases hindex : item.textureIndex? with
  | none =>
    have hnone : itemTexture textures item = .ok none := by rw [itemTexture, hindex]
    refine Asks.bind_lift hnone ?_
    cases item.semantic with
    | color | depth | stencil => exact Asks.pure rfl
  | some index =>
    obtain ⟨texture, hget⟩ : ∃ texture, textures[index]? = some texture :=
      ⟨_, List.getElem?_eq_getElem (hcovered index hindex)⟩
    have hsome : itemTexture textures item = .ok (some texture) := by
      rw [itemTexture, hindex]
      simp only [hget]
    refine Asks.bind_lift hsome ?_
    rw [Option.bind_some, hget]
    cases item.semantic with
    | color | depth | stencil =>
      refine (Recorder.asks_create _ _ _).bind_cons fun _ view hview => ?_
      rw [hview]
      exact Asks.pure rfl

/-- A target is decided by items, their own views numbered from a first one, if the last item for an
attachment decides over it. -/
def IsDecidedBy (textures : List (CompiledTexture Recorder.handles))
    (backBuffer : BackBuffer Recorder.handles) (firstId : Nat) (items : List TargetItem)
    (target : CompiledTarget Recorder.handles) : Prop :=
  ∀ attachment,
    (target.view? attachment = none ↔ ∀ item ∈ items, item.semantic.attachment ≠ attachment) ∧
    ∀ before item after, items = before ++ item :: after →
      item.semantic.attachment = attachment →
      (∀ other ∈ after, other.semantic.attachment ≠ attachment) →
      target.view? attachment = some (item.view textures backBuffer
        (firstId + (before.filterMap (·.viewCall? textures)).length))

theorem isDecidedBy_nil (textures : List (CompiledTexture Recorder.handles))
    (backBuffer : BackBuffer Recorder.handles) (firstId : Nat) :
    IsDecidedBy textures backBuffer firstId [] {} := by
  intro attachment
  constructor
  · cases attachment <;> simp [CompiledTarget.view?]
  · intro before item after heq
    simp at heq

/-- One more item decides over its attachment, and leaves the other one as it is. -/
theorem IsDecidedBy.concat {backBuffer : BackBuffer Recorder.handles} {firstId : Nat}
    {items : List TargetItem} {target : CompiledTarget Recorder.handles}
    (hdecided : IsDecidedBy textures backBuffer firstId items target) (last : TargetItem) :
    IsDecidedBy textures backBuffer firstId (items ++ [last])
      (target.withView (last.view textures backBuffer
        (firstId + (items.filterMap (·.viewCall? textures)).length)) last.semantic.attachment) := by
  intro attachment
  rw [CompiledTarget.view?_withView]
  by_cases hlast : attachment = last.semantic.attachment
  · rw [if_pos hlast]
    constructor
    · simp [hlast]
    · intro before item after heq _ hafter
      -- nothing may come after the last item for the attachment
      rcases List.eq_nil_or_concat after with rfl | ⟨rest, final, rfl⟩
      · obtain ⟨rfl, hitem⟩ := List.append_inj' heq rfl
        rw [(List.cons.inj hitem).1]
      · rw [List.concat_eq_append, ← List.cons_append, ← List.append_assoc] at heq
        obtain ⟨_, hfinal⟩ := List.append_inj' heq rfl
        rw [← (List.cons.inj hfinal).1] at hafter
        exact absurd hlast.symm (hafter last (by simp))
  · rw [if_neg hlast]
    obtain ⟨hnone, hsome⟩ := hdecided attachment
    constructor
    · rw [hnone, List.forall_mem_append, List.forall_mem_singleton]
      exact (and_iff_left (Ne.symm hlast)).symm
    · intro before item after heq hitem hafter
      rcases List.eq_nil_or_concat after with rfl | ⟨rest, final, rfl⟩
      · obtain ⟨_, hsame⟩ := List.append_inj' heq rfl
        rw [← (List.cons.inj hsame).1] at hitem
        exact absurd hitem.symm hlast
      · rw [List.concat_eq_append, ← List.cons_append, ← List.append_assoc] at heq
        obtain ⟨hitems, _⟩ := List.append_inj' heq rfl
        refine hsome before item rest hitems hitem fun other hother => hafter other ?_
        simp [hother]

/-- Items that come after others ask for their views in order, and decide together with those. -/
theorem asks_foldlM_addItem {backBuffer : BackBuffer Recorder.handles} {firstId : Nat}
    {earlier items : List TargetItem} (hcovered : ∀ item ∈ items, item.IsCovered textures)
    {target : CompiledTarget Recorder.handles}
    (hdecided : IsDecidedBy textures backBuffer firstId earlier target)
    (hid : recorder.nextId = firstId + (earlier.filterMap (·.viewCall? textures)).length) :
    Asks recorder (items.foldlM (addItem textures backBuffer) target)
      ((items.filterMap (·.viewCall? textures)).map (.create · none))
      (IsDecidedBy textures backBuffer firstId (earlier ++ items)) := by
  induction items generalizing recorder earlier target with
  | nil =>
    rw [List.append_nil]
    exact Asks.pure hdecided
  | cons item rest ih =>
    obtain ⟨hitem, hrest⟩ := List.forall_mem_cons.1 hcovered
    rw [List.foldlM_cons, List.filterMap_eq_flatMap_toList, List.flatMap_cons, List.map_append,
      ← List.filterMap_eq_flatMap_toList, List.append_cons]
    refine (asks_addItem hitem backBuffer target).bind fun hgranted next hnext => ?_
    rw [hnext, hid]
    refine ih hrest (hdecided.concat item) ?_
    rw [Recorder.nextId_after_of_granted hgranted, hid, List.filterMap_append, List.length_append,
      List.length_map, Nat.add_assoc, List.filterMap_eq_flatMap_toList _ [item],
      List.flatMap_singleton]

theorem asks_compileTarget {descriptor : RenderTarget}
    (hcovered : ∀ item ∈ descriptor.items, item.IsCovered textures)
    (backBuffer : BackBuffer Recorder.handles) :
    Asks recorder (compileTarget textures backBuffer descriptor)
      ((descriptor.items.filterMap (·.viewCall? textures)).map (.create · none))
      (IsDecidedBy textures backBuffer recorder.nextId descriptor.items) :=
  asks_foldlM_addItem hcovered (isDecidedBy_nil textures backBuffer recorder.nextId) rfl

/-- Items that are covered ask for a view each just when they refer to a texture. -/
theorem length_filterMap_viewCall? {items : List TargetItem}
    (hcovered : ∀ item ∈ items, item.IsCovered textures) :
    (items.filterMap (·.viewCall? textures)).length = items.countP (·.textureIndex?.isSome) := by
  rw [List.length_filterMap_eq_countP]
  apply List.countP_congr
  intro item hmem
  rw [TargetItem.viewCall?, TargetItem.image?, Option.isSome_map]
  cases hindex : item.textureIndex? with
  | none => rfl
  | some index =>
    have hlt : index < textures.length := hcovered item hmem index hindex
    simp [hlt]

/-- A recorder makes every target whose textures are all there. It is asked for one view for each item
that refers to a texture, in the order of the items, and for nothing else. An attachment is without a
view just when no item is for it; otherwise the last item for it decides. If that item refers to a
texture, the view is the one that was created for it, and it is a view of the image of this texture. If it
refers to a surface of the back buffer, whichever one, or to nothing, the view is that of the back buffer
for the attachment. -/
theorem last_item_decides (recorder : Recorder) {textures : List (CompiledTexture Recorder.handles)}
    {descriptor : RenderTarget} (hcovered : ∀ item ∈ descriptor.items, item.IsCovered textures)
    (backBuffer : BackBuffer Recorder.handles) :
    ∃ target : CompiledTarget Recorder.handles,
      compileTarget textures backBuffer descriptor recorder =
        (.ok target, { recorder with
          calls := recorder.calls ++ descriptor.items.filterMap (·.viewCall? textures)
          nextId := recorder.nextId + descriptor.items.countP (·.textureIndex?.isSome) }) ∧
      ∀ attachment,
        (target.view? attachment = none ↔
          ∀ item ∈ descriptor.items, item.semantic.attachment ≠ attachment) ∧
        ∀ before item after, descriptor.items = before ++ item :: after →
          item.semantic.attachment = attachment →
          (∀ other ∈ after, other.semantic.attachment ≠ attachment) →
          match item.reference with
          | some (.textureImage index _ _) => ∃ texture, textures[index]? = some texture ∧
            target.view? attachment = some
              ⟨recorder.nextId + before.countP (·.textureIndex?.isSome), texture.image.id⟩
          | some (.framebuffer _) | none =>
            target.view? attachment = some (backBuffer.view attachment) := by
  have hasks : Asks recorder _ _ _ := asks_compileTarget hcovered backBuffer
  obtain ⟨target, hok, hdecided⟩ := hasks.exists_ok (Request.firstFault?_granted _)
  refine ⟨target, ?_, fun attachment => ⟨(hdecided attachment).1, ?_⟩⟩
  · rw [hok, Recorder.after_granted, length_filterMap_viewCall? hcovered]
  · intro before item after heq hitem hafter
    have hview := (hdecided attachment).2 before item after heq hitem hafter
    have hbefore : ∀ other ∈ before, other.IsCovered textures := fun other hother =>
      hcovered other (by simp [heq, hother])
    have hcover : item.IsCovered textures := hcovered item (by simp [heq])
    rw [length_filterMap_viewCall? hbefore] at hview
    have hdecides := TargetItem.view_of_reference hcover backBuffer
      (recorder.nextId + before.countP (·.textureIndex?.isSome))
    rw [hview]
    cases hreference : item.reference with
    | none =>
      rw [hreference] at hdecides
      exact congrArg some (hdecides.trans (congrArg backBuffer.view hitem))
    | some reference =>
      rw [hreference] at hdecides
      cases reference with
      | textureImage index level layer =>
        obtain ⟨texture, hget, hown⟩ := hdecides
        exact ⟨texture, hget, congrArg some hown⟩
      | framebuffer semantic =>
        exact congrArg some (hdecides.trans (congrArg backBuffer.view hitem))

namespace Sample

/-- The surfaces of a back buffer on a recorder. -/
def surfaces : BackBuffer Recorder.handles where
  width := 8
  height := 8
  depthImage := ⟨0, ⟨8, 8, 1, .depth, .depthStencil⟩⟩
  depthView := ⟨1, 0⟩
  colorImage := ⟨2, ⟨8, 8, 1, .color, .renderTarget⟩⟩
  colorView := ⟨3, 2⟩

/-- A texture whose image has a number, with the sampler that was made next. -/
def recordedTexture (id : Nat) (semantic : ImageSemantic) : CompiledTexture Recorder.handles :=
  ⟨⟨id, ⟨4, 4, 1, semantic.format, semantic.usage⟩⟩, ⟨id + 1, {}⟩, semantic, 4, 4, 1⟩

/-- A texture for color and one for depth, the first things behind the back buffer. -/
def recordedTextures : List (CompiledTexture Recorder.handles) :=
  [recordedTexture 4 .color, recordedTexture 6 .depth]

/-- Two items for color, and two for depth and stencil; the first one is overridden. -/
def layeredTarget : RenderTarget where
  items := [⟨.color, some (.textureImage 0 0 none)⟩, ⟨.depth, none⟩,
    ⟨.color, some (.framebuffer .depth)⟩, ⟨.stencil, some (.textureImage 1 0 none)⟩]

/-- A recorder that has made all this. -/
def surfaceRecorder : Recorder := { backend := .webGpu, nextId := 8 }

end Sample

/-- The color of the sample is that of the back buffer, although a view of a texture was made for it. -/
theorem last_item_decides_layered :
    (∀ item ∈ Sample.layeredTarget.items, item.IsCovered Sample.recordedTextures) ∧
    ∃ target : CompiledTarget Recorder.handles,
      compileTarget Sample.recordedTextures Sample.surfaces Sample.layeredTarget
        Sample.surfaceRecorder =
          (.ok target, { Sample.surfaceRecorder with
            calls := #[.createRenderView 4, .createDepthView 6]
            nextId := 10 }) ∧
      target.color = some ⟨3, 2⟩ ∧ target.depth = some ⟨9, 6⟩ := by
  have hcovered : ∀ item ∈ Sample.layeredTarget.items,
      item.IsCovered Sample.recordedTextures := by
    simp [Sample.layeredTarget, TargetItem.IsCovered, TargetItem.textureIndex?,
      Sample.recordedTextures]
  refine ⟨hcovered, ?_⟩
  obtain ⟨target, hok, hdecided⟩ :=
    last_item_decides Sample.surfaceRecorder hcovered Sample.surfaces
  refine ⟨target, hok, ?_, ?_⟩
  · exact (hdecided .color).2 (Sample.layeredTarget.items.take 2)
      ⟨.color, some (.framebuffer .depth)⟩ (Sample.layeredTarget.items.drop 3) rfl rfl (by decide)
  · obtain ⟨texture, hget, hview⟩ := (hdecided .depthStencil).2 (Sample.layeredTarget.items.take 3)
      ⟨.stencil, some (.textureImage 1 0 none)⟩ [] rfl rfl (by decide)
    cases hget
    exact hview

end FramePlan
