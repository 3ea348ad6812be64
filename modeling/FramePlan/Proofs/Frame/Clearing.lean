import FramePlan.Proofs.Device.Attachments
import FramePlan.Proofs.Frame.Report

/-!
# Clearing a target

A clear command has any number of images, but it clears the color of a target at most once, and depth and
stencil together at most once. The color is put together channel by channel: every channel comes from the
last color image that reaches so far, and from opaque black if there is none. An image that does not suit
its semantic might as well not be there.

* `ClearImage.channels?`, `depth?`, `stencil?`: what an image asks for.
* `ClearRequest.channel_ofImages`, `depth_ofImages`, `stencil_ofImages`: what all images together ask for.
* `clear_takes_last_values`: what a clear command does.
-/

namespace FramePlan

namespace ClearImage

/-- The color channels that an image asks for. -/
def channels? (image : ClearImage) : Option (List Single) :=
  match image.semantic, image.value with
  | .color, .floats _ channels => some channels.toList
  | _, _ => none

/-- The color channel at an index, if an image reaches so far. -/
def channel? (index : Nat) (image : ClearImage) : Option Single := image.channels?.bind (·[index]?)

/-- The depth that an image asks for. -/
def depth? (image : ClearImage) : Option Single :=
  match image.semantic, image.value with
  | .depth, .floats .one depth => some (only depth)
  | _, _ => none

/-- The stencil value that an image asks for; it is a word, or a number that is not negative. -/
def stencil? (image : ClearImage) : Option UInt32 :=
  match image.semantic, image.value with
  | .stencil, .words .one stencil => some (only stencil)
  | .stencil, .ints .one stencil =>
    if (0 : Int32) ≤ only stencil then some (only stencil).toUInt32 else none
  | _, _ => none

/-- Whether an image asks for anything. -/
def isValid (image : ClearImage) : Bool :=
  image.channels?.isSome || image.depth?.isSome || image.stencil?.isSome

end ClearImage

namespace ClearRequest

/-- A color with its leading channels replaced. -/
def overlay (color : Vector Single 4) (channels : List Single) : Vector Single 4 :=
  Vector.ofFn fun index => channels[index.val]?.getD (color.get index)

theorem overwrite_eq_overlay (color : Vector Single 4) {count : Nat}
    (channels : Vector Single count) : overwrite color channels = overlay color channels.toList := by
  simp only [overwrite, overlay, Vector.getElem?_toList]

/-- An image changes the color, the depth and the stencil value independently of each other. -/
theorem add_eq (request : ClearRequest) (image : ClearImage) :
    request.add image =
      { color := (image.channels?.map (overlay (request.color.getD black))).or request.color
        depth := image.depth?.or request.depth
        stencil := image.stencil?.or request.stencil } := by
  obtain ⟨semantic, value⟩ := image
  cases semantic with
  | color =>
    cases value with
    | floats width channels =>
      dsimp only [add]
      rw [overwrite_eq_overlay]
      rfl
    | _ => rfl
  | depth =>
    cases value with
    | floats width depth => cases width <;> rfl
    | _ => rfl
  | stencil =>
    cases value with
    | words width stencil => cases width <;> rfl
    | ints width stencil =>
      cases width with
      | one =>
        dsimp only [add, ClearImage.stencil?]
        split <;> rfl
      | _ => rfl
    | _ => rfl

theorem depth_ofImages (images : List ClearImage) :
    (ofImages images).depth = (images.filterMap ClearImage.depth?).getLast? := by
  have hfold : (images.foldl add {}).depth =
      (images.filterMap ClearImage.depth?).getLast?.or none :=
    foldl_eq_getLast? ClearRequest.depth add
      (fun request image _ => congrArg ClearRequest.depth (add_eq request image)) {}
  exact hfold.trans (Option.or_none ..)

theorem stencil_ofImages (images : List ClearImage) :
    (ofImages images).stencil = (images.filterMap ClearImage.stencil?).getLast? := by
  have hfold : (images.foldl add {}).stencil =
      (images.filterMap ClearImage.stencil?).getLast?.or none :=
    foldl_eq_getLast? ClearRequest.stencil add
      (fun request image _ => congrArg ClearRequest.stencil (add_eq request image)) {}
  exact hfold.trans (Option.or_none ..)

/-- A channel of the color that is cleared, were it cleared now. -/
def channel (index : Fin 4) (request : ClearRequest) : Single := (request.color.getD black).get index

theorem channel_add (index : Fin 4) (request : ClearRequest) (image : ClearImage) :
    (request.add image).channel index = (image.channel? index).getD (request.channel index) := by
  rw [channel, add_eq, ClearImage.channel?]
  cases image.channels? with
  | none => rfl
  | some channels => exact Vector.getElem_ofFn index.isLt

/-- The last image that reaches a channel settles it. -/
theorem channel_ofImages (index : Fin 4) (images : List ClearImage) :
    (ofImages images).channel index =
      (images.filterMap (ClearImage.channel? index)).getLast?.getD (black.get index) := by
  have hstep (request : ClearRequest) (image : ClearImage) :
      some ((request.add image).channel index) =
        (image.channel? index).or (some (request.channel index)) := by
    rw [channel_add, Option.or_some]
  have hfold : some ((images.foldl add {}).channel index) =
      (images.filterMap (ClearImage.channel? index)).getLast?.or (some (channel index {})) :=
    foldl_eq_getLast? (fun request => some (request.channel index)) add
      (fun request image _ => hstep request image) {}
  exact Option.some.inj (hfold.trans (Option.or_some ..))

theorem isSome_color_ofImages (images : List ClearImage) :
    (ofImages images).color.isSome = images.any (·.channels?.isSome) := by
  have hfold (request : ClearRequest) :
      (images.foldl add request).color.isSome =
        (images.any (·.channels?.isSome) || request.color.isSome) := by
    induction images generalizing request with
    | nil => rfl
    | cons image rest ih =>
      rw [List.foldl_cons, ih, add_eq, List.any_cons]
      dsimp only
      rw [Option.isSome_or, Option.isSome_map, Bool.or_left_comm, Bool.or_assoc]
  exact (hfold {}).trans (Bool.or_false _)

theorem add_of_not_isValid (request : ClearRequest) {image : ClearImage}
    (hinvalid : image.isValid = false) : request.add image = request := by
  simp only [ClearImage.isValid, Bool.or_eq_false_iff, Option.isSome_eq_false_iff,
    Option.isNone_iff_eq_none] at hinvalid
  obtain ⟨⟨hchannels, hdepth⟩, hstencil⟩ := hinvalid
  rw [add_eq, hchannels, hdepth, hstencil]
  rfl

theorem ofImages_filter (images : List ClearImage) :
    ofImages (images.filter (·.isValid)) = ofImages images := by
  rw [ofImages, ofImages, List.foldl_filter]
  congr 1
  funext request image
  cases hvalid : image.isValid with
  | true => rfl
  | false => exact (add_of_not_isValid request hvalid).symm

variable {State : Type} {handles : Handles}

/-- The clear of the color of a target, if that is asked for and there. -/
def colorClear? (request : ClearRequest) (target : CompiledTarget handles) :
    Option (Action handles) := do
  let color ← request.color
  let view ← target.color
  return .clearRenderView view color

/-- The clear of depth and stencil of a target, if either is asked for and they are there. -/
def depthStencilClear? (request : ClearRequest) (target : CompiledTarget handles) :
    Option (Action handles) := do
  let view ← target.depth
  if request.depth.isSome || request.stencil.isSome then
    some (.clearDepthStencilView view request.depth request.stencil)
  else none

theorem isSome_colorClear? (request : ClearRequest) (target : CompiledTarget handles) :
    (request.colorClear? target).isSome = (target.color.isSome && request.color.isSome) := by
  unfold colorClear?
  cases request.color <;> cases target.color <;> rfl

theorem colorClear?_eq_some_iff {request : ClearRequest} {target : CompiledTarget handles}
    {clear : Action handles} :
    request.colorClear? target = some clear ↔ ∃ color view, request.color = some color ∧
      target.color = some view ∧ .clearRenderView view color = clear := by
  simp [colorClear?, Option.bind_eq_some_iff]

theorem isSome_depthStencilClear? (request : ClearRequest) (target : CompiledTarget handles) :
    (request.depthStencilClear? target).isSome =
      (target.depth.isSome && (request.depth.isSome || request.stencil.isSome)) := by
  unfold depthStencilClear?
  cases target.depth with
  | none => rfl
  | some view => cases request.depth <;> cases request.stencil <;> rfl

theorem exists_of_depthStencilClear? {request : ClearRequest} {target : CompiledTarget handles}
    {clear : Action handles} (hclear : request.depthStencilClear? target = some clear) :
    ∃ view, target.depth = some view ∧
      .clearDepthStencilView view request.depth request.stencil = clear := by
  obtain ⟨view, hview, hclear⟩ := Option.bind_eq_some_iff.1 hclear
  exact ⟨view, hview, (Option.ite_none_right_eq_some.1 hclear).2 |> Option.some.inj⟩

/-- Clearing a target calls the device for the color first and leaves the report as it is. -/
theorem clear_eq_call [Device State handles] (request : ClearRequest)
    (target : CompiledTarget handles) (state : FrameState State) :
    Frame.clearDepthStencil target request (Frame.clearColor target request state) =
      state.call fun device =>
        ((request.colorClear? target).toList ++ (request.depthStencilClear? target).toList).foldl
          (fun device action => action.apply device) device := by
  have hcolor : Frame.clearColor target request state =
      state.call fun device => (request.colorClear? target).toList.foldl
        (fun device action => action.apply device) device := by
    unfold Frame.clearColor colorClear?
    cases request.color with
    | none => rfl
    | some color => cases target.color <;> rfl
  have hdepth (state : FrameState State) : Frame.clearDepthStencil target request state =
      state.call fun device => (request.depthStencilClear? target).toList.foldl
        (fun device action => action.apply device) device := by
    unfold Frame.clearDepthStencil depthStencilClear?
    cases target.depth with
    | none => rfl
    | some view =>
      dsimp only [Option.bind_eq_bind, Option.bind_some]
      split <;> rfl
  rw [hdepth, hcolor]
  simp only [FrameState.call, List.foldl_append]

end ClearRequest

/-- A clear command that finds a target bound clears the color at most once, and then depth and stencil
together at most once. The color is cleared just when the target has one and some image asks for color
channels; every channel is that of the last image that reaches so far, and of opaque black if there is
none. Depth and stencil are cleared just when the target has them and some image asks for either; each is
what the last image asks for, and left alone if there is none. Other images change nothing. -/
theorem clear_takes_last_values {State : Type} {handles : Handles} [Device State handles]
    (frame : Frame handles) (state : FrameState State) {target : CompiledTarget handles}
    (htarget : frame.boundTarget? state.cursor = some target) (images : List ClearImage) :
    (∃ color depthStencil : Option (Action handles),
      (frame.step state (.clearRenderTarget images) = state.call fun device =>
        (color.toList ++ depthStencil.toList).foldl
          (fun device action => action.apply device) device) ∧
      (color.isSome = true ↔ target.color.isSome = true ∧
        ∃ image ∈ images, image.channels?.isSome = true) ∧
      (∀ clear, color = some clear → ∃ view channels, target.color = some view ∧
        clear = .clearRenderView view channels ∧ ∀ index : Fin 4, channels.get index =
          (images.filterMap (ClearImage.channel? index)).getLast?.getD
            (ClearRequest.black.get index)) ∧
      (depthStencil.isSome = true ↔ target.depth.isSome = true ∧
        ∃ image ∈ images, image.depth?.isSome = true ∨ image.stencil?.isSome = true) ∧
      (∀ clear, depthStencil = some clear → ∃ view, target.depth = some view ∧
        clear = .clearDepthStencilView view (images.filterMap ClearImage.depth?).getLast?
          (images.filterMap ClearImage.stencil?).getLast?)) ∧
    frame.step state (.clearRenderTarget (images.filter (·.isValid))) =
      frame.step state (.clearRenderTarget images) := by
  have hstep (images : List ClearImage) :
      frame.step state (.clearRenderTarget images) =
        Frame.clearDepthStencil target (ClearRequest.ofImages images)
          (Frame.clearColor target (ClearRequest.ofImages images) state) := by
    simp only [Frame.step, htarget]
  refine ⟨⟨(ClearRequest.ofImages images).colorClear? target,
    (ClearRequest.ofImages images).depthStencilClear? target, ?_, ?_, ?_, ?_, ?_⟩, ?_⟩
  · rw [hstep, ClearRequest.clear_eq_call]
  · rw [ClearRequest.isSome_colorClear?, ClearRequest.isSome_color_ofImages, Bool.and_eq_true,
      List.any_eq_true]
  · intro clear hclear
    obtain ⟨color, view, hcolor, hview, rfl⟩ := ClearRequest.colorClear?_eq_some_iff.1 hclear
    refine ⟨view, color, hview, rfl, fun index => ?_⟩
    rw [← ClearRequest.channel_ofImages, ClearRequest.channel, hcolor, Option.getD_some]
  · rw [ClearRequest.isSome_depthStencilClear?, ClearRequest.depth_ofImages,
      ClearRequest.stencil_ofImages]
    simp [and_or_left, exists_or]
  · intro clear hclear
    obtain ⟨view, hview, rfl⟩ := ClearRequest.exists_of_depthStencilClear? hclear
    refine ⟨view, hview, ?_⟩
    rw [ClearRequest.depth_ofImages, ClearRequest.stencil_ofImages]
  · rw [hstep, hstep, ClearRequest.ofImages_filter]

namespace Sample

/-- A frame whose one target has all the surfaces of a back buffer. -/
def surfaceFrame : Frame Recorder.handles where
  resources := ⟨surfaces, [], [⟨some surfaces.colorView, some surfaces.depthView⟩], [], []⟩
  slots := []
  policy := .zero
  scene := none

/-- The frame on a recorder once its target is bound. -/
def surfaceState : FrameState Recorder := { device := surfaceRecorder, cursor := { target := some 0 } }

/-- Two images for color, of which the last one is the shorter, and for depth and stencil one image each
that is followed by one that does not suit. -/
def layeredImages : List ClearImage :=
  [⟨.color, .floats .two #v[.one, .one]⟩, ⟨.depth, .floats .one #v[.one]⟩,
    ⟨.stencil, .words .one #v[7]⟩, ⟨.color, .floats .one #v[.zero]⟩,
    ⟨.stencil, .ints .one #v[-1]⟩, ⟨.depth, .floats .two #v[.zero, .zero]⟩]

end Sample

/-- The color of the sample has its first channel from the last image, its second one from the first
image, and the others from nowhere. -/
theorem clear_takes_last_values_layered :
    Sample.surfaceFrame.boundTarget? Sample.surfaceState.cursor =
        some ⟨some Sample.surfaces.colorView, some Sample.surfaces.depthView⟩ ∧
    Sample.surfaceFrame.step Sample.surfaceState (.clearRenderTarget Sample.layeredImages) =
      { Sample.surfaceState with device := { Sample.surfaceRecorder with
          calls := #[.clearRenderView 3 #v[.zero, .one, .zero, .one],
            .clearDepthStencilView 1 (some .one) (some 7)] } } := by
  have htarget : Sample.surfaceFrame.boundTarget? Sample.surfaceState.cursor =
      some ⟨some Sample.surfaces.colorView, some Sample.surfaces.depthView⟩ := rfl
  refine ⟨htarget, ?_⟩
  obtain ⟨⟨color, depthStencil, hstep, hcolor, hchannels, hdepthStencil, hvalues⟩, _⟩ :=
    clear_takes_last_values Sample.surfaceFrame Sample.surfaceState htarget Sample.layeredImages
  obtain ⟨clear, rfl⟩ := Option.isSome_iff_exists.1 (hcolor.2 (by decide))
  obtain ⟨clearDepth, rfl⟩ := Option.isSome_iff_exists.1 (hdepthStencil.2 (by decide))
  obtain ⟨view, channels, hview, rfl, hlast⟩ := hchannels clear rfl
  obtain ⟨depthView, hdepthView, rfl⟩ := hvalues clearDepth rfl
  cases hview
  cases hdepthView
  have hchannels : channels = #v[.zero, .one, .zero, .one] := by
    apply Vector.ext
    intro index hindex
    exact (hlast ⟨index, hindex⟩).trans (by revert index; decide)
  rw [hstep, hchannels]
  rfl

end FramePlan
