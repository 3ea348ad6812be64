import FramePlan.Proofs.Device.Requests
import Mathlib.Algebra.Order.Ring.Nat

/-!
# Which images there are

An image has room for its levels if halving the longer side for each of them but the first leaves a
texel. This is counted in binary digits, which are what the leading zeros of a word leave of it. A
recorder looks at the sides first and then at the levels; whatever it finds, the call is in its log, and an
image that it refuses leaves no other trace.

* `ImageDescriptor.levels_eq_sub_clz`: the number of levels by leading zeros.
* `ImageDescriptor.isAcceptable_iff`: the checks let just the acceptable images through.
* `images_accepted_exactly`: what a recorder makes of images and of textures.
-/

namespace FramePlan

theorem one_le_toNat_iff {x : UInt32} : 1 ≤ x.toNat ↔ x ≠ 0 := by
  rw [← UInt32.pos_iff_ne_zero, UInt32.lt_iff_toNat_lt]
  exact Iff.rfl

namespace ImageDescriptor

/-- An image that a device can hold: its sides have at least a texel and at most as many as the device
allows, and its last level keeps a texel along the longer side. -/
structure IsAcceptable (descriptor : ImageDescriptor) (greatest : UInt32) : Prop where
  width : 1 ≤ descriptor.width.toNat ∧ descriptor.width.toNat ≤ greatest.toNat
  height : 1 ≤ descriptor.height.toNat ∧ descriptor.height.toNat ≤ greatest.toNat
  levels : 1 ≤ descriptor.mipLevels.toNat
  lastLevel : 2 ^ (descriptor.mipLevels.toNat - 1) ≤
    max descriptor.width.toNat descriptor.height.toNat

/-- The binary digits of a length are those that its leading zeros leave of a word. -/
theorem levels_eq_sub_clz (length : UInt32) :
    levels length = 32 - length.toBitVec.clz.toNat := by
  by_cases hzero : length = 0
  · have hclz : length.toBitVec.clz = (32 : Nat) :=
      BitVec.clz_eq_iff_eq_zero.2 (by rw [hzero]; rfl)
    rw [levels, if_pos hzero, hclz]
    rfl
  · have hne : length.toBitVec ≠ 0#32 := fun hbits => hzero (UInt32.toBitVec_inj.1 hbits)
    have hpos : length.toNat ≠ 0 := fun hnat => hzero (UInt32.toNat_inj.1 hnat)
    have hzeros : length.toBitVec.clz.toNat < 32 := BitVec.clz_lt_iff_ne_zero.2 hne
    have hlow : 2 ^ (31 - length.toBitVec.clz.toNat) ≤ length.toNat :=
      BitVec.two_pow_sub_clz_le_toNat_of_ne_zero (by decide) hne
    have hdigits : 31 - length.toBitVec.clz.toNat + 1 = 32 - length.toBitVec.clz.toNat := by omega
    have hhigh : length.toNat < 2 ^ (31 - length.toBitVec.clz.toNat + 1) := by
      rw [hdigits]
      exact BitVec.toNat_lt_two_pow_sub_clz
    rw [levels, if_neg hzero, (Nat.log2_eq_iff hpos).2 ⟨hlow, hhigh⟩, hdigits]

theorem fits_iff {descriptor : ImageDescriptor} {greatest : UInt32} :
    descriptor.fits greatest = true ↔
      (1 ≤ descriptor.width.toNat ∧ descriptor.width.toNat ≤ greatest.toNat) ∧
        1 ≤ descriptor.height.toNat ∧ descriptor.height.toNat ≤ greatest.toNat := by
  simp only [fits, Bool.and_eq_true, bne_iff_ne, decide_eq_true_eq, UInt32.le_iff_toNat_le,
    one_le_toNat_iff]
  constructor
  · rintro ⟨⟨⟨hwidth, hheight⟩, hwide⟩, hhigh⟩
    exact ⟨⟨hwidth, hwide⟩, hheight, hhigh⟩
  · rintro ⟨⟨hwidth, hwide⟩, hheight, hhigh⟩
    exact ⟨⟨⟨hwidth, hheight⟩, hwide⟩, hhigh⟩

/-- The longer side of an image that fits is not empty. -/
theorem longer_ne_zero {descriptor : ImageDescriptor} {greatest : UInt32}
    (hfits : descriptor.fits greatest = true) : max descriptor.width descriptor.height ≠ 0 := by
  obtain ⟨⟨hwidth, _⟩, _⟩ := fits_iff.1 hfits
  rw [← one_le_toNat_iff, UInt32.toNat_max]
  exact Nat.le_trans hwidth (Nat.le_max_left _ _)

theorem isAcceptable_iff {descriptor : ImageDescriptor} {greatest : UInt32} :
    descriptor.IsAcceptable greatest ↔
      descriptor.fits greatest = true ∧ descriptor.hasRoom = true := by
  constructor
  · rintro ⟨hwidth, hheight, hlevels, hlast⟩
    have hfits := fits_iff.2 ⟨hwidth, hheight⟩
    refine ⟨hfits, (hasRoom_iff descriptor (longer_ne_zero hfits)).2 ⟨hlevels, ?_⟩⟩
    rw [Nat.one_shiftLeft, UInt32.toNat_max]
    exact hlast
  · rintro ⟨hfits, hroom⟩
    obtain ⟨hwidth, hheight⟩ := fits_iff.1 hfits
    obtain ⟨hlevels, hlast⟩ := (hasRoom_iff descriptor (longer_ne_zero hfits)).1 hroom
    rw [Nat.one_shiftLeft, UInt32.toNat_max] at hlast
    exact ⟨hwidth, hheight, hlevels, hlast⟩

end ImageDescriptor

namespace Recorder

/-- An image is created just when it fits and there is room for its levels. -/
theorem isOk_createImage (descriptor : ImageDescriptor) (recorder : Recorder) :
    (createImage descriptor recorder).1.isOk =
      (descriptor.fits recorder.greatestSide && descriptor.hasRoom) := by
  rw [createImage, imageFault?]
  cases descriptor.fits recorder.greatestSide with
  | false => rfl
  | true =>
    cases descriptor.hasRoom with
    | false => rfl
    | true => rfl

theorem isOk_createImage_iff (descriptor : ImageDescriptor) (recorder : Recorder) :
    (createImage descriptor recorder).1.isOk = true ↔
      descriptor.IsAcceptable recorder.greatestSide := by
  rw [isOk_createImage, Bool.and_eq_true_iff, ImageDescriptor.isAcceptable_iff]

theorem isOk_createImage_eq_isNone (descriptor : ImageDescriptor) (recorder : Recorder) :
    (createImage descriptor recorder).1.isOk =
      (imageFault? recorder.greatestSide descriptor).isNone := by
  rw [(asks_createImage rfl descriptor).isOk_eq, imageRequest, Request.firstFault?_cons]
  cases imageFault? recorder.greatestSide descriptor <;> rfl

theorem calls_createImage (descriptor : ImageDescriptor) (recorder : Recorder) :
    (createImage descriptor recorder).2.calls = recorder.calls.push (.createImage descriptor) := by
  rw [(asks_createImage rfl descriptor).recorder_eq, imageRequest]
  cases imageFault? recorder.greatestSide descriptor <;> rfl

theorem createImage_of_error {descriptor : ImageDescriptor} {recorder : Recorder}
    {error : DeviceError} (herror : (createImage descriptor recorder).1 = .error error) :
    (createImage descriptor recorder).2 = recorder.record (.createImage descriptor) := by
  have hrefused := isOk_createImage_eq_isNone descriptor recorder
  rw [herror] at hrefused
  rw [(asks_createImage rfl descriptor).recorder_eq, imageRequest]
  cases hfault : imageFault? recorder.greatestSide descriptor with
  | some fault => rfl
  | none =>
    rw [hfault] at hrefused
    cases hrefused

theorem isOk_compileTexture (texture : TextureDescriptor) (recorder : Recorder) :
    ((compileTexture texture :
        Attempt Recorder DeviceError (CompiledTexture Recorder.handles)) recorder).1.isOk =
      (createImage texture.image recorder).1.isOk := by
  rw [(asks_compileTexture rfl texture).isOk_eq, isOk_createImage_eq_isNone, imageRequest,
    Request.firstFault?_cons]
  cases imageFault? recorder.greatestSide texture.image <;> rfl

/-- The sampler of a texture is asked for behind its image, if there is one. -/
theorem calls_compileTexture (texture : TextureDescriptor) (recorder : Recorder) :
    ((compileTexture texture :
        Attempt Recorder DeviceError (CompiledTexture Recorder.handles)) recorder).2.calls =
      recorder.calls ++ (DeviceCall.createImage texture.image ::
        if (createImage texture.image recorder).1.isOk = true
        then [DeviceCall.createSampler texture.sampler] else []) := by
  rw [(asks_compileTexture rfl texture).recorder_eq, isOk_createImage_eq_isNone, imageRequest]
  cases imageFault? recorder.greatestSide texture.image with
  | some fault => rfl
  | none => rfl

end Recorder

/-- As many levels are asked for as a texture numbers, and one where it numbers them the wrong way
round. -/
theorem TextureDescriptor.mipLevels_image {texture : TextureDescriptor}
    (hcount : (texture.maxLevel.toNat : Int) - texture.baseLevel.toNat + 1 < UInt32.size) :
    (texture.image.mipLevels.toNat : Int) =
      max ((texture.maxLevel.toNat : Int) - texture.baseLevel.toNat) 0 + 1 := by
  have hsize : texture.maxLevel.toNat - texture.baseLevel.toNat + 1 < UInt32.size := by
    have : (1 : Int) < UInt32.size := by decide
    omega
  have hlevels : texture.image.mipLevels.toNat =
      texture.maxLevel.toNat - texture.baseLevel.toNat + 1 := UInt32.toNat_ofNat_of_lt hsize
  rw [hlevels]
  omega

/-- A recorder creates just the images whose sides are between one and its limit and whose last level,
of at least one, keeps a texel along the longer side; the limit on the levels is what the leading zeros
leave of a word. In any case the call is all that is added to the log, and where the image is refused,
nothing else changes. A texture whose levels can be counted asks for as many as it numbers, or for one, and
is compiled just if this image is created; its sampler is asked for behind it. -/
theorem images_accepted_exactly (recorder : Recorder) :
    (∀ descriptor : ImageDescriptor,
      ((Recorder.createImage descriptor recorder).1.isOk = true ↔
        descriptor.IsAcceptable recorder.greatestSide) ∧
      (Recorder.createImage descriptor recorder).2.calls =
        recorder.calls.push (.createImage descriptor) ∧
      ∀ error, (Recorder.createImage descriptor recorder).1 = .error error →
        (Recorder.createImage descriptor recorder).2 =
          recorder.record (.createImage descriptor)) ∧
    (∀ length, ImageDescriptor.levels length = 32 - length.toBitVec.clz.toNat) ∧
    ∀ texture : TextureDescriptor,
      (texture.maxLevel.toNat : Int) - texture.baseLevel.toNat + 1 < UInt32.size →
      (texture.image.mipLevels.toNat : Int) =
        max ((texture.maxLevel.toNat : Int) - texture.baseLevel.toNat) 0 + 1 ∧
      ((compileTexture texture :
          Attempt Recorder DeviceError (CompiledTexture Recorder.handles)) recorder).1.isOk =
        (Recorder.createImage texture.image recorder).1.isOk ∧
      ((compileTexture texture :
          Attempt Recorder DeviceError (CompiledTexture Recorder.handles)) recorder).2.calls =
        recorder.calls ++ (DeviceCall.createImage texture.image ::
          if (Recorder.createImage texture.image recorder).1.isOk = true
          then [DeviceCall.createSampler texture.sampler] else []) := by
  refine ⟨fun descriptor => ⟨Recorder.isOk_createImage_iff descriptor recorder,
    Recorder.calls_createImage descriptor recorder, fun _ => Recorder.createImage_of_error⟩,
    ImageDescriptor.levels_eq_sub_clz, fun texture hcount =>
      ⟨TextureDescriptor.mipLevels_image hcount, Recorder.isOk_compileTexture texture recorder,
        Recorder.calls_compileTexture texture recorder⟩⟩

namespace Sample

/-- A texture that is one texel high and whose levels are numbered the wrong way round. -/
def narrow : TextureDescriptor where
  textureType := .texture2D
  width := 256
  height := 1
  semantic := .color
  sampler := {}
  baseLevel := 3
  maxLevel := 1

/-- A recorder for which the longer side of this texture is the greatest. -/
def strict : Recorder := { backend := .webGpu, greatestSide := 256 }

end Sample

/-- Nine levels halve the longer side down to one texel. A tenth is refused, and the texture asks for
one. -/
theorem images_accepted_exactly_narrow :
    (Recorder.createImage { Sample.narrow.image with mipLevels := 9 } Sample.strict).1.isOk = true ∧
    (Recorder.createImage { Sample.narrow.image with mipLevels := 10 } Sample.strict).1.isOk =
      false ∧
    (Sample.narrow.maxLevel.toNat : Int) - Sample.narrow.baseLevel.toNat + 1 < UInt32.size ∧
    (Sample.narrow.image.mipLevels.toNat : Int) = 1 ∧
    ((compileTexture Sample.narrow :
        Attempt Recorder DeviceError (CompiledTexture Recorder.handles)) Sample.strict).1.isOk =
      true := by
  obtain ⟨hcreated, _, hcompiled⟩ := images_accepted_exactly Sample.strict
  have hcount :
      (Sample.narrow.maxLevel.toNat : Int) - Sample.narrow.baseLevel.toNat + 1 < UInt32.size := by
    decide
  obtain ⟨hlevels, hmade, _⟩ := hcompiled Sample.narrow hcount
  refine ⟨(hcreated _).1.2 ⟨by decide, by decide, by decide, by decide⟩, ?_, hcount, hlevels,
    hmade.trans ((hcreated _).1.2 ⟨by decide, by decide, by decide, by decide⟩)⟩
  rw [Bool.eq_false_iff]
  intro htenth
  exact absurd ((hcreated _).1.1 htenth).lastLevel (by decide)

end FramePlan
