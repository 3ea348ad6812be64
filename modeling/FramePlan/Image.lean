import FramePlan.Value

/-!
# Images

The images that a device is asked for: a rectangle of texels with mip levels. An image has room for
as many levels as its longer side can be halved before nothing is left of it.

`ImageDescriptor`, `ImageFormat` and `ImageUsage` are the engine's types of these names, and
`levels` is the limit in `create_image` of its `RecordingDevice`.
-/

namespace FramePlan

/-- What a texel is. -/
inductive ImageFormat where
  /-- Four floats. -/
  | color
  /-- One float. -/
  | depth
deriving DecidableEq, Repr

namespace ImageFormat

def all : List ImageFormat := [.color, .depth]

def name : ImageFormat → String
  | .color => "Rgba32Float"
  | .depth => "Depth32Float"

end ImageFormat

/-- How an image is written. -/
inductive ImageUsage where
  | renderTarget
  | depthStencil
deriving DecidableEq, Repr

namespace ImageUsage

def all : List ImageUsage := [.renderTarget, .depthStencil]

def name : ImageUsage → String
  | .renderTarget => "RenderTarget"
  | .depthStencil => "DepthStencil"

end ImageUsage

/-- An image to be created. -/
structure ImageDescriptor where
  width : UInt32
  height : UInt32
  mipLevels : UInt32
  format : ImageFormat
  usage : ImageUsage
deriving DecidableEq, Repr

namespace ImageDescriptor

/-- Whether both sides are between one and a greatest length. -/
def fits (descriptor : ImageDescriptor) (greatest : UInt32) : Bool :=
  descriptor.width != 0 && descriptor.height != 0 && descriptor.width ≤ greatest &&
    descriptor.height ≤ greatest

/-- The number of binary digits of a length: the levels of an image whose longer side it is. -/
def levels (length : UInt32) : Nat := if length = 0 then 0 else length.toNat.log2 + 1

/-- Whether there is at least one level and every level keeps a texel along the longer side. -/
def hasRoom (descriptor : ImageDescriptor) : Bool :=
  descriptor.mipLevels != 0 &&
    descriptor.mipLevels.toNat ≤ levels (max descriptor.width descriptor.height)

/-- There is room for a level count just when the last level keeps a texel. -/
theorem hasRoom_iff (descriptor : ImageDescriptor)
    (hlength : max descriptor.width descriptor.height ≠ 0) :
    descriptor.hasRoom = true ↔
      1 ≤ descriptor.mipLevels.toNat ∧
        1 <<< (descriptor.mipLevels.toNat - 1) ≤ (max descriptor.width descriptor.height).toNat := by
  have hpos : (max descriptor.width descriptor.height).toNat ≠ 0 := by
    intro h
    exact hlength (UInt32.toNat_inj.1 (by simpa using h))
  have hlevels : ¬descriptor.mipLevels = 0 ↔ 1 ≤ descriptor.mipLevels.toNat := by
    rw [Nat.one_le_iff_ne_zero]
    exact not_congr ⟨fun h => by simp [h], fun h => UInt32.toNat_inj.1 (by simpa using h)⟩
  rw [Nat.one_shiftLeft, ← Nat.le_log2 hpos]
  simp only [hasRoom, levels, Bool.and_eq_true, bne_iff_ne, ne_eq, decide_eq_true_eq, if_neg hlength]
  rw [hlevels]
  omega

end ImageDescriptor

end FramePlan
