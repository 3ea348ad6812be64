import FramePlan.Value

/-!
# Commands and the render state they carry

A frame runs a list of commands in order. A command refers to a resource by its index in the
pipeline's list of that kind.

The types are `Command`, `ClearImage`, `RasterContext`, `AccumulationContext` and the types of their
fields, as the description format declares them.
-/

namespace FramePlan

inductive CullMode where
  | noCull
  | cullFront
  | cullBack
deriving DecidableEq, Repr

inductive FrontFace where
  | ccw
  | cw
deriving DecidableEq, Repr

/-- How a triangle is filled; lines and points carry their size. -/
inductive PolygonMode where
  | fill
  | line (width : Single)
  | point (size : Single)
deriving DecidableEq, Repr

inductive PolygonOffset where
  | noOffset
  | offset (factor units : Single)
deriving DecidableEq, Repr

inductive RasterContext where
  | point (size : Single)
  | line (width : Single)
  | triangle (cullMode : CullMode) (polygonMode : PolygonMode) (polygonOffset : PolygonOffset)
      (frontFace : FrontFace)
deriving DecidableEq, Repr

/-- Filled triangles, counter-clockwise in front, without culling and offset. -/
def RasterContext.default : RasterContext := .triangle .noCull .fill .noOffset .ccw

/-- How a stored value and a new one are compared. -/
inductive ComparisonFunction where
  | never
  | less
  | equal
  | lequal
  | greater
  | notequal
  | gequal
  | always
deriving DecidableEq, Repr

inductive BlendEquation where
  | funcAdd
  | funcSubtract
  | funcReverseSubtract
  | min
  | max
deriving DecidableEq, Repr

inductive BlendingFactor where
  | zero
  | one
  | srcColor
  | oneMinusSrcColor
  | dstColor
  | oneMinusDstColor
  | srcAlpha
  | oneMinusSrcAlpha
  | dstAlpha
  | oneMinusDstAlpha
  | constantColor
  | oneMinusConstantColor
  | srcAlphaSaturate
deriving DecidableEq, Repr

/-- Blending of the color channels or of alpha. -/
structure BlendComponent where
  equation : BlendEquation
  source : BlendingFactor
  destination : BlendingFactor
deriving DecidableEq, Repr

/-- Whether and how a fragment is blended with the target. -/
inductive Blending where
  | noBlending
  | blend (color alpha : BlendComponent)
deriving DecidableEq, Repr

/-- One operation applied to a fragment before it is written. -/
inductive FragmentOperation where
  | depth (function : ComparisonFunction) (write : Bool)
  | stencil (function : ComparisonFunction) (reference mask : UInt32)
  | color (blending : Blending) (mask : Vector Bool 4)
deriving DecidableEq, Repr

/-- The operations applied when writing into the bound target. -/
structure AccumulationContext where
  operations : List FragmentOperation
deriving DecidableEq, Repr

def AccumulationContext.default : AccumulationContext := ⟨[]⟩

/-- One request of a clear command. -/
structure ClearImage where
  semantic : ImageSemantic
  value : Value
deriving DecidableEq, Repr

/-- One instruction of a frame. -/
inductive Command where
  | setRasterContext (context : RasterContext)
  | setAccumulationContext (context : AccumulationContext)
  | setTexture (textureUnit : UInt32) (texture : Nat)
  | setProgram (program : Nat)
  | setRenderTarget (target : Nat)
  | clearRenderTarget (images : List ClearImage)
  /-- Points a sampler of the bound program at a texture unit. -/
  | setSamplerUniform (name : String) (textureUnit : UInt32)
  | renderSlot (slot : Nat)
  | renderStream (stream : Nat)
deriving DecidableEq, Repr

end FramePlan
