import FramePlan.Command
import FramePlan.Table

/-!
# Pipeline descriptions

A pipeline lists the resources of a frame (textures, render targets, programs, slots for host
objects, vertex data of its own) and the commands that use them. It is independent of the device on
which it will run.

The types are those of the description format, under their names there; `mipLevelCount` and
`textureIndex?` are `mip_level_count` and `texture_index`.
-/

namespace FramePlan

/-- The kind of device that a pipeline was made for. -/
inductive Backend where
  | webGL1
  | openGL33
  | directX11
  | webGpu
deriving DecidableEq, Repr

def Backend.name : Backend → String
  | .webGL1 => "WebGL1"
  | .openGL33 => "OpenGL33"
  | .directX11 => "DirectX11"
  | .webGpu => "WebGpu"

inductive TextureType where
  | texture2D
deriving DecidableEq, Repr

inductive EdgeMode where
  | repeating
  | mirroredRepeat
  | clampToEdge
  | clampToBorder
deriving DecidableEq, Repr

/-- A texture filter, possibly with a filter between mip levels. -/
inductive Filter where
  | nearest
  | linear
  | nearestMipmapNearest
  | nearestMipmapLinear
  | linearMipmapNearest
  | linearMipmapLinear
deriving DecidableEq, Repr

structure SamplerDescriptor where
  wrapS : EdgeMode := .clampToEdge
  wrapT : Option EdgeMode := none
  minFilter : Filter := .linear
  magFilter : Filter := .linear
  minLod : Option Single := none
  maxLod : Option Single := none
  lodBias : Single := .zero
  compareFunc : Option ComparisonFunction := none
deriving DecidableEq, Repr

/-- A texture that the pipeline allocates. Mip levels are numbered inclusively. -/
structure TextureDescriptor where
  textureType : TextureType
  width : UInt32
  height : UInt32
  semantic : ImageSemantic
  sampler : SamplerDescriptor
  baseLevel : UInt32
  maxLevel : UInt32
deriving DecidableEq, Repr

/-- The number of mip levels to allocate: those from the base level to the greatest one, and one level if
the base is above it. The count is a word, so for the levels from 0 to 4294967295 it wraps to 0. -/
def TextureDescriptor.mipLevelCount (descriptor : TextureDescriptor) : UInt32 :=
  (descriptor.maxLevel.toNat - descriptor.baseLevel.toNat + 1).toUInt32

/-- Where an item of a render target writes to. -/
inductive ImageRef where
  | textureImage (texture : Nat) (mipLevel : UInt32) (layer : Option UInt32)
  | framebuffer (semantic : ImageSemantic)
deriving DecidableEq, Repr

/-- One attachment of a render target. -/
structure TargetItem where
  semantic : ImageSemantic
  reference : Option ImageRef
deriving DecidableEq, Repr

/-- The index of the texture that an item writes to, unless it writes to the back buffer. -/
def TargetItem.textureIndex? (item : TargetItem) : Option Nat :=
  match item.reference with
  | some (.textureImage texture _ _) => some texture
  | some (.framebuffer _) | none => none

structure RenderTarget where
  items : List TargetItem
deriving DecidableEq, Repr

/-- A named, typed shader input. -/
structure Parameter where
  name : String
  type : InputType
deriving DecidableEq, Repr

/-- A shader program and the inputs that it declares by name. -/
structure Program where
  uniforms : Table String InputType
  streams : Table String Parameter
  textures : Table String InputType
  vertexShader : String
  geometryShader : Option String
  fragmentShader : String
deriving DecidableEq

inductive FetchPrimitive where
  | points
  | lines
  | triangles
  | linesAdjacency
  | trianglesAdjacency
deriving DecidableEq, Repr

def FetchPrimitive.name : FetchPrimitive → String
  | .points => "Points"
  | .lines => "Lines"
  | .triangles => "Triangles"
  | .linesAdjacency => "LinesAdjacency"
  | .trianglesAdjacency => "TrianglesAdjacency"

/-- A named group of host objects that are drawn together. -/
structure Slot where
  name : String
  streams : Table String InputType
  uniforms : Table String InputType
  primitive : FetchPrimitive
  programs : List Nat
deriving DecidableEq

/-- Vertex data that the pipeline owns. -/
structure StreamData where
  arrays : Table String ArrayValue
  types : Table String InputType
  primitive : FetchPrimitive
  programs : List Nat
deriving DecidableEq

/-- A complete description. -/
structure Pipeline where
  info : String
  backend : Backend
  textures : List TextureDescriptor
  targets : List RenderTarget
  programs : List Program
  slots : List Slot
  streams : List StreamData
  commands : List Command
deriving DecidableEq

end FramePlan
