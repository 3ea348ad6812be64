import FramePlan.Pipeline

/-!
# Primitives

How the vertices of a draw are assembled. Devices draw fewer primitives than hosts may ask for, and
stream data is written with primitives of its own.

`Primitive` and `FetchPrimitive` are the engine's and the format's types, and
`FetchPrimitive.primitive?` is `primitive_for_fetch`.
-/

namespace FramePlan

inductive Primitive where
  | triangleStrip
  | triangleList
  | triangleFan
  | lineStrip
  | lineList
  | lineLoop
  | pointList
deriving DecidableEq, Repr

namespace Primitive

def all : List Primitive :=
  [.triangleStrip, .triangleList, .triangleFan, .lineStrip, .lineList, .lineLoop, .pointList]

def name : Primitive → String
  | .triangleStrip => "TriangleStrip"
  | .triangleList => "TriangleList"
  | .triangleFan => "TriangleFan"
  | .lineStrip => "LineStrip"
  | .lineList => "LineList"
  | .lineLoop => "LineLoop"
  | .pointList => "PointList"

end Primitive

/-- The primitive with which stream data is drawn; data with adjacency cannot be drawn. -/
def FetchPrimitive.primitive? : FetchPrimitive → Option Primitive
  | .points => some .pointList
  | .lines => some .lineList
  | .triangles => some .triangleList
  | .linesAdjacency | .trianglesAdjacency => none

end FramePlan
