import FramePlan.Pipeline

/-!
# Names of choices

Every choice in a pipeline description has a name, under which it is written and read. The lists
give the choices in the order in which a message enumerates them.

They are the names of the variants in the description format.
-/

namespace FramePlan

def ImageSemantic.all : List ImageSemantic :=
  [.depth, .stencil, .color]

def ImageSemantic.name : ImageSemantic → String
  | .depth => "Depth"
  | .stencil => "Stencil"
  | .color => "Color"

def CullMode.all : List CullMode :=
  [.noCull, .cullFront, .cullBack]

def CullMode.name : CullMode → String
  | .noCull => "NoCull"
  | .cullFront => "CullFront"
  | .cullBack => "CullBack"

def FrontFace.all : List FrontFace :=
  [.ccw, .cw]

def FrontFace.name : FrontFace → String
  | .ccw => "Ccw"
  | .cw => "Cw"

def ComparisonFunction.all : List ComparisonFunction :=
  [.never, .less, .equal, .lequal, .greater, .notequal, .gequal, .always]

def ComparisonFunction.name : ComparisonFunction → String
  | .never => "Never"
  | .less => "Less"
  | .equal => "Equal"
  | .lequal => "Lequal"
  | .greater => "Greater"
  | .notequal => "Notequal"
  | .gequal => "Gequal"
  | .always => "Always"

def BlendEquation.all : List BlendEquation :=
  [.funcAdd, .funcSubtract, .funcReverseSubtract, .min, .max]

def BlendEquation.name : BlendEquation → String
  | .funcAdd => "FuncAdd"
  | .funcSubtract => "FuncSubtract"
  | .funcReverseSubtract => "FuncReverseSubtract"
  | .min => "Min"
  | .max => "Max"

def BlendingFactor.all : List BlendingFactor :=
  [.zero, .one, .srcColor, .oneMinusSrcColor, .dstColor, .oneMinusDstColor, .srcAlpha,
    .oneMinusSrcAlpha, .dstAlpha, .oneMinusDstAlpha, .constantColor, .oneMinusConstantColor,
    .srcAlphaSaturate]

def BlendingFactor.name : BlendingFactor → String
  | .zero => "Zero"
  | .one => "One"
  | .srcColor => "SrcColor"
  | .oneMinusSrcColor => "OneMinusSrcColor"
  | .dstColor => "DstColor"
  | .oneMinusDstColor => "OneMinusDstColor"
  | .srcAlpha => "SrcAlpha"
  | .oneMinusSrcAlpha => "OneMinusSrcAlpha"
  | .dstAlpha => "DstAlpha"
  | .oneMinusDstAlpha => "OneMinusDstAlpha"
  | .constantColor => "ConstantColor"
  | .oneMinusConstantColor => "OneMinusConstantColor"
  | .srcAlphaSaturate => "SrcAlphaSaturate"

def Backend.all : List Backend :=
  [.webGL1, .openGL33, .directX11, .webGpu]

def TextureType.all : List TextureType :=
  [.texture2D]

def TextureType.name : TextureType → String
  | .texture2D => "Texture2D"

def EdgeMode.all : List EdgeMode :=
  [.repeating, .mirroredRepeat, .clampToEdge, .clampToBorder]

def EdgeMode.name : EdgeMode → String
  | .repeating => "Repeat"
  | .mirroredRepeat => "MirroredRepeat"
  | .clampToEdge => "ClampToEdge"
  | .clampToBorder => "ClampToBorder"

def Filter.all : List Filter :=
  [.nearest, .linear, .nearestMipmapNearest, .nearestMipmapLinear, .linearMipmapNearest,
    .linearMipmapLinear]

def Filter.name : Filter → String
  | .nearest => "Nearest"
  | .linear => "Linear"
  | .nearestMipmapNearest => "NearestMipmapNearest"
  | .nearestMipmapLinear => "NearestMipmapLinear"
  | .linearMipmapNearest => "LinearMipmapNearest"
  | .linearMipmapLinear => "LinearMipmapLinear"

def FetchPrimitive.all : List FetchPrimitive :=
  [.points, .lines, .triangles, .linesAdjacency, .trianglesAdjacency]

end FramePlan
