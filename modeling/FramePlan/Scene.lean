import FramePlan.Binding.Error
import FramePlan.Device

/-!
# Scenes

What a host brings to a frame: objects grouped under names, uniform values and the size of the
screen. The vertex data of objects is in device buffers that hold several arrays packed back to back;
a stream is a typed view of one of these arrays.

`BufferArray`, `Buffer`, `Stream` and `Object` are the engine's types of these names, and `Scene` is
its `PipelineInput`.
-/

namespace FramePlan

/-- The place of one array inside a buffer. -/
structure BufferArray where
  kind : Scalar
  offset : Nat
  length : Nat
deriving DecidableEq, Repr

namespace BufferArray

/-- The places of arrays that are packed one after the other from an offset on. -/
def layout (offset : Nat) : List ArrayValue → List BufferArray
  | [] => []
  | array :: rest =>
    ⟨array.kind, offset, array.length⟩ :: layout (offset + array.bytes.length) rest

@[simp]
theorem length_layout (offset : Nat) (arrays : List ArrayValue) :
    (layout offset arrays).length = arrays.length := by
  induction arrays generalizing offset with
  | nil => rfl
  | cons array rest ih => simp [layout, ih]

end BufferArray

/-- A device buffer and the arrays in it. -/
structure Buffer (Handle : Type) where
  handle : Handle
  arrays : List BufferArray
deriving Repr

def Buffer.create {State : Type} {handles : Handles} [Device State handles]
    (arrays : List ArrayValue) : Attempt State DeviceError (Buffer handles.Buffer) := do
  let handle ← Device.createVertexBuffer (arrays.flatMap ArrayValue.bytes)
  return ⟨handle, BufferArray.layout 0 arrays⟩

/-- A typed view of one array of a buffer. -/
structure Stream (Handle : Type) where
  type : InputType
  buffer : Buffer Handle
  index : Nat
  /-- Whether the stream advances with every vertex. -/
  isArray : Bool
deriving Repr

namespace Stream

variable {Handle : Type}

/-- The array that the stream views. -/
def array? (stream : Stream Handle) : Option BufferArray := stream.buffer.arrays[stream.index]?

/-- The number of elements; a type without components counts scalars. -/
def length (stream : Stream Handle) : Nat :=
  match stream.array? with
  | some array => array.length / max stream.type.componentCount 1
  | none => 0

def isEmpty (stream : Stream Handle) : Bool := stream.length == 0

/-- How the stream is bound: its type has to have a format, its array has to be there, and the
array has to hold what the format reads. -/
def binding (stream : Stream Handle) (name : String) : Except BindingError (StreamBinding Handle) :=
  match VertexFormat.ofInputType? stream.type with
  | none => .error (.unsupportedStreamType name stream.type)
  | some format =>
    match stream.array? with
    | none => .error (.missingStream name)
    | some array =>
      if array.kind.feeds format then
        .ok ⟨stream.buffer.handle, array.offset, format,
          if stream.isArray then .perVertex else .perInstance⟩
      else .error (.streamArrayMismatch name stream.type array.kind)

end Stream

/-- Streams by name. -/
abbrev Streams (Handle : Type) := Table String (Stream Handle)

structure Object (Handle : Type) where
  enabled : Bool := true
  /-- Objects are drawn in ascending order. -/
  order : Int := 0
  primitive : Primitive
  vertexCount : UInt32
  uniforms : Table String Value := .empty
  streams : Streams Handle

/-- What a host brings to a frame. -/
structure Scene (Handle : Type) where
  objects : Table String (List (Object Handle)) := .empty
  uniforms : Table String Value := .empty
  screenWidth : UInt32
  screenHeight : UInt32

namespace Scene

variable {Handle : Type}

/-- Adds an object behind those that are already under a name. -/
def addObject (scene : Scene Handle) (name : String) (object : Object Handle) : Scene Handle :=
  { scene with objects :=
      scene.objects.insert name ((scene.objects.get? name).getD [] ++ [object]) }

def setUniform (scene : Scene Handle) (name : String) (value : Value) : Scene Handle :=
  { scene with uniforms := scene.uniforms.insert name value }

end Scene

end FramePlan
