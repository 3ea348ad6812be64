import FramePlan.Device.Recorder
import FramePlan.Engine

/-!
# A sample

A small pipeline with a scene for it. Its program takes positions, gives a uniform in both stages, and
is drawn with objects and with stream data. Some of its commands come before anything is bound for them.

* `Sample.pipeline`, `Sample.config`, `Sample.recorder`: what is compiled, and by whom.
* `Sample.scene`: the objects that are rendered.
* `Sample.callsBeforeDraw`, `Sample.report`: what comes of it on a recorder.
-/

namespace FramePlan

namespace Sample

/-- Takes positions that it does not use, and gives a uniform. -/
def vertexShader : String :=
  "@group(0)@binding(0)var<uniform>a:vec4f;" ++
  "@vertex fn v(@location(0)p:vec4f)->@builtin(position)vec4f\x7breturn a;\x7d"

/-- Gives a uniform, at the slot where the vertex stage has its own. -/
def fragmentShader : String :=
  "@group(0)@binding(0)var<uniform>b:vec4f;" ++
  "@fragment fn f()->@location(0)vec4f\x7breturn b;\x7d"

def vector : InputType := .vector .float .four

def zeros : Value := .floats .four (.replicate 4 .zero)

def ones : Value := .floats .four (.replicate 4 .one)

/-- A program whose uniforms share a slot. -/
def program : Program where
  uniforms := .ofList [("a", vector), ("b", vector)]
  streams := .ofList [("p", ⟨"position", vector⟩)]
  textures := .empty
  vertexShader := vertexShader
  geometryShader := none
  fragmentShader := fragmentShader

def slot (name : String) : Slot := ⟨name, .empty, .empty, .triangles, [0]⟩

def corners : ArrayValue := .floats (List.replicate 12 .one)

def triangle : StreamData :=
  ⟨.ofList [("position", corners)], .ofList [("position", vector)], .triangles, [0]⟩

/-- Commands that come too early, among others that do not. -/
def commands : List Command :=
  [.renderStream 0, .clearRenderTarget [], .setSamplerUniform "diffuse" 0, .setProgram 0,
    .renderSlot 0, .setRenderTarget 0, .clearRenderTarget [], .renderSlot 0, .renderSlot 1,
    .renderStream 0, .renderSlot 2, .setSamplerUniform "diffuse" 0]

def pipeline : Pipeline where
  info := ""
  backend := .webGpu
  textures := []
  targets := [⟨[⟨.color, none⟩, ⟨.depth, none⟩]⟩]
  programs := [program]
  slots := [slot "objects", slot "bare", slot "nothing"]
  streams := [triangle]
  commands := commands

/-- Settings under which a uniform without a value is zero. -/
def config : Config :=
  { vertexEntryPoint := "v", fragmentEntryPoint := "f", unboundUniforms := .zero }

/-- A recorder on which nothing has happened. -/
def recorder : Recorder := { backend := .webGpu }

variable {Handle : Type} (handle : Handle)

/-- A stream that suits the program. -/
def stream : Stream Handle := ⟨vector, ⟨handle, BufferArray.layout 0 [corners]⟩, 0, true⟩

/-- An object that can be drawn. -/
def object : Object Handle where
  primitive := .triangleList
  vertexCount := 3
  uniforms := .ofList [("a", ones)]
  streams := .ofList [("position", stream handle)]

/-- An object that can be drawn with one that is turned off, and an object without streams. -/
def scene : Scene Handle where
  objects := .ofList [("objects", [object handle, { object handle with enabled := false }]),
    ("bare", [{ object handle with streams := .empty }])]
  screenWidth := 8
  screenHeight := 8

/-- The buffer of the objects on a recorder. -/
def recordedBuffer : RecordedBuffer := ⟨0, corners.bytes⟩

/-- What a recorder is called for to bind a drawable of the sample: both uniforms at their one slot, and
the positions in a buffer. -/
def bindingCalls (first second : Value) (buffer : Nat) : List DeviceCall :=
  [.setUniform ⟨0, 0⟩ first, .setUniform ⟨0, 0⟩ second,
    .setVertexStream 0 buffer 0 ⟨.float, .four⟩ .perVertex]

/-- The calls of a frame before its last draw, that of the stream data. -/
def callsBeforeDraw : List DeviceCall :=
  .setShaders 4 5 6 :: bindingCalls ones zeros 0 ++ .draw .triangleList 3 ::
    .setRenderTargets (some 3) (some 1) :: .setViewport ⟨0, 0, 8, 8⟩ ::
    bindingCalls ones zeros 0 ++ .draw .triangleList 3 ::
    .setUniform ⟨0, 0⟩ ones :: .setUniform ⟨0, 0⟩ zeros :: bindingCalls zeros zeros 7

/-- The report of a frame: before a target is bound the draw of an object is refused, and the object
without streams is not drawn. -/
def report : FrameReport where
  drawCalls := 2
  skippedCommands := 4
  errors := [.device (.incompleteState .renderTarget), .binding (.missingStream "position"),
    .binding (.unknownSampler "diffuse")]

end Sample

end FramePlan
