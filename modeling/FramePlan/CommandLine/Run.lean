import FramePlan.CommandLine.Arguments
import FramePlan.Engine
import FramePlan.Gpu.Draw
import FramePlan.Pipeline.Load

/-!
# A run of the renderer

A run loads the pipeline that is named, compiles it for a GPU at the given size and renders one frame
without objects. Its output is decided here, so that the program around it only reads a file and
prints lines.

`run` is the renderer's `main`, without its input and output.
-/

namespace FramePlan

def LoadError.message : LoadError → String
  | .malformed => "the text is malformed"
  | .truncated => "the text ends too early"
  | .mismatch cause => cause.message

def DescriptionError.message : DescriptionError → String
  | .unreadable => "the file cannot be read"
  | .json error => s!"not a pipeline in JSON: {error.message}"
  | .yaml => "not a pipeline in YAML"

namespace CommandLine

inductive RunError where
  | usage (error : UsageError)
  | description (error : DescriptionError)
  | compile (error : CompileError)
deriving DecidableEq, Repr

/-- The wording of a run without a frame. -/
def RunError.message : RunError → String
  | .usage error => s!"the arguments cannot be used: {error.name}"
  | .description error => error.message
  | .compile error => error.message

/-- The status of a run without a frame: zero if only help or the version is asked for. -/
def RunError.status : RunError → UInt32
  | .usage .displayHelp | .usage .displayVersion => 0
  | .usage _ => 2
  | .description _ | .compile _ => 1

def Arguments.config (arguments : Arguments) : Config :=
  { Config.default with
    vertexEntryPoint := arguments.vertexEntry
    fragmentEntryPoint := arguments.fragmentEntry
    unboundUniforms := if arguments.zeroUnbound then .zero else .skip }

/-- The scene that arguments describe: their uniforms and no object. Of two uniforms with one name
the later one counts. -/
def Arguments.scene (arguments : Arguments) : Scene GpuBuffer :=
  arguments.uniforms.foldl (fun scene (name, value) => scene.setUniform name value)
    { screenWidth := arguments.width, screenHeight := arguments.height }

/-- Renders one frame, given the contents of the pipeline file, which are missing if the file cannot
be read. -/
def run (arguments : Arguments) (contents : Option String) : Except RunError FrameReport := do
  let pipeline ← (Pipeline.ofFile arguments.pipeline contents).mapError .description
  let compile : Attempt Gpu CompileError (CompiledPipeline Gpu.handles) :=
    CompiledPipeline.compile pipeline arguments.width arguments.height arguments.config
  match compile.run.run {} with
  | (.error error, _) => throw (.compile error)
  | (.ok compiled, gpu) => return (compiled.render (some arguments.scene) gpu).1

def summary (report : FrameReport) : String :=
  s!"Frame finished: {report.drawCalls} draws, {report.skippedCommands} skipped commands, " ++
    s!"{report.errors.length} errors"

end CommandLine

end FramePlan
