import FramePlan.CommandLine.Run

/-!
# The renderer's program

Reads the arguments and the pipeline file, and prints the output of a run: progress and the summary of
the frame on the standard output, problems on the standard error.

The program is the renderer's `main`.
-/

namespace FramePlan.CommandLine

/-- The contents of a file, if it can be read as text. -/
def readContents (path : String) : IO (Option String) := do
  try
    return some (← IO.FS.readFile path)
  catch _ =>
    return none

end FramePlan.CommandLine

open FramePlan.CommandLine

/-- Renders one frame of the pipeline that the arguments name. -/
def main (words : List String) : IO UInt32 := do
  let stop (error : RunError) : IO UInt32 := do
    IO.eprintln error.message
    return error.status
  match parse words with
  | .error error => stop (.usage error)
  | .ok arguments =>
    IO.println s!"Loading pipeline from: {arguments.pipeline}"
    match run arguments (← readContents arguments.pipeline) with
    | .error error => stop error
    | .ok report =>
      IO.println (summary report)
      for error in report.errors do
        IO.eprintln s!"  {error.message}"
      return 0
