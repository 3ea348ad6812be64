import FramePlan.Document.Json
import FramePlan.Document.Yaml
import FramePlan.Pipeline.Decode

/-!
# Loading pipeline descriptions

A description is a JSON or a YAML document. The format is taken from the name of a file: YAML where it ends in
`.yaml` or `.yml`, and JSON everywhere else.

`Pipeline.ofJson`, `Pipeline.ofYaml` and `Pipeline.ofFile` are `from_json`, `from_yaml` and
`from_file`; a description error is an `IrError`.
-/

namespace FramePlan

inductive DocumentFormat where
  | json
  | yaml
deriving DecidableEq, Repr

/-- What follows the last point of a file name, unless the name starts with it. -/
def extension? (fileName : String) : Option String :=
  let characters := fileName.toList
  let ending := (characters.reverse.takeWhile (· ≠ '.')).reverse
  if ending.length + 1 < characters.length then some (String.ofList ending) else none

/-- The format that the extension of a file name gives. -/
def DocumentFormat.ofFileName (fileName : String) : DocumentFormat :=
  if extension? fileName = some "yaml" ∨ extension? fileName = some "yml" then .yaml else .json

inductive DescriptionError where
  | unreadable
  | json (error : LoadError)
  | yaml
deriving DecidableEq, Repr

namespace Pipeline

def ofJson (text : String) : Except DescriptionError Pipeline :=
  (Json.load Pipeline.decode text).mapError .json

def ofYaml (text : String) : Except DescriptionError Pipeline :=
  match Yaml.read text with
  | none => .error .yaml
  | some root => (Pipeline.decode root).mapError fun _ => .yaml

/-- Loads the description in a file, given the name and the contents, which are missing if the file
cannot be read. -/
def ofFile (fileName : String) (contents : Option String) : Except DescriptionError Pipeline :=
  match contents with
  | none => .error .unreadable
  | some text =>
    match DocumentFormat.ofFileName fileName with
    | .json => ofJson text
    | .yaml => ofYaml text

end Pipeline

end FramePlan
