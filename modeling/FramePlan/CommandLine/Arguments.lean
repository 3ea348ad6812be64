import FramePlan.CommandLine.Uniform

/-!
# Arguments of the renderer

The command line names a pipeline file and an output file; options set the size, uniforms, entry
points and the picture to compare with.

Words are taken in order. A value that was met is only read when the next known argument, or the end,
settles it. So a word that is no argument at all is reported before a value that cannot be read.

`Arguments` is the renderer's `Args`, and `Arguments.parse` is the parser that `clap` derives for
it.
-/

namespace FramePlan.CommandLine

/-- Why a command line is refused, or what it asks for instead of a run. -/
inductive UsageError where
  | unknownArgument
  | tooManyValues
  | argumentConflict
  | invalidValue
  | valueValidation
  | missingRequiredArgument
  | displayHelp
  | displayVersion
deriving DecidableEq, Repr

def UsageError.name : UsageError → String
  | .unknownArgument => "UnknownArgument"
  | .tooManyValues => "TooManyValues"
  | .argumentConflict => "ArgumentConflict"
  | .invalidValue => "InvalidValue"
  | .valueValidation => "ValueValidation"
  | .missingRequiredArgument => "MissingRequiredArgument"
  | .displayHelp => "DisplayHelp"
  | .displayVersion => "DisplayVersion"

structure Arguments where
  pipeline : String
  output : String
  width : UInt32
  height : UInt32
  uniforms : List (String × Value)
  vertexEntry : String
  fragmentEntry : String
  zeroUnbound : Bool
  reference : Option String
  tolerance : Single
deriving DecidableEq, Repr

/-- The arguments that hold a value. -/
inductive Holder where
  | pipeline
  | output
  | width
  | height
  | uniform
  | vertexEntry
  | fragmentEntry
  | reference
  | tolerance
deriving DecidableEq, Repr

inductive Choice where
  | holder (holder : Holder)
  | zeroUnbound
  | help
  | version
deriving DecidableEq, Repr

def longOptions : List (String × Choice) :=
  [("width", .holder .width), ("height", .holder .height), ("uniform", .holder .uniform),
    ("vertex-entry", .holder .vertexEntry), ("fragment-entry", .holder .fragmentEntry),
    ("zero-unbound", .zeroUnbound), ("reference", .holder .reference),
    ("tolerance", .holder .tolerance), ("help", .help), ("version", .version)]

def shortOptions : List (Char × Choice) :=
  [('u', .holder .uniform), ('r', .holder .reference), ('h', .help), ('V', .version)]

/-- The arguments without a name, in their order. -/
def positional? : Nat → Option Holder
  | 0 => some .pipeline
  | 1 => some .output
  | _ => none

/-- The values read so far. -/
structure Given where
  pipeline : Option String := none
  output : Option String := none
  width : Option UInt32 := none
  height : Option UInt32 := none
  uniforms : List (String × Value) := []
  vertexEntry : Option String := none
  fragmentEntry : Option String := none
  zeroUnbound : Bool := false
  reference : Option String := none
  tolerance : Option Single := none
deriving DecidableEq, Repr

/-- Reads a length: digits with an optional sign, in the range of 32 bits. -/
def parseLength (text : String) : Except UsageError UInt32 :=
  let (negative, digits) := match text.toList with
    | '-' :: digits => (true, digits)
    | '+' :: digits => (false, digits)
    | digits => (false, digits)
  let length := Decimal.ofDigits digits
  if digits.isEmpty || !digits.all Char.isDigit || UInt32.size ≤ length || (negative && length != 0) then
    .error .valueValidation
  else .ok length.toUInt32

/-- Reads the path of a file, which is not empty. -/
def parsePath (text : String) : Except UsageError String :=
  if text.isEmpty then .error .invalidValue else .ok text

/-- Puts a value at its place unless another one is there. -/
def once {α : Type} (old : Option α) (new : Except UsageError α) : Except UsageError (Option α) :=
  if old.isSome then .error .argumentConflict else new.map some

namespace Given

/-- Reads the value of a holder. Only uniforms may be given more than once. -/
def store (given : Given) (holder : Holder) (text : String) : Except UsageError Given := do
  match holder with
  | .pipeline =>
    let path ← once given.pipeline (parsePath text)
    return { given with pipeline := path }
  | .output =>
    let path ← once given.output (parsePath text)
    return { given with output := path }
  | .width =>
    let length ← once given.width (parseLength text)
    return { given with width := length }
  | .height =>
    let length ← once given.height (parseLength text)
    return { given with height := length }
  | .uniform =>
    let entry ← (parseUniform text).mapError fun _ => .valueValidation
    return { given with uniforms := given.uniforms ++ [entry] }
  | .vertexEntry =>
    let name ← once given.vertexEntry (.ok text)
    return { given with vertexEntry := name }
  | .fragmentEntry =>
    let name ← once given.fragmentEntry (.ok text)
    return { given with fragmentEntry := name }
  | .reference =>
    let path ← once given.reference (parsePath text)
    return { given with reference := path }
  | .tolerance =>
    let number := (Single.parse text.toList).mapError fun _ => .valueValidation
    let tolerance ← once given.tolerance number
    return { given with tolerance }

/-- Fills in what was not given. Both files have to be named. -/
def complete (given : Given) : Except UsageError Arguments :=
  match given.pipeline, given.output with
  | some pipeline, some output => .ok
    { pipeline, output
      width := given.width.getD 256
      height := given.height.getD 256
      uniforms := given.uniforms
      vertexEntry := given.vertexEntry.getD "vs_main"
      fragmentEntry := given.fragmentEntry.getD "fs_main"
      zeroUnbound := given.zeroUnbound
      reference := given.reference
      tolerance := given.tolerance.getD ⟨0x3b83126f⟩ }
  | _, _ => .error .missingRequiredArgument

end Given

/-- How far a command line has been taken in. -/
structure Progress where
  given : Given := {}
  /-- The holder met last, with its value if that was met too. -/
  pending : Option (Holder × Option String) := none
  /-- The number of arguments without a name. -/
  positionals : Nat := 0
  /-- Whether every further word is an argument without a name. -/
  trailing : Bool := false
deriving DecidableEq, Repr

namespace Progress

/-- Reads the value of the pending holder, which has to have one. -/
def settle (progress : Progress) : Except UsageError Progress :=
  match progress.pending with
  | none => .ok progress
  | some (_, none) => .error .invalidValue
  | some (holder, some text) => do
    return { progress with given := ← progress.given.store holder text, pending := none }

/-- Takes in an argument without a name. -/
def takePositional (progress : Progress) (text : String) : Except UsageError Progress :=
  match positional? progress.positionals with
  | none => .error .unknownArgument
  | some holder => do
    let progress ← progress.settle
    return { progress with
      pending := some (holder, some text), positionals := progress.positionals + 1 }

/-- Takes in an option, with the value that is attached to it if there is one. -/
def takeOption (progress : Progress) (choice : Choice) (attached : Option String) :
    Except UsageError Progress := do
  let progress ← progress.settle
  match choice, attached with
  | .holder holder, some text =>
    return { progress with given := ← progress.given.store holder text }
  | .holder holder, none => return { progress with pending := some (holder, none) }
  | .help, _ => throw .displayHelp
  | .version, _ => throw .displayVersion
  | .zeroUnbound, _ =>
    if progress.given.zeroUnbound then throw .argumentConflict
    return { progress with given := { progress.given with zeroUnbound := true } }

/-- Takes in a long option, written behind two dashes, maybe with an equals sign and a value. -/
def takeLong (progress : Progress) (text : List Char) : Except UsageError Progress :=
  let attached := match text.dropWhile (· ≠ '=') with
    | [] => none
    | _ :: value => some (String.ofList value)
  match longOptions.lookup (String.ofList (text.takeWhile (· ≠ '='))) with
  | none => .error .unknownArgument
  | some (.holder holder) => progress.takeOption (.holder holder) attached
  | some choice =>
    if attached.isSome then .error .tooManyValues else progress.takeOption choice none

/-- Takes in a short option, maybe with a value behind it. -/
def takeShort (progress : Progress) (letter : Char) (rest : List Char) :
    Except UsageError Progress :=
  let attached := match rest with
    | [] => none
    | '=' :: value => some (String.ofList value)
    | value => some (String.ofList value)
  match shortOptions.lookup letter with
  | none => .error .unknownArgument
  | some choice => progress.takeOption choice attached

def take (progress : Progress) (word : String) : Except UsageError Progress :=
  if progress.trailing then progress.takePositional word
  else
    match word.toList with
    | ['-', '-'] => .ok { progress with trailing := true }
    | '-' :: '-' :: text => progress.takeLong text
    | '-' :: letter :: rest => progress.takeShort letter rest
    | _ =>
      match progress.pending with
      | some (holder, none) => .ok { progress with pending := some (holder, some word) }
      | _ => progress.takePositional word

end Progress

def parse (words : List String) : Except UsageError Arguments := do
  let progress ← words.foldlM Progress.take {}
  let progress ← progress.settle
  progress.given.complete

end FramePlan.CommandLine
