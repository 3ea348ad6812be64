import FramePlan.Number.Decimal
import FramePlan.Text.Character
import FramePlan.Value

/-!
# Uniforms on the command line

A uniform is written `NAME=X`, `NAME=X,Y` and so on up to four numbers. The name ends at the first
equals sign; blanks around a number do not count.

`parseUniform` is the renderer's `parse_uniform`.
-/

namespace FramePlan.CommandLine

inductive UniformFault where
  | noEquals (text : String)
  /-- A piece, as it was written, is no number. -/
  | number (piece : String) (fault : NumberFault)
  | componentCount (name : String)
deriving DecidableEq, Repr

def UniformFault.message : UniformFault → String
  | .noEquals text => s!"expected NAME=VALUE, got '{text}'"
  | .number piece fault => s!"invalid number '{piece}': {fault.message}"
  | .componentCount name => s!"uniform '{name}' must have 1 to 4 components"

/-- The pieces between the marks; there is always one. -/
def splitAt (mark : Char) : List Char → List (List Char)
  | [] => [[]]
  | c :: rest =>
    if c = mark then [] :: splitAt mark rest
    else
      match splitAt mark rest with
      | [] => [[c]]
      | piece :: others => (c :: piece) :: others

def numberOf (piece : List Char) : Except UniformFault Single :=
  (Single.parse (Text.trim piece)).mapError (.number (String.ofList piece))

def valueOf? : List Single → Option Value
  | [x] => some (.floats .one #v[x])
  | [x, y] => some (.floats .two #v[x, y])
  | [x, y, z] => some (.floats .three #v[x, y, z])
  | [x, y, z, w] => some (.floats .four #v[x, y, z, w])
  | _ => none

/-- Reads a uniform: its name and its value. -/
def parseUniform (text : String) : Except UniformFault (String × Value) :=
  let characters := text.toList
  match characters.dropWhile (· ≠ '=') with
  | [] => .error (.noEquals text)
  | _ :: written => do
    let name := String.ofList (characters.takeWhile (· ≠ '='))
    let numbers ← (splitAt ',' written).mapM numberOf
    match valueOf? numbers with
    | some value => return (name, value)
    | none => throw (.componentCount name)

end FramePlan.CommandLine
