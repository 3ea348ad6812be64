import FramePlan.Number.Decimal
import FramePlan.Text.Character

/-!
# Plain scalars

A scalar without quotes has no type of its own. These are the readings of its text as each type.

The readings are those of `serde_norway`.
-/

namespace FramePlan.PlainScalar

def bool? (text : String) : Option Bool :=
  if ["true", "True", "TRUE"].contains text then some true
  else if ["false", "False", "FALSE"].contains text then some false
  else none

/-- Whether the text stands for the absence of a value. -/
def isNull (text : String) : Bool := ["", "~", "null", "Null", "NULL"].contains text

/-- Digits of a base from two to sixteen, at least one. -/
def ofBase? (base : Nat) (digits : List Char) : Option Nat :=
  if digits.isEmpty then none else Text.ofBase? base digits

/-- Whether the text is a sign, a zero and further digits, which is no number. -/
def hasLeadingZero (text : List Char) : Bool :=
  let digits := match text with
    | '+' :: rest | '-' :: rest => rest
    | rest => rest
  match digits with
  | '0' :: second :: rest => (second :: rest).all Char.isDigit
  | _ => false

/-- Digits with an optional base mark. -/
def unsigned? (text : List Char) : Option Nat :=
  let marked := match text with
    | '0' :: 'x' :: digits => ofBase? 16 digits
    | '0' :: 'o' :: digits => ofBase? 8 digits
    | '0' :: 'b' :: digits => ofBase? 2 digits
    | _ => none
  marked.or (ofBase? 10 text)

/-- Reads a natural number of at most 64 bits. -/
def natural? (text : String) : Option Nat :=
  let characters := text.toList
  let digits := match characters with
    | '+' :: rest => rest
    | rest => rest
  if hasLeadingZero characters then none
  else (unsigned? digits).filter (· < UInt64.size)

/-- Reads an integer of at most 64 bits. -/
def int? (text : String) : Option Int :=
  let characters := text.toList
  if hasLeadingZero characters then none
  else match characters with
    | '-' :: digits => ((unsigned? digits).filter (· ≤ 0x8000000000000000)).map fun n => -(n : Int)
    | '+' :: digits => ((unsigned? digits).filter (· < 0x8000000000000000)).map Int.ofNat
    | digits => ((unsigned? digits).filter (· < 0x8000000000000000)).map Int.ofNat

/-- Reads a number: a finite decimal, or an infinity or NaN with a leading point. -/
def double? (text : String) : Option Double :=
  let format := BinaryFormat.double
  let positive := match text.toList with
    | '+' :: rest => rest
    | rest => rest
  let word := String.ofList positive
  if [".inf", ".Inf", ".INF"].contains word then some (.ofParts false format.infinity)
  else if ["-.inf", "-.Inf", "-.INF"].contains text then some (.ofParts true format.infinity)
  else if [".nan", ".NaN", ".NAN"].contains text then some (.ofParts false format.quietNaN)
  else if text.startsWith "+" && (word.startsWith "+" || word.startsWith "-") then none
  else match Double.parse positive with
    | .ok x => if x.magnitude < format.infinity then some x else none
    | .error _ => none

end FramePlan.PlainScalar
