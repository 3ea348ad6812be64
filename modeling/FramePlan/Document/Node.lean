import FramePlan.Number.Decimal
import FramePlan.Text.Printable

/-!
# Document trees

A document is read into a tree before its types are. The tree of a defective text goes as far
as the text does and ends in a fault, so that a decoder that walks the tree in order reports the first
problem, whether it is a fault of the text or a value of the wrong type.

Some faults are reported only for a value that is decoded, not for one that is ignored:
`Fault.whenRead` and `Fault.whenSkipped`.

The faults and mismatches are those of `serde_json` and of the decoders that `serde` derives.
-/

namespace FramePlan

/-- The number of a document, classified by what can hold it. -/
inductive Numeral where
  | natural (n : Nat)
  | negative (n : Int)
  | real (x : Double)
  /-- A well-formed numeral that no finite number is near to. -/
  | beyondRange
deriving DecidableEq, Repr

/-- What is wrong with a text at the place where reading stops. -/
inductive Fault where
  /-- Nothing is left where something has to stand. -/
  | endOfText
  /-- The text ends inside a word such as a truth value. -/
  | cutWord
  /-- The text ends inside a numeral. -/
  | cutNumeral
  /-- A character stands where it cannot. -/
  | malformed
deriving DecidableEq, Repr

/-- What stands where something else is expected. -/
inductive Found where
  | null
  | bool (value : Bool)
  | number (value : Numeral)
  | text (value : String)
  | list
  | record
  | unitVariant
deriving DecidableEq, Repr

/-- Why a well-formed value does not have the expected type. -/
inductive Mismatch where
  | invalidType (found : Found) (expected : String)
  | invalidValue (found : Found) (expected : String)
  | invalidLength (length : Nat) (expected : String)
  | unknownVariant (name : String) (known : List String)
  | missingField (name : String)
  | duplicateField (name : String)
deriving DecidableEq, Repr

inductive LoadError where
  | malformed
  | truncated
  | mismatch (cause : Mismatch)
deriving DecidableEq, Repr

/-- How a fault is reported for a value that is decoded. -/
def Fault.whenRead : Fault → LoadError
  | .endOfText | .cutWord | .cutNumeral => .truncated
  | .malformed => .malformed

/-- How a fault is reported for a value that is ignored. -/
def Fault.whenSkipped : Fault → LoadError
  | .endOfText | .cutWord => .truncated
  | .cutNumeral | .malformed => .malformed

/-- A quoted text. Its content is missing if an escape stands for half a character, which
is a fault only for a value that is decoded. -/
structure Quoted where
  content : Option String
  fault : Option Fault
deriving DecidableEq, Repr

inductive Key where
  | text (quoted : Quoted)
  /-- Something that is no text, or nothing, where a key has to stand. -/
  | other (found : Except Fault Found)
  /-- A list or a record used as a key. -/
  | compound

/-- A document tree. -/
inductive Node where
  | null
  | bool (value : Bool)
  | number (value : Numeral)
  | text (quoted : Quoted)
  /-- An unquoted text, whose type is the expected one. -/
  | plain (text : String)
  | list (items : List Node) (fault : Option Fault)
  | record (members : List (Key × Node)) (fault : Option Fault)
  /-- A value with a tag of its own. -/
  | tagged (node : Node)
  | fault (cause : Fault)

namespace Node

/-- A text node without defects. -/
def ofString (text : String) : Node := .text ⟨some text, none⟩

/-- A list node without defects. -/
def ofItems (items : List Node) : Node := .list items none

/-- A record node without defects. -/
def ofMembers (members : List (String × Node)) : Node :=
  .record (members.map fun (name, node) => (.text ⟨some name, none⟩, node)) none

end Node

def Found.message : Found → String
  | .null => "null"
  | .bool value => s!"boolean `{value}`"
  | .number (.natural n) => s!"integer `{n}`"
  | .number (.negative n) => s!"integer `{n}`"
  | .number (.real x) => s!"floating point `{x.text}`"
  | .number .beyondRange => "number"
  | .text value => "string " ++ Text.quote value
  | .list => "sequence"
  | .record => "map"
  | .unitVariant => "unit variant"

def oneOf : List String → String
  | [] => "there are no variants"
  | [only] => s!"expected `{only}`"
  | [first, second] => s!"expected `{first}` or `{second}`"
  | names => "expected one of " ++ ", ".intercalate (names.map fun name => s!"`{name}`")

def Mismatch.message : Mismatch → String
  | .invalidType found expected => s!"invalid type: {found.message}, expected {expected}"
  | .invalidValue found expected => s!"invalid value: {found.message}, expected {expected}"
  | .invalidLength length expected => s!"invalid length {length}, expected {expected}"
  | .unknownVariant name known => s!"unknown variant `{name}`, {oneOf known}"
  | .missingField name => s!"missing field `{name}`"
  | .duplicateField name => s!"duplicate field `{name}`"

namespace Quoted

/-- The content of a value that is decoded. -/
def read (quoted : Quoted) : Except LoadError String :=
  match quoted.content, quoted.fault with
  | none, _ => .error .malformed
  | some _, some fault => .error fault.whenRead
  | some content, none => .ok content

def skip (quoted : Quoted) : Except LoadError Unit :=
  match quoted.fault with
  | some fault => .error fault.whenSkipped
  | none => .ok ()

end Quoted

def Key.skip : Key → Except LoadError Unit
  | .text quoted => quoted.skip
  | .other (.error .endOfText) => .error .truncated
  | .other _ => .error .malformed
  | .compound => .ok ()

/-- The text of a key that names a field or an entry. -/
def Key.read : Key → Except LoadError String
  | .text quoted => quoted.read
  | .other (.error .endOfText) => .error .truncated
  | .other _ => .error .malformed
  | .compound => .error (.mismatch (.invalidType .record "a string"))

/-- Ends a list or record: a fault after the last element is reported. -/
def finish (fault : Option Fault) : Except LoadError Unit :=
  match fault with
  | some fault => .error fault.whenRead
  | none => .ok ()

mutual

/-- Passes over a value: only its form counts. -/
def Node.skip : Node → Except LoadError Unit
  | .null | .bool _ | .number _ | .plain _ => .ok ()
  | .text quoted => quoted.skip
  | .list items fault => do
    skipItems items
    finish fault
  | .record members fault => do
    skipMembers members
    finish fault
  | .tagged node => node.skip
  | .fault cause => .error cause.whenSkipped

def skipItems : List Node → Except LoadError Unit
  | [] => .ok ()
  | item :: rest => do
    item.skip
    skipItems rest

def skipMembers : List (Key × Node) → Except LoadError Unit
  | [] => .ok ()
  | (key, node) :: rest => do
    key.skip
    node.skip
    skipMembers rest

end

/-- What a node is, for a report that something else was expected; a fault is reported itself. -/
def Node.found : Node → Except LoadError Found
  | .null => .ok .null
  | .bool value => .ok (.bool value)
  | .number .beyondRange => .error .malformed
  | .number value => .ok (.number value)
  | .text quoted => quoted.read.map Found.text
  | .plain content => .ok (.text content)
  | .list _ _ => .ok .list
  | .record _ _ => .ok .record
  | .tagged node => node.found
  | .fault cause => .error cause.whenRead

/-- The report that a node is not what was expected. -/
def Node.unexpected {α : Type} (node : Node) (expected : String) : Except LoadError α :=
  match node.found with
  | .ok found => .error (.mismatch (.invalidType found expected))
  | .error error => .error error

end FramePlan
