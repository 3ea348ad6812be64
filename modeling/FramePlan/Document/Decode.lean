import FramePlan.Document.Node
import FramePlan.Document.Scalar
import FramePlan.Table

/-!
# Decoding document trees

A decoder takes a tree to a typed value or to the first problem in document order.

* A record is read by `Fields`: members in any order, each known field at most once, unknown
  members passed over. It may also be written as a list of its fields in order.
* A variant is a text that names it, or a record whose only member is the name and the payload.

The decoders are those that `serde` derives.
-/

namespace FramePlan

/-- Reads a typed value from a tree. -/
abbrev Decoder (α : Type) := Node → Except LoadError α

/-- A node where the tag of a plain scalar does not count. -/
def Node.bare : Node → Node
  | .tagged (.plain content) => .plain content
  | node => node

namespace Decode

def bool : Decoder Bool := fun node =>
  match node.bare with
  | .bool value => .ok value
  | .plain text =>
    match PlainScalar.bool? text with
    | some value => .ok value
    | none => (Node.plain text).unexpected "a boolean"
  | node => node.unexpected "a boolean"

/-- Reads a natural number up to a greatest one. -/
def natural (greatest : Nat) (expected : String) : Decoder Nat := fun node =>
  match node.bare with
  | .number (.natural n) =>
    if n ≤ greatest then .ok n
    else .error (.mismatch (.invalidValue (.number (.natural n)) expected))
  | .number (.negative n) => .error (.mismatch (.invalidValue (.number (.negative n)) expected))
  | .plain text =>
    match PlainScalar.natural? text with
    | some n =>
      if n ≤ greatest then .ok n
      else .error (.mismatch (.invalidValue (.number (.natural n)) expected))
    | none => (Node.plain text).unexpected expected
  | node => node.unexpected expected

def uint32 : Decoder UInt32 := fun node =>
  (natural (UInt32.size - 1) "u32" node).map Nat.toUInt32

def index : Decoder Nat := natural (UInt64.size - 1) "usize"

/-- Brings an integer into 32 bits. -/
def int32OfInt (n : Int) : Except LoadError Int32 :=
  if -0x80000000 ≤ n && n < 0x80000000 then .ok (Int32.ofInt n)
  else
    let found := if n < 0 then Numeral.negative n else .natural n.toNat
    .error (.mismatch (.invalidValue (.number found) "i32"))

def int32 : Decoder Int32 := fun node =>
  match node.bare with
  | .number (.natural n) => int32OfInt n
  | .number (.negative n) => int32OfInt n
  | .plain text =>
    match PlainScalar.int? text with
    | some n => int32OfInt n
    | none => (Node.plain text).unexpected "i32"
  | node => node.unexpected "i32"

/-- Reads a single. An integer is rounded once, any other number is a double first. -/
def single : Decoder Single := fun node =>
  match node.bare with
  | .number (.natural n) => .ok (.ofInt n)
  | .number (.negative n) => .ok (.ofInt n)
  | .number (.real x) => .ok x.toSingle
  | .plain text =>
    match PlainScalar.double? text with
    | some x => .ok x.toSingle
    | none => (Node.plain text).unexpected "f32"
  | node => node.unexpected "f32"

def string : Decoder String := fun node =>
  match node.bare with
  | .text quoted | .tagged (.text quoted) => quoted.read
  | .plain text => .ok text
  | node => node.unexpected "a string"

/-- Reads the payload of a variant that has none. No plain scalar will do: where scalars may be
plain, the name of such a variant stands alone. -/
def unit : Decoder Unit
  | .null => .ok ()
  | node => node.unexpected "unit"

def option {α : Type} (decode : Decoder α) : Decoder (Option α)
  | .null | .tagged (.plain "") => .ok none
  | .plain text => if PlainScalar.isNull text then .ok none else (decode (.plain text)).map some
  | node => (decode node).map some

/-- The items of a list; a plain scalar without text is a list without items. -/
def items (expected : String) (node : Node) : Except LoadError (List Node × Option Fault) :=
  match node.bare with
  | .list items fault | .tagged (.list items fault) => .ok (items, fault)
  | .plain text => if text.isEmpty then .ok ([], none) else (Node.plain text).unexpected expected
  | node => node.unexpected expected

def list {α : Type} (decode : Decoder α) : Decoder (List α) := fun node => do
  let (items, fault) ← items "a sequence" node
  let values ← items.mapM decode
  finish fault
  return values

/-- Reads the leading items of a list of fixed length; `start` of them are read already. -/
def leading {α : Type} (decode : Decoder α) (expected : String) (fault : Option Fault) :
    (start count : Nat) → List Node → Except LoadError (Vector α count × List Node)
  | _, 0, rest => .ok (#v[], rest)
  | start, _ + 1, [] => do
    finish fault
    .error (.mismatch (.invalidLength start expected))
  | start, count + 1, item :: rest => do
    let first ← decode item
    let (others, rest) ← leading decode expected fault (start + 1) count rest
    return (⟨#[first] ++ others.toArray, by simp [Nat.add_comm]⟩, rest)

def vector {α : Type} (decode : Decoder α) (count : Nat) : Decoder (Vector α count) := fun node => do
  let expected := s!"an array of length {count}"
  let (items, fault) ← items expected node
  let (values, rest) ← leading decode expected fault 0 count items
  if !rest.isEmpty then .error .malformed
  finish fault
  return values

/-- The members of a record; a plain scalar without text is a record without members. -/
def members (expected : String) (node : Node) :
    Except LoadError (List (Key × Node) × Option Fault) :=
  match node.bare with
  | .record members fault | .tagged (.record members fault) => .ok (members, fault)
  | .plain text => if text.isEmpty then .ok ([], none) else (Node.plain text).unexpected expected
  | node => node.unexpected expected

/-- Reads a table; of members with one key the last one counts. -/
def table {α : Type} (decode : Decoder α) : Decoder (Table String α) := fun node => do
  let (members, fault) ← members "a map" node
  let filled ← members.foldlM (fun (filled : Table String α) (key, value) => do
    let name ← key.read
    let value ← decode value
    return filled.insert name value) Table.empty
  finish fault
  return filled

end Decode

/-- How the fields of a record are read. The state holds the fields met so far. -/
structure Fields (α : Type) where
  State : Type
  start : State
  /-- Takes in a member, unless its name is that of no field. -/
  accept : String → Node → State → Option (Except LoadError State)
  /-- The record of the fields met; the first missing field is reported. -/
  close : State → Except LoadError α
  /-- The number of fields. -/
  count : Nat
  /-- Reads the fields from list items, given how the list ends, the position of the first field and
  the report of a list that is too short. -/
  positional : Except LoadError Unit → (Nat → LoadError) → Nat → List Node →
    Except LoadError (α × List Node)

namespace Fields

/-- A field that has to be there, or has a value where it is missing. -/
def field {α : Type} (name : String) (decode : Decoder α) (absent : Option α := none) :
    Fields α where
  State := Option α
  start := none
  accept key node seen :=
    if key == name then
      some (match seen with
        | some _ => .error (.mismatch (.duplicateField name))
        | none => (decode node).map some)
    else none
  close seen :=
    match seen.or absent with
    | some value => .ok value
    | none => .error (.mismatch (.missingField name))
  count := 1
  positional ending short position
    | item :: rest => (decode item).map (·, rest)
    | [] => do
      ending
      match absent with
      | some value => return (value, [])
      | none => .error (short position)

/-- A record made of no field. -/
def pure {α : Type} (value : α) : Fields α where
  State := Unit
  start := ()
  accept _ _ _ := none
  close _ := .ok value
  count := 0
  positional _ _ _ items := .ok (value, items)

/-- Joins the fields of two parts, those of the first part before those of the second. -/
def both {α β γ : Type} (join : α → β → γ) (first : Fields α) (second : Fields β) : Fields γ where
  State := first.State × second.State
  start := (first.start, second.start)
  accept key node state :=
    match first.accept key node state.1 with
    | some result => some (result.map (·, state.2))
    | none => (second.accept key node state.2).map fun result => result.map (state.1, ·)
  close state := do
    let left ← first.close state.1
    let right ← second.close state.2
    return join left right
  count := first.count + second.count
  positional ending short position items := do
    let (left, items) ← first.positional ending short position items
    let (right, items) ← second.positional ending short (position + first.count) items
    return (join left right, items)

/-- Applies a function read from fields to an argument read from further fields. -/
def apply {α β : Type} (function : Fields (α → β)) (argument : Fields α) : Fields β :=
  both (fun f x => f x) function argument

instance : Seq Fields where
  seq function argument := apply function (argument ())

instance : Pure Fields where
  pure := Fields.pure

/-- Takes in the members of a record in order. -/
def acceptAll {α : Type} (fields : Fields α) :
    List (Key × Node) → fields.State → Except LoadError fields.State
  | [], state => .ok state
  | (key, node) :: rest, state => do
    let name ← key.read
    match fields.accept name node state with
    | some result => acceptAll fields rest (← result)
    | none =>
      node.skip
      acceptAll fields rest state

def elements (count : Nat) : String := if count = 1 then "1 element" else s!"{count} elements"

/-- Reads a record, written with names or as a list. `expected` is what the record is called. -/
def decode {α : Type} (fields : Fields α) (expected : String) : Decoder α := fun node =>
  let ofItems (items : List Node) (fault : Option Fault) : Except LoadError α := do
    let short (length : Nat) : LoadError :=
      .mismatch (.invalidLength length s!"{expected} with {elements fields.count}")
    let (value, rest) ← fields.positional (finish fault) short 0 items
    if !rest.isEmpty then .error .malformed
    finish fault
    return value
  match node with
  | .list items fault | .tagged (.list items fault) => ofItems items fault
  | node => do
    let (members, fault) ← Decode.members expected node
    let state ← fields.acceptAll members fields.start
    finish fault
    fields.close state

end Fields

/-- What follows the name of a variant. -/
inductive Payload (α : Type) where
  /-- Nothing; the variant is this value. -/
  | unit (value : α)
  | value (decode : Decoder α)
  /-- The fields of a record, and what the record is called. -/
  | fields (called : String) (fields : Fields α)

namespace Decode

/-- The name of a variant in the place of a key, where any value is looked at. -/
def variantName : Key → Except LoadError String
  | .text quoted => quoted.read
  | .other (.ok found) => .error (.mismatch (.invalidType found "variant identifier"))
  | .other (.error cause) => .error cause.whenRead
  | .compound => .error (.mismatch (.invalidType .record "variant identifier"))

/-- Reads a variant by its name. A variant with a payload is a record of a single member. Anything
but a text or a record is no variant at all. -/
def variant {α : Type} (known : List (String × Payload α)) : Decoder α :=
  let named (name : String) (use : Payload α → Except LoadError α) : Except LoadError α :=
    match known.lookup name with
    | some payload => use payload
    | none => .error (.mismatch (.unknownVariant name (known.map Prod.fst)))
  let bare (name : String) : Except LoadError α := named name fun
    | .unit value => .ok value
    | .value _ => .error (.mismatch (.invalidType .unitVariant "newtype variant"))
    | .fields _ _ => .error (.mismatch (.invalidType .unitVariant "struct variant"))
  fun
  | .text quoted => quoted.read >>= bare
  | .plain text => bare text
  | .record [] fault => do
    finish fault
    .error .malformed
  | .record ((key, node) :: rest) fault => do
    let name ← variantName key
    let value ← named name fun
      | .unit value => (unit node).map fun _ => value
      | .value decode => decode node
      | .fields called fields => fields.decode called node
    if !rest.isEmpty then .error .malformed
    finish fault
    return value
  | .fault .endOfText => .error .truncated
  | _ => .error .malformed

/-- Reads a variant without payload. -/
def choice {α : Type} (known : List (String × α)) : Decoder α :=
  variant (known.map fun (name, value) => (name, .unit value))

end Decode

end FramePlan
