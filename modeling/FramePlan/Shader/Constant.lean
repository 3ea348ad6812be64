import FramePlan.Number.Binary
import FramePlan.Shader.Type

/-!
# Constants

The scalars that are known before a shader runs. Integers are exact and must fit their type;
floating-point numbers are the rationals that their format holds, so an operation computes exactly
and rounds once. An operation without a result (an overflow, a division by zero) is an error of the
shader and gives `none`.

The rules are those of the constant evaluator of `naga`, for scalars.
-/

namespace FramePlan.Shader

/-- A scalar known beforehand, with its type. -/
inductive Constant where
  | bool (value : Bool)
  | integer (type : ScalarType) (value : Int)
  | real (type : ScalarType) (value : Rat)
deriving DecidableEq, Repr

namespace ScalarType

/-- The least and the greatest integer of an integer type. -/
def bounds : ScalarType → Int × Int
  | .uint => (0, 0xffffffff)
  | .ulong => (0, 0xffffffffffffffff)
  | .int => (-0x80000000, 0x7fffffff)
  | _ => (-0x8000000000000000, 0x7fffffffffffffff)

/-- The number of values of an integer type. -/
def modulus (type : ScalarType) : Nat := 1 <<< (8 * type.width)

def format : ScalarType → BinaryFormat
  | .half => ⟨11, 5⟩
  | .double | .abstractFloat => .double
  | _ => .single

end ScalarType

/-- The number of a format that is nearest to a rational, unless that is an infinity. -/
def nearest? (format : BinaryFormat) (value : Rat) : Option Rat :=
  let magnitude := format.roundRatio value.num.natAbs value.den
  if format.infinity ≤ magnitude then none
  else
    let size : Rat := mkRat (format.scaled magnitude) format.unit
    some (if value.num < 0 then -size else size)

/-- The part of a rational before the point. -/
def wholePart (value : Rat) : Int := value.num.tdiv value.den

namespace Constant

def type : Constant → ScalarType
  | .bool _ => .bool
  | .integer type _ => type
  | .real type _ => type

/-- An integer constant, if the integer fits the type. -/
def ofInteger? (type : ScalarType) (value : Int) : Option Constant :=
  if type.bounds.1 ≤ value && value ≤ type.bounds.2 then some (.integer type value) else none

/-- A floating-point constant, unless the number is too large for the type. -/
def ofReal? (type : ScalarType) (value : Rat) : Option Constant :=
  (nearest? type.format value).map (.real type)

def integer? : Constant → Option Int
  | .integer _ value => some value
  | _ => none

/-- Brings an integer into the range of a type, keeping its low bits. -/
def wrapped (type : ScalarType) (value : Int) : Int :=
  if type.isSigned then value.bmod type.modulus else value % type.modulus

/-- The conversion that an abstract constant undergoes by itself; the value may not change. -/
def become? (target : ScalarType) : Constant → Option Constant
  | .bool value => if target == .bool then some (.bool value) else none
  | .integer type value =>
    if type == target then some (.integer type value)
    else if type != .abstractInt then none
    else if target.isInteger then ofInteger? target value
    else if target.isFloat then ofReal? target value
    else none
  | .real type value =>
    if type == target then some (.real type value)
    else if type == .abstractFloat && target.isFloat then ofReal? target value
    else none

/-- The conversion that a constructor asks for. An abstract integer has to fit; a concrete one keeps
its low bits, and a floating-point number loses its fraction and is moved into range. -/
def convert? (target : ScalarType) : Constant → Option Constant
  | .bool value =>
    let number : Int := if value then 1 else 0
    if target == .bool then some (.bool value)
    else if target.isInteger then some (.integer target number)
    else some (.real target number)
  | .integer type value =>
    if target == .bool then some (.bool (value != 0))
    else if target.isFloat then ofReal? target value
    else if type == .abstractInt then ofInteger? target value
    else some (.integer target (wrapped target value))
  | .real type value =>
    if target == .bool then some (.bool (value != 0))
    else if target.isFloat then ofReal? target value
    else if type == .abstractFloat then ofInteger? target (wholePart value)
    else some (.integer target (max target.bounds.1 (min target.bounds.2 (wholePart value))))

end Constant

inductive UnaryOperator where
  | negate
  | logicalNot
  | bitwiseNot
  | dereference
  | address
deriving DecidableEq, Repr

inductive BinaryOperator where
  | add
  | subtract
  | multiply
  | divide
  | remainder
  | equal
  | notEqual
  | less
  | lessEqual
  | greater
  | greaterEqual
  | bitAnd
  | bitXor
  | bitOr
  | logicalAnd
  | logicalOr
  | shiftLeft
  | shiftRight
deriving DecidableEq, Repr

namespace BinaryOperator

def isComparison : BinaryOperator → Bool
  | .equal | .notEqual | .less | .lessEqual | .greater | .greaterEqual => true
  | _ => false

def isShift : BinaryOperator → Bool
  | .shiftLeft | .shiftRight => true
  | _ => false

/-- The truth of a comparison, given how the operands compare. -/
def holds (operator : BinaryOperator) (order : Ordering) : Bool :=
  match operator with
  | .equal => order == .eq
  | .notEqual => order != .eq
  | .less => order == .lt
  | .lessEqual => order != .gt
  | .greater => order == .gt
  | .greaterEqual => order != .lt
  | _ => false

end BinaryOperator

namespace Constant

/-- Applies an operator to one constant. -/
def unary? (operator : UnaryOperator) : Constant → Option Constant
  | .bool value => if operator == .logicalNot then some (.bool !value) else none
  | .integer type value =>
    match operator with
    | .negate => if type.isSigned then some (.integer type (wrapped type (-value))) else none
    | .bitwiseNot => some (.integer type (wrapped type (-value - 1)))
    | _ => none
  | .real type value => if operator == .negate then some (.real type (-value)) else none

/-- The bits of two integers combined by a function on naturals. -/
def bitwise (type : ScalarType) (combine : Nat → Nat → Nat) (left right : Int) : Int :=
  wrapped type (combine (left % type.modulus).toNat (right % type.modulus).toNat)

/-- Shifts an integer; the count must be below the width, and no bit that counts may be lost on the
left. -/
def shift? (operator : BinaryOperator) (type : ScalarType) (value count : Int) : Option Constant :=
  if count < 0 || 8 * type.width ≤ count.toNat then none
  else if operator == .shiftLeft then ofInteger? type (value * (1 <<< count.toNat : Nat))
  else some (.integer type (value / (1 <<< count.toNat : Nat)))

def integers? (operator : BinaryOperator) (type : ScalarType) (left right : Int) :
    Option Constant :=
  if operator.isComparison then some (.bool (operator.holds (compare left right)))
  else match operator with
    | .add => ofInteger? type (left + right)
    | .subtract => ofInteger? type (left - right)
    | .multiply => ofInteger? type (left * right)
    | .divide => if right = 0 then none else ofInteger? type (left.tdiv right)
    | .remainder => if right = 0 then none else ofInteger? type (left.tmod right)
    | .bitAnd => some (.integer type (bitwise type (· &&& ·) left right))
    | .bitOr => some (.integer type (bitwise type (· ||| ·) left right))
    | .bitXor => some (.integer type (bitwise type (· ^^^ ·) left right))
    | .shiftLeft | .shiftRight => shift? operator type left right
    | _ => none

/-- Applies an operator to two floating-point numbers of a type. -/
def reals? (operator : BinaryOperator) (type : ScalarType) (left right : Rat) : Option Constant :=
  if operator.isComparison then
    some (.bool (operator.holds
      (if left < right then .lt else if left = right then .eq else .gt)))
  else match operator with
    | .add => ofReal? type (left + right)
    | .subtract => ofReal? type (left - right)
    | .multiply => ofReal? type (left * right)
    | .divide => if right = 0 then none else ofReal? type (left / right)
    | .remainder =>
      if right = 0 then none else ofReal? type (left - right * wholePart (left / right))
    | _ => none

def bools? (operator : BinaryOperator) (left right : Bool) : Option Constant :=
  match operator with
  | .equal => some (.bool (left == right))
  | .notEqual => some (.bool (left != right))
  | .logicalAnd | .bitAnd => some (.bool (left && right))
  | .logicalOr | .bitOr => some (.bool (left || right))
  | _ => none

/-- Applies an operator to two constants of one type; the count of a shift may be of another. -/
def binary? (operator : BinaryOperator) : Constant → Constant → Option Constant
  | .bool left, .bool right => bools? operator left right
  | .integer type left, .integer _ right => integers? operator type left right
  | .real type left, .real _ right => reals? operator type left right
  | _, _ => none

end Constant

end FramePlan.Shader
