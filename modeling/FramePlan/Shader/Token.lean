import FramePlan.Number.Decimal
import FramePlan.Shader.Constant
import FramePlan.Shader.Identifier
import FramePlan.Text.Character

/-!
# Tokens

A shader source is split into words, numbers and marks. Blanks and comments separate tokens; block
comments nest, and one that is never closed hides the rest of the source.

Angle brackets are tokens of one character each, since they may close a list of type arguments; the
token records whether the next character follows without a gap, so that operators such as `>>=`
can be put together where an operator may stand.

The tokens are those of the lexer of `naga`.
-/

namespace FramePlan.Shader

inductive Token where
  | word (text : String)
  | number (value : Constant)
  | mark (text : String)
  /-- An opening or closing angle bracket, and whether the next character follows directly. -/
  | angle (opening joined : Bool)
deriving DecidableEq, Repr

namespace Token

def isBlank (c : Char) : Bool :=
  c == ' ' || ('\t' ≤ c && c ≤ '\r') || c == '\u0085' || c == '\u200e' || c == '\u200f' ||
    c == '\u2028' || c == '\u2029'

def isLineEnd (c : Char) : Bool :=
  ('\n' ≤ c && c ≤ '\r') || c == '\u0085' || c == '\u2028' || c == '\u2029'

/-- What follows a block comment, read from behind its opening. `depth` further comments are open
around it. -/
def afterBlockComment : (depth : Nat) → List Char → List Char
  | _, [] => []
  | depth, '/' :: '*' :: rest => afterBlockComment (depth + 1) rest
  | 0, '*' :: '/' :: rest => rest
  | depth + 1, '*' :: '/' :: rest => afterBlockComment depth rest
  | depth, _ :: rest => afterBlockComment depth rest

/-- The marks of more than one character, longest first, that do not start with an angle bracket. -/
def longMarks : List (List Char) :=
  [['-', '>'], ['-', '-'], ['-', '='], ['+', '+'], ['+', '='], ['*', '='], ['/', '='], ['%', '='],
    ['^', '='], ['=', '='], ['!', '='], ['&', '&'], ['&', '='], ['|', '|'], ['|', '=']]

def shortMarks : List Char :=
  [':', ';', ',', '.', '@', '(', ')', '\x7b', '\x7d', '[', ']', '-', '+', '*', '/', '%', '^', '~',
    '=', '!', '&', '|']

def mark? (text : List Char) : Option (String × List Char) :=
  match longMarks.find? (·.isPrefixOf text) with
  | some found => some (String.ofList found, text.drop found.length)
  | none =>
    match text with
    | c :: rest => if shortMarks.contains c then some (String.ofList [c], rest) else none
    | [] => none

/-- The number of a decimal in a floating-point type, unless it is too large. -/
def ofDecimal? (type : ScalarType) (decimal : Decimal) : Option Constant :=
  let magnitude := decimal.toBinary type.format
  if type.format.infinity ≤ magnitude then none
  else some (.real type (mkRat (type.format.scaled magnitude) type.format.unit))

/-- The scalar that the suffix at the front stands for, and what follows it. The suffix of an
integer may be that of any number. -/
def suffix (isInteger : Bool) (text : List Char) : ScalarType × List Char :=
  match isInteger, text with
  | true, 'i' :: rest => (.int, rest)
  | true, 'u' :: rest => (.uint, rest)
  | true, 'l' :: 'i' :: rest => (.long, rest)
  | true, 'l' :: 'u' :: rest => (.ulong, rest)
  | _, 'f' :: rest => (.float, rest)
  | _, 'h' :: rest => (.half, rest)
  | _, 'l' :: 'f' :: rest => (.double, rest)
  | true, text => (.abstractInt, text)
  | false, text => (.abstractFloat, text)

/-- The exponent after one of two letters, if one follows, and what follows it. -/
def exponent (lower upper : Char) (text : List Char) : Option (Option Int × List Char) :=
  match text with
  | letter :: rest =>
    if letter == lower || letter == upper then
      let (negative, rest) := match rest with
        | '+' :: rest => (false, rest)
        | '-' :: rest => (true, rest)
        | rest => (false, rest)
      let digits := rest.takeWhile Char.isDigit
      if digits.isEmpty then none
      else
        let size : Int := Decimal.ofDigits digits
        some (some (if negative then -size else size), rest.dropWhile Char.isDigit)
    else some (none, text)
  | [] => some (none, [])

/-- The digits behind a point, if one follows, and what follows them. -/
def fraction (isDigit : Char → Bool) (text : List Char) : Option (List Char) × List Char :=
  match text with
  | '.' :: rest => (some (rest.takeWhile isDigit), rest.dropWhile isDigit)
  | text => (none, text)

def isHexDigit (c : Char) : Bool := (Text.hexDigit? c).isSome

/-- A number in base sixteen, read from behind its mark. Exponents are of base two. -/
def hexNumber? (text : List Char) : Option (Constant × List Char) := do
  let whole := text.takeWhile isHexDigit
  let (places, rest) := fraction isHexDigit (text.dropWhile isHexDigit)
  let (power, rest) ← exponent 'p' 'P' rest
  let digits := whole ++ places.getD []
  if digits.isEmpty then none
  else
    let isInteger := places.isNone && power.isNone
    let (type, rest) := if power.isSome || isInteger then suffix isInteger rest
      else (.abstractFloat, rest)
    let significand : Int := ((Text.ofBase? 16 digits).getD 0 : Nat)
    if isInteger then
      if type.isFloat then none else return (← Constant.ofInteger? type significand, rest)
    else
      let shift := power.getD 0 - 4 * (places.getD []).length
      if significand = 0 then return (.real type 0, rest)
      else if 5000 < shift.natAbs then none
      else
        let value : Rat := mkRat (significand * (1 <<< shift.toNat : Nat)) (1 <<< (-shift).toNat)
        return (← Constant.ofReal? type value, rest)

/-- A number in base ten. No digit may follow the leading zero of an integer. -/
def decimalNumber? (text : List Char) : Option (Constant × List Char) := do
  let whole := text.takeWhile Char.isDigit
  let (places, rest) := fraction Char.isDigit (text.dropWhile Char.isDigit)
  let (power, rest) ← exponent 'e' 'E' rest
  let digits := whole ++ places.getD []
  if digits.isEmpty then none
  else
    let isInteger := places.isNone && power.isNone
    let (type, rest) := suffix isInteger rest
    if isInteger && whole.head? == some '0' && 1 < whole.length then none
    else if type.isInteger then
      return (← Constant.ofInteger? type (Decimal.ofDigits digits), rest)
    else
      let decimal : Decimal :=
        ⟨Decimal.ofDigits digits, power.getD 0 - (places.getD []).length⟩
      return (← ofDecimal? type decimal, rest)

def number? : List Char → Option (Constant × List Char)
  | '0' :: 'x' :: rest | '0' :: 'X' :: rest => hexNumber? rest
  | text => decimalNumber? text

/-- Whether a number starts here: a digit, or a point before a digit. -/
def startsNumber : List Char → Bool
  | '.' :: c :: _ => c.isDigit
  | c :: _ => c.isDigit
  | [] => false

/-- Splits a source into tokens, with as much fuel as there are characters. -/
def split : (fuel : Nat) → List Char → Option (List Token)
  | _, [] => some []
  | 0, _ => none
  | fuel + 1, c :: rest =>
    if isBlank c then split fuel rest
    else match c, rest with
      | '/', '/' :: rest => split fuel (rest.dropWhile (!isLineEnd ·))
      | '/', '*' :: rest => split fuel (afterBlockComment 0 rest)
      | _, _ =>
        if c == '<' || c == '>' then
          let joined := match rest with
            | next :: _ => !isBlank next
            | [] => false
          (split fuel rest).map (.angle (c == '<') joined :: ·)
        else if startsNumber (c :: rest) then do
          let (value, rest) ← number? (c :: rest)
          return .number value :: (← split fuel rest)
        else if isIdentifierStart c then
          let text := String.ofList (c :: rest.takeWhile isIdentifierContinue)
          (split fuel (rest.dropWhile isIdentifierContinue)).map (.word text :: ·)
        else do
          let (text, rest) ← mark? (c :: rest)
          return .mark text :: (← split fuel rest)

/-- The tokens of a source, unless something in it is no token. -/
def ofSource? (source : String) : Option (List Token) :=
  let characters := source.toList
  split characters.length characters

end Token

end FramePlan.Shader
