import FramePlan.Document.Node
import FramePlan.Text.Character

/-!
# JSON texts

Reads a JSON text into a document tree. What follows the first fault of a text is not looked at.

Integers that fit 64 bits are kept exact. Every other numeral becomes a double: its leading digits
are collected while they fit 64 bits, and the double nearest to them is then multiplied or divided
once by a power of ten, so the result can differ from the nearest double in the last place.

The reader is that of `serde_json`.
-/

namespace FramePlan.Json

def isBlank (c : Char) : Bool := c == ' ' || c == '\n' || c == '\t' || c == '\r'

/-- Collects digits while the number they make fits 64 bits; gives the digits left over as well. -/
def collectDigits (significand : Nat) : List Char → Nat × List Char
  | [] => (significand, [])
  | c :: rest =>
    let next := significand * 10 + (c.toNat - '0'.toNat)
    if next < UInt64.size then collectDigits next rest else (significand, c :: rest)

/-- The double magnitude of a power of ten up to `10 ^ 308`. -/
def tenTo (exponent : Nat) : Nat := BinaryFormat.double.roundRatio (Nat.pow 10 exponent) 1

/-- The product of two double magnitudes, rounded once. -/
def product (x y : Nat) : Nat :=
  let format := BinaryFormat.double
  format.roundRatio (format.scaled x * format.scaled y) (format.unit * format.unit)

/-- The quotient of two double magnitudes, rounded once. -/
def quotient (x y : Nat) : Nat :=
  let format := BinaryFormat.double
  format.roundRatio (format.scaled x) (format.scaled y)

/-- Divides by a power of ten, in steps of `10 ^ 308` if it is larger than that. -/
def shrink : Nat → Nat → Nat → Nat
  | 0, magnitude, _ => magnitude
  | steps + 1, magnitude, exponent =>
    if exponent ≤ 308 then quotient magnitude (tenTo exponent)
    else if magnitude = 0 then 0
    else shrink steps (quotient magnitude (tenTo 308)) (exponent - 308)

/-- The magnitude of a significand times a power of ten, unless it is beyond the largest double.
Four steps take every significand below the smallest double. -/
def magnitude? (significand : Nat) (exponent : Int) : Option Nat :=
  let start := BinaryFormat.double.roundRatio significand 1
  if 308 < exponent then
    if start = 0 then some 0 else none
  else if 0 ≤ exponent then
    let scaled := product start (tenTo exponent.toNat)
    if scaled = BinaryFormat.double.infinity then none else some scaled
  else some (shrink 4 start (-exponent).toNat)

/-- The number of a numeral given by its parts. `exponent` is `none` without an exponent part. -/
def numeral (negative : Bool) (whole : List Char) (fraction : Option (List Char))
    (exponent : Option Int) : Numeral :=
  let (significand, dropped) := collectDigits 0 whole
  if dropped.isEmpty && fraction.isNone && exponent.isNone then
    if !negative then .natural significand
    else if significand = 0 || 0x8000000000000000 < significand then
      .real (.ofParts true (BinaryFormat.double.roundRatio significand 1))
    else .negative (-significand)
  else
    let (digits, unused) := collectDigits significand (fraction.getD [])
    let place : Int := (dropped.length : Int) - ((fraction.getD []).length - unused.length)
    let shift := exponent.getD 0
    if 0x80000000 ≤ shift.natAbs then
      if digits = 0 || shift < 0 then .real (.ofParts negative 0) else .beyondRange
    else match magnitude? digits (place + shift) with
      | some magnitude => .real (.ofParts negative magnitude)
      | none => .beyondRange

/-- A piece of text read from the front of a list of characters: what it is and what follows, or
`none` behind a fault. -/
abbrev Piece (α : Type) := α × Option (List Char)

def spanDigits (text : List Char) : List Char × List Char :=
  (text.takeWhile Char.isDigit, text.dropWhile Char.isDigit)

/-- A fault at the end of a numeral that lacks a digit. -/
def lackOfDigit (rest : List Char) : Fault := if rest.isEmpty then .cutNumeral else .malformed

/-- Reads the exponent part of a numeral, if one follows. -/
def exponentPart (text : List Char) : Except Fault (Option Int × List Char) :=
  match text with
  | mark :: rest =>
    if mark == 'e' || mark == 'E' then
      let (negative, rest) := match rest with
        | '+' :: rest => (false, rest)
        | '-' :: rest => (true, rest)
        | rest => (false, rest)
      match spanDigits rest with
      | ([], rest) => .error (lackOfDigit rest)
      | (digits, rest) =>
        let size : Int := Decimal.ofDigits digits
        .ok (some (if negative then -size else size), rest)
    else .ok (none, text)
  | [] => .ok (none, text)

/-- Reads the fraction part of a numeral, if one follows. -/
def fractionPart (text : List Char) : Except Fault (Option (List Char) × List Char) :=
  match text with
  | '.' :: rest =>
    match spanDigits rest with
    | ([], rest) => .error (lackOfDigit rest)
    | (digits, rest) => .ok (some digits, rest)
  | text => .ok (none, text)

/-- Reads a numeral behind its sign: no digit may follow a leading zero. -/
def readNumeral (negative : Bool) (text : List Char) : Piece Node :=
  let result : Except Fault (Numeral × List Char) := do
    match spanDigits text with
    | ([], rest) => .error (lackOfDigit rest)
    | ('0' :: _ :: _, _) => .error .malformed
    | (whole, rest) =>
      let (fraction, rest) ← fractionPart rest
      let (exponent, rest) ← exponentPart rest
      .ok (numeral negative whole fraction exponent, rest)
  match result with
  | .ok (value, rest) => (.number value, some rest)
  | .error fault => (.fault fault, none)

/-- Reads the rest of a word whose first letter is given. -/
def readWord (node : Node) : List Char → List Char → Piece Node
  | [], text => (node, some text)
  | _ :: _, [] => (.fault .cutWord, none)
  | letter :: letters, c :: rest =>
    if letter == c then readWord node letters rest else (.fault .malformed, none)

/-- Joins a leading and a trailing half of a character. -/
def joinHalves (leading trailing : Nat) : Char :=
  Char.ofNat ((leading - 0xd800) * 0x400 + (trailing - 0xdc00) + 0x10000)

def letterEscape? : Char → Option Char
  | '"' => some '"'
  | '\\' => some '\\'
  | '/' => some '/'
  | 'b' => some '\x08'
  | 'f' => some '\x0c'
  | 'n' => some '\n'
  | 'r' => some '\r'
  | 't' => some '\t'
  | _ => none

/-- How far the reading of a quoted text is. A leading half of a character waits for its trailing
half. -/
inductive QuoteState where
  | plain
  | half (leading : Nat)
  | escape (leading : Option Nat)
  | unit (leading : Option Nat) (digits value : Nat)

/-- The state and content behind a complete escaped unit. A trailing half without a leading one, and
a leading half before anything but a trailing one, leave the text without content. -/
def closeUnit (leading : Option Nat) (value : Nat) (known : Option (List Char)) :
    QuoteState × Option (List Char) :=
  let isTrailing := 0xdc00 ≤ value && value ≤ 0xdfff
  match leading with
  | some leading =>
    if isTrailing then (.plain, known.map (joinHalves leading value :: ·)) else (.plain, none)
  | none =>
    if isTrailing then (.plain, none)
    else if 0xd800 ≤ value && value ≤ 0xdbff then (.half value, known)
    else (.plain, known.map (Char.ofNat value :: ·))

/-- Reads a quoted text behind its opening quote. `known` is the content so far, in reverse, or
`none` once the text has half a character. Fewer than four bytes behind `\u` are the end of the
text, whatever they are. -/
def readQuoted : QuoteState → Option (List Char) → List Char → Piece Quoted
  | _, known, [] => (⟨known.map fun cs => String.ofList cs.reverse, some .endOfText⟩, none)
  | .plain, known, c :: rest =>
    if c == '"' then (⟨known.map fun cs => String.ofList cs.reverse, none⟩, some rest)
    else if c == '\\' then readQuoted (.escape none) known rest
    else if c.toNat < 32 then (⟨known.map String.ofList, some .malformed⟩, none)
    else readQuoted .plain (known.map (c :: ·)) rest
  | .half leading, known, c :: rest =>
    if c == '\\' then readQuoted (.escape (some leading)) known rest
    else if c == '"' then (⟨none, none⟩, some rest)
    else if c.toNat < 32 then (⟨none, some .malformed⟩, none)
    else readQuoted .plain none rest
  | .escape leading, known, c :: rest =>
    if c == 'u' then
      if (String.ofList (rest.take 4)).utf8ByteSize < 4 then
        (⟨known.map String.ofList, some .endOfText⟩, none)
      else readQuoted (.unit leading 0 0) known rest
    else match letterEscape? c with
      | some escaped =>
        readQuoted .plain (if leading.isSome then none else known.map (escaped :: ·)) rest
      | none => (⟨known.map String.ofList, some .malformed⟩, none)
  | .unit leading digits value, known, c :: rest =>
    match Text.hexDigit? c with
    | none => (⟨known.map String.ofList, some .malformed⟩, none)
    | some digit =>
      if digits = 3 then
        let (state, known) := closeUnit leading (value * 16 + digit) known
        readQuoted state known rest
      else readQuoted (.unit leading (digits + 1) (value * 16 + digit)) known rest

/-- What stands in the place of a key. -/
def foundAsKey (node : Node) : Except Fault Found :=
  match node with
  | .fault cause => .error cause
  | .null => .ok .null
  | .bool value => .ok (.bool value)
  | .number .beyondRange => .error .malformed
  | .number value => .ok (.number value)
  | .list _ _ => .ok .list
  | .record _ _ => .ok .record
  | .text _ | .plain _ | .tagged _ => .error .malformed

/-- The node of an item or of a member's value, and how reading goes on. -/
abbrev Reader := List Char → Piece Node

/-- Reads the items of a list up to its end. `first` is true until an item has been read. -/
def readItems (value : Reader) (fuel : Nat) (first : Bool) (text : List Char) :
    Piece (List Node × Option Fault) :=
  let text := text.dropWhile isBlank
  match fuel, text with
  | 0, _ => (([], some .malformed), none)
  | _, [] => (([], some .endOfText), none)
  | fuel + 1, c :: rest =>
    let next (text : List Char) : Piece (List Node × Option Fault) :=
      match value text with
      | (item, none) => (([item], none), none)
      | (item, some rest) =>
        let ((items, fault), rest) := readItems value fuel false rest
        ((item :: items, fault), rest)
    if c == ']' then (([], none), some rest)
    else if first then next text
    else if c == ',' then next rest
    else (([], some .malformed), none)

/-- Reads the members of a record up to its end. `first` is true until a member has been read. -/
def readMembers (value : Reader) (fuel : Nat) (first : Bool) (text : List Char) :
    Piece (List (Key × Node) × Option Fault) :=
  let text := text.dropWhile isBlank
  match fuel, text with
  | 0, _ => (([], some .malformed), none)
  | _, [] => (([], some .endOfText), none)
  | fuel + 1, c :: rest =>
    let lone (key : Key) (fault : Fault) : Piece (List (Key × Node) × Option Fault) :=
      (([(key, .fault fault)], none), none)
    let next (text : List Char) : Piece (List (Key × Node) × Option Fault) :=
      match text.dropWhile isBlank with
      | [] => lone (.other (.error .endOfText)) .endOfText
      | '"' :: rest =>
        match readQuoted .plain (some []) rest with
        | (quoted, none) => lone (.text quoted) .malformed
        | (quoted, some rest) =>
          match rest.dropWhile isBlank with
          | [] => lone (.text quoted) .endOfText
          | ':' :: rest =>
            match value rest with
            | (node, none) => (([(.text quoted, node)], none), none)
            | (node, some rest) =>
              let ((members, fault), rest) := readMembers value fuel false rest
              (((.text quoted, node) :: members, fault), rest)
          | _ => lone (.text quoted) .malformed
      | text => lone (.other (foundAsKey (value text).1)) .malformed
    if c == '\x7d' then (([], none), some rest)
    else if first then next text
    else if c == ',' then next rest
    else (([], some .malformed), none)

/-- Reads a value. Every nested value starts at least one character later, so as much fuel as there
are characters is never used up. -/
def readValue : Nat → Reader
  | 0, _ => (.fault .malformed, none)
  | fuel + 1, text =>
    match text.dropWhile isBlank with
    | [] => (.fault .endOfText, none)
    | 'n' :: rest => readWord .null ['u', 'l', 'l'] rest
    | 't' :: rest => readWord (.bool true) ['r', 'u', 'e'] rest
    | 'f' :: rest => readWord (.bool false) ['a', 'l', 's', 'e'] rest
    | '-' :: rest => readNumeral true rest
    | '"' :: rest =>
      let (quoted, rest) := readQuoted .plain (some []) rest
      (.text quoted, rest)
    | '[' :: rest =>
      let ((items, fault), rest) := readItems (readValue fuel) (rest.length + 1) true rest
      (.list items fault, rest)
    | '\x7b' :: rest =>
      let ((members, fault), rest) := readMembers (readValue fuel) (rest.length + 1) true rest
      (.record members fault, rest)
    | c :: rest => if c.isDigit then readNumeral false (c :: rest) else (.fault .malformed, none)

/-- A JSON text: its tree, and whether anything but blanks follows it. -/
structure Text where
  root : Node
  trailing : Bool

def read (text : String) : Text :=
  let characters := text.toList
  let (root, rest) := readValue (characters.length + 1) characters
  ⟨root, (rest.getD []).any (!isBlank ·)⟩

/-- Loads a typed value from a text. Defects of the value count before what follows it. -/
def load {α : Type} (decode : Node → Except LoadError α) (text : String) : Except LoadError α := do
  let document := read text
  let value ← decode document.root
  if document.trailing then .error .malformed else .ok value

end FramePlan.Json
