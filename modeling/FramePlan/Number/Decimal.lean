import FramePlan.Number.Double

/-!
# Decimal numbers and their text

A decimal is a significand and a power of ten. Reading a decimal into a binary format rounds the
exact value once. Writing a binary number chooses the fewest digits that read back, and of those
the nearest.
-/

namespace FramePlan

/-- The number `significand · 10 ^ exponent`. -/
structure Decimal where
  significand : Nat
  exponent : Int
deriving DecidableEq, Repr

namespace Decimal

/-- The number written by decimal digits, most significant first. -/
def ofDigits (digits : List Char) : Nat :=
  digits.foldl (fun value c => value * 10 + (c.toNat - '0'.toNat)) 0

/-- The magnitude of the format nearest to the decimal. Exponents far outside the formats' range are
answered without computing the power. -/
def toBinary (format : BinaryFormat) (d : Decimal) : Nat :=
  let digits := (Nat.toDigits 10 d.significand).length
  if d.significand = 0 then 0
  else if 400 < d.exponent + digits then format.infinity
  else if d.exponent + digits < -400 then 0
  else format.roundRatio (d.significand * Nat.pow 10 d.exponent.toNat) (Nat.pow 10 (-d.exponent).toNat)

/-- The largest power of ten that is at most `num / den`. -/
def ratioLog10 (num den : Nat) : Int :=
  let estimate := ratioLog2 num den * 30103 / 100000
  let fits (k : Int) : Bool := den * Nat.pow 10 k.toNat ≤ num * Nat.pow 10 (-k).toNat
  if fits (estimate + 1) then estimate + 1 else if fits estimate then estimate else estimate - 1

/-- The decimal of `count` digits nearest to a finite magnitude, if it reads back. -/
def withDigits? (format : BinaryFormat) (magnitude count : Nat) : Option Decimal :=
  let num := format.scaled magnitude
  let den := format.unit
  let place := ratioLog10 num den - (count - 1)
  let scaledNum := num * Nat.pow 10 (-place).toNat
  let scaledDen := den * Nat.pow 10 place.toNat
  let below : Decimal := ⟨scaledNum / scaledDen, place⟩
  let above : Decimal := ⟨scaledNum / scaledDen + 1, place⟩
  let near := nearestEven scaledNum scaledDen
  let (first, second) := if near = below.significand then (below, above) else (above, below)
  [first, second].find? (fun d => d.toBinary format == magnitude)

/-- The shortest decimal that reads back as a finite nonzero magnitude; seventeen digits always do. -/
def shortest (format : BinaryFormat) (magnitude : Nat) : Decimal :=
  ((List.range 17).findSome? (fun k => withDigits? format magnitude (k + 1))).getD ⟨0, 0⟩

end Decimal

/-- The text of a finite double: the fewest digits that read back, positional from `1e-5` up to
`1e16`, with a fraction always written; outside that range one digit before the point and a signed
exponent. -/
def Double.text (x : Double) : String :=
  let sign := if x.isNegative then "-" else ""
  if x.magnitude = 0 then sign ++ "0.0"
  else
    let d := Decimal.shortest .double x.magnitude
    let digits := Nat.toDigits 10 d.significand
    let trailing := (digits.reverse.takeWhile (· == '0')).length
    let digits := digits.take (digits.length - trailing)
    let exponent := d.exponent + trailing
    let point : Int := digits.length + exponent
    let body :=
      if 0 ≤ exponent && point ≤ 16 then
        digits ++ List.replicate exponent.toNat '0' ++ ['.', '0']
      else if 0 < point && point ≤ 16 then
        digits.take point.toNat ++ '.' :: digits.drop point.toNat
      else if -5 < point && point ≤ 0 then
        ['0', '.'] ++ List.replicate (-point).toNat '0' ++ digits
      else
        let mark := if 0 < point then ['e', '+'] else ['e', '-']
        let size := Nat.toDigits 10 (point - 1).natAbs
        match digits with
        | [] => []
        | [only] => only :: mark ++ size
        | first :: rest => first :: '.' :: rest ++ mark ++ size
    sign ++ String.ofList body

inductive NumberFault where
  | empty
  | invalid
deriving DecidableEq, Repr

def NumberFault.message : NumberFault → String
  | .empty => "cannot parse float from empty string"
  | .invalid => "invalid float literal"

namespace Decimal

/-- A signed exponent part: nothing, or `e` with an optional sign and at least one digit. -/
def exponentOf? : List Char → Option Int
  | [] => some 0
  | mark :: rest =>
    if mark == 'e' || mark == 'E' then
      let (negative, digits) := match rest with
        | '+' :: digits => (false, digits)
        | '-' :: digits => (true, digits)
        | digits => (false, digits)
      if digits.isEmpty || !digits.all Char.isDigit then none
      else some (if negative then -(ofDigits digits : Int) else ofDigits digits)
    else none

/-- Digits with an optional point among or around them, then an optional exponent. -/
def ofUnsigned? (text : List Char) : Option Decimal :=
  let whole := text.takeWhile Char.isDigit
  let rest := text.dropWhile Char.isDigit
  let (fraction, rest) := match rest with
    | '.' :: rest => (rest.takeWhile Char.isDigit, rest.dropWhile Char.isDigit)
    | rest => ([], rest)
  if whole.isEmpty && fraction.isEmpty then none
  else (exponentOf? rest).map fun exponent =>
    ⟨ofDigits (whole ++ fraction), exponent - fraction.length⟩

end Decimal

/-- Reads a magnitude: a decimal, `inf`, `infinity` or `nan` in any case. -/
def BinaryFormat.magnitudeOf? (format : BinaryFormat) (text : List Char) : Option Nat :=
  let word := String.ofList (text.map Char.toLower)
  if word == "inf" || word == "infinity" then some format.infinity
  else if word == "nan" then some format.quietNaN
  else (Decimal.ofUnsigned? text).map (·.toBinary format)

/-- Reads a signed number in the format: its sign and its magnitude. -/
def BinaryFormat.parse (format : BinaryFormat) (text : List Char) : Except NumberFault (Bool × Nat) :=
  let (negative, rest) := match text with
    | '-' :: rest => (true, rest)
    | '+' :: rest => (false, rest)
    | rest => (false, rest)
  if text.isEmpty then .error .empty
  else match format.magnitudeOf? rest with
    | some magnitude => .ok (negative, magnitude)
    | none => .error .invalid

def Single.parse (text : List Char) : Except NumberFault Single :=
  (BinaryFormat.single.parse text).map fun (negative, magnitude) => Single.ofParts negative magnitude

def Double.parse (text : List Char) : Except NumberFault Double :=
  (BinaryFormat.double.parse text).map fun (negative, magnitude) => Double.ofParts negative magnitude

end FramePlan
