/-!
# Classes of characters

Sets of code points are lists of inclusive ranges in ascending order. Blanks are the white space of any
script. Letters of either case stand for the digits from ten on in bases up to sixteen.
-/

namespace FramePlan.Text

/-- Whether a code point lies in one of the inclusive ranges. -/
def inRanges (ranges : List (Nat × Nat)) (code : Nat) : Bool :=
  ranges.any (fun range => range.1 ≤ code && code ≤ range.2)

def blanks : List (Nat × Nat) :=
  [(0x9, 0xd), (0x20, 0x20), (0x85, 0x85), (0xa0, 0xa0), (0x1680, 0x1680), (0x2000, 0x200a),
    (0x2028, 0x2029), (0x202f, 0x202f), (0x205f, 0x205f), (0x3000, 0x3000)]

def isBlank (c : Char) : Bool := inRanges blanks c.toNat

/-- A text without the blanks at its ends. -/
def trim (text : List Char) : List Char :=
  ((text.dropWhile isBlank).reverse.dropWhile isBlank).reverse

def hexDigit? (c : Char) : Option Nat :=
  if c.isDigit then some (c.toNat - '0'.toNat)
  else if 'a' ≤ c && c ≤ 'f' then some (c.toNat - 'a'.toNat + 10)
  else if 'A' ≤ c && c ≤ 'F' then some (c.toNat - 'A'.toNat + 10)
  else none

/-- The number that digits of a base make up, unless one of them is no digit of it. The base is at
most sixteen. -/
def ofBase? (base : Nat) (digits : List Char) : Option Nat :=
  digits.foldlM (fun value c =>
    ((hexDigit? c).filter (· < base)).map fun digit => value * base + digit) 0

end FramePlan.Text
