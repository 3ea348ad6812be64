/-!
# Places in a YAML text

The structure of a YAML text depends on the column at which a word starts. A place holds what
follows it together with its position; `Place.advance` is the way forward, one character or one line
break at a time.

The places are the marks of `libyaml`.
-/

namespace FramePlan.Yaml

/-- The characters that end a line. A carriage return and a line feed are one break together. -/
def isBreak (c : Char) : Bool :=
  c == '\r' || c == '\n' || c == '\u0085' || c == '\u2028' || c == '\u2029'

def isBlank (c : Char) : Bool := c == ' ' || c == '\t'

/-- What a break adds to a text: a line feed, unless it separates lines or paragraphs by itself. -/
def lineFeed (c : Char) : Char := if c == '\u2028' || c == '\u2029' then c else '\n'

/-- Whether a word ends here: nothing, a blank or a break follows. -/
def atGap : List Char → Bool
  | [] => true
  | c :: _ => isBlank c || isBreak c

def isNameChar (c : Char) : Bool := c.isAlphanum || c == '_' || c == '-'

/-- A place in a text, by what follows it, the characters before it and its line and column. -/
structure Place where
  rest : List Char
  index : Nat := 0
  line : Nat := 0
  column : Nat := 0
deriving Repr

namespace Place

/-- The place behind the next character or line break. -/
def advance (place : Place) : Place :=
  match place.rest with
  | [] => place
  | '\r' :: '\n' :: rest => ⟨rest, place.index + 2, place.line + 1, 0⟩
  | c :: rest =>
    if isBreak c then ⟨rest, place.index + 1, place.line + 1, 0⟩
    else ⟨rest, place.index + 1, place.line, place.column + 1⟩

/-- The place a number of characters further in the same line. -/
def drop (count : Nat) (place : Place) : Place :=
  let passed := (place.rest.take count).length
  { place with
    rest := place.rest.drop count, index := place.index + passed, column := place.column + passed }

/-- The characters of one kind that come next, none of which is a break, and the place behind
them. -/
def span (kind : Char → Bool) (place : Place) : List Char × Place :=
  let taken := place.rest.takeWhile kind
  (taken, place.drop taken.length)

/-- Whether a document starts or ends here: three hyphens or points of their own at the start of a
line. -/
def atDocumentMark (place : Place) : Bool :=
  place.column = 0 && match place.rest with
    | '-' :: '-' :: '-' :: rest | '.' :: '.' :: '.' :: rest => atGap rest
    | _ => false

theorem length_advance_lt {place : Place} {c : Char} {rest : List Char}
    (hrest : place.rest = c :: rest) :
    place.advance.rest.length < place.rest.length := by
  unfold advance
  split
  · simp_all
  · next tail htail =>
    simp only [htail, List.length_cons]
    omega
  · next head tail _ htail => split <;> simp [htail]

theorem length_advance_le (place : Place) :
    place.advance.rest.length ≤ place.rest.length := by
  cases hrest : place.rest with
  | nil => simp [advance, hrest]
  | cons c rest => exact hrest ▸ Nat.le_of_lt (length_advance_lt hrest)

@[simp] theorem length_drop (count : Nat) (place : Place) :
    (place.drop count).rest.length = place.rest.length - count := by
  simp [drop]

end Place

end FramePlan.Yaml
