import FramePlan.Document.Yaml.Place
import FramePlan.Number.Decimal
import FramePlan.Text.Character

/-!
# Scalars of YAML texts

The three ways to write a scalar: plain, between quotes, and as a block of lines. A plain or quoted
scalar may go over several lines; the gaps between its parts are folded. In a block every line break
counts, or those between lines are folded where the block says so.

Written text is collected in reverse. A reader answers `none` where the text is no scalar.

The rules are those of the scanner of `libyaml`.
-/

namespace FramePlan.Yaml

/-- What separates two parts of a scalar. -/
inductive Gap where
  /-- Blanks within a line, in reverse. -/
  | blanks (reversed : List Char)
  /-- Line breaks: the first one, which is missing if it is escaped, and those after it in
  reverse. -/
  | breaks (first : Option Char) (others : List Char)
deriving DecidableEq, Repr

namespace Gap

def none : Gap := .blanks []

/-- The gap with a further blank or break. Blanks around a break do not count. -/
def add (c : Char) : Gap → Gap
  | .blanks reversed =>
    if isBlank c then .blanks (c :: reversed) else .breaks (some (lineFeed c)) []
  | .breaks first others =>
    if isBlank c then .breaks first others else .breaks first (lineFeed c :: others)

/-- What a gap stands for, in reverse: a single line feed is a blank, and the first of several ones
does not count. -/
def folded : Gap → List Char
  | .blanks reversed => reversed
  | .breaks (some '\n') [] => [' ']
  | .breaks (some '\n') others => others
  | .breaks first others => others ++ first.toList

end Gap

/-- A plain scalar, and whether it was left at the start of a line. -/
structure PlainText where
  text : String
  behind : Place
  endsLine : Bool

/-- Whether a character ends a plain scalar. -/
def endsPlain (inFlow : Bool) (c : Char) (rest : List Char) : Bool :=
  (c == ':' && atGap rest) || (inFlow && [',', '[', ']', '\x7b', '\x7d'].contains c)

/-- Whether a colon stands before a mark of a flow collection. -/
def isMisplacedColon (c : Char) (rest : List Char) : Bool :=
  c == ':' && rest.head?.any [',', '?', '[', ']', '\x7b', '\x7d'].contains

/-- Whether a plain scalar ends at the gap before this place: a comment, a document mark or a line
that is indented too little follows. -/
def endsAtGap (inFlow : Bool) (indent : Nat) (gap : Gap) (place : Place) : Bool :=
  match gap with
  | .blanks [] => false
  | .blanks _ => place.rest.head? == some '#'
  | .breaks _ _ =>
    (!inFlow && place.column < indent) || place.atDocumentMark || place.rest.head? == some '#'

/-- Reads a plain scalar. Outside of flow collections its further lines are indented by `indent`
columns at least, and no tab may stand before that column. -/
def readPlain (inFlow : Bool) (indent : Nat) (written : List Char) (gap : Gap) (place : Place) :
    Option PlainText :=
  let closed : PlainText :=
    ⟨String.ofList written.reverse, place, gap matches .breaks _ _⟩
  match _hrest : place.rest with
  | [] => some closed
  | c :: rest =>
    if isBlank c || isBreak c then
      if (gap matches .breaks _ _) && c == '\t' && place.column < indent then none
      else readPlain inFlow indent written (gap.add c) place.advance
    else if endsAtGap inFlow indent gap place then some closed
    else if inFlow && isMisplacedColon c rest then none
    else if endsPlain inFlow c rest then some closed
    else readPlain inFlow indent (c :: (gap.folded ++ written)) .none place.advance
termination_by place.rest.length
decreasing_by all_goals exact Place.length_advance_lt _hrest

def letterEscape? : Char → Option Char
  | '0' => some '\x00'
  | 'a' => some '\x07'
  | 'b' => some '\x08'
  | 't' | '\t' => some '\t'
  | 'n' => some '\n'
  | 'v' => some '\x0b'
  | 'f' => some '\x0c'
  | 'r' => some '\r'
  | 'e' => some '\x1b'
  | ' ' => some ' '
  | '"' => some '"'
  | '/' => some '/'
  | '\\' => some '\\'
  | 'N' => some '\u0085'
  | '_' => some '\u00a0'
  | 'L' => some '\u2028'
  | 'P' => some '\u2029'
  | _ => none

/-- The character with a number of digits in base sixteen, unless it is half a character or
beyond the last one. -/
def codeEscape? (count : Nat) (text : List Char) : Option Char := do
  let digits := text.take count
  guard (digits.length = count)
  let code ← Text.ofBase? 16 digits
  guard code.isValidChar
  return Char.ofNat code

/-- The character of an escape behind its backslash, and the length of the escape. -/
def escape? (text : List Char) : Option (Char × Nat) :=
  match text with
  | [] => none
  | 'x' :: rest => (codeEscape? 2 rest).map (·, 3)
  | 'u' :: rest => (codeEscape? 4 rest).map (·, 5)
  | 'U' :: rest => (codeEscape? 8 rest).map (·, 9)
  | c :: _ => (letterEscape? c).map (·, 1)

/-- Reads a quoted scalar behind its opening quote. Only between double quotes are there escapes; a
single quote stands for itself if it is written twice. -/
def readQuoted (double : Bool) (written : List Char) (gap : Gap) (place : Place) :
    Option (String × Place) :=
  match _hrest : place.rest with
  | [] => none
  | c :: rest =>
    if isBlank c || isBreak c then readQuoted double written (gap.add c) place.advance
    else if place.atDocumentMark then none
    else
      let written := gap.folded ++ written
      let closed := some (String.ofList written.reverse, place.drop 1)
      if double then
        if c == '"' then closed
        else if c == '\\' then
          if rest.head?.any isBreak then
            readQuoted double written (.breaks none []) (place.drop 1).advance
          else match escape? rest with
            | none => none
            | some (escaped, length) =>
              readQuoted double (escaped :: written) .none (place.drop (length + 1))
        else readQuoted double (c :: written) .none place.advance
      else if c == '\'' then
        if rest.head? == some '\'' then readQuoted double ('\'' :: written) .none (place.drop 2)
        else closed
      else readQuoted double (c :: written) .none place.advance
termination_by place.rest.length
decreasing_by
  · exact Place.length_advance_lt _hrest
  · exact Nat.lt_of_le_of_lt (Place.length_advance_le _) (by simp [_hrest])
  · simp only [Place.length_drop, _hrest, List.length_cons]
    omega
  · exact Place.length_advance_lt _hrest
  · simp only [Place.length_drop, _hrest, List.length_cons]
    omega
  · exact Place.length_advance_lt _hrest

/-- Which of the line breaks at the end of a block count. -/
inductive Chomping where
  | strip
  | clip
  | keep
deriving DecidableEq, Repr

/-- The chomping that a mark stands for. -/
def Chomping.ofMark? : Char → Option Chomping
  | '-' => some .strip
  | '+' => some .keep
  | _ => none

/-- How a block announces itself: its chomping, and its indentation where that is given. -/
structure BlockHeader where
  chomping : Chomping
  indentation : Option Nat

/-- Reads the mark of a chomping, if one follows. -/
def readChomping (place : Place) : Option Chomping × Place :=
  match place.rest.head?.bind Chomping.ofMark? with
  | some chomping => (some chomping, place.drop 1)
  | none => (none, place)

/-- Reads a digit from one to nine, if a digit follows. -/
def readIndentation (place : Place) : Option (Option Nat × Place) :=
  match place.rest.head?.filter Char.isDigit with
  | some '0' => none
  | some digit => some (some (digit.toNat - '0'.toNat), place.drop 1)
  | none => some (none, place)

/-- Passes over what is left of a line but blanks and a comment. -/
def readLineEnd (place : Place) : Option Place :=
  let (_, place) := place.span isBlank
  let place := if place.rest.head? == some '#' then (place.span (!isBreak ·)).2 else place
  if place.rest.head?.all isBreak then some place.advance else none

/-- Reads the rest of the line that announces a block. -/
def readBlockHeader (place : Place) : Option (BlockHeader × Place) := do
  let (before, place) := readChomping place
  let (indentation, place) ← readIndentation place
  let (chomping, place) := if before.isSome then (before, place) else readChomping place
  let place ← readLineEnd place
  return (⟨chomping.getD .clip, indentation⟩, place)

/-- Passes over empty lines and over the indentation of the next line. Gives the breaks met in
reverse and the widest indentation. No tab may stand in the place of indentation; without a given
`indent` all blanks at the start of a line are indentation. -/
def readEmptyLines (indent : Option Nat) (widest : Nat) (breaks : List Char) (place : Place) :
    Option (List Char × Nat × Place) :=
  let spaces := (place.rest.takeWhile (· == ' ')).length
  let start := place.drop (match indent with
    | some indent => min spaces (indent - place.column)
    | none => spaces)
  let widest := max widest start.column
  match _hrest : start.rest with
  | [] => some (breaks, widest, start)
  | c :: _ =>
    if c == '\t' && indent.all (start.column < ·) then none
    else if isBreak c then readEmptyLines indent widest (lineFeed c :: breaks) start.advance
    else some (breaks, widest, start)
termination_by place.rest.length
decreasing_by
  have hdrop : start.rest.length ≤ place.rest.length := by simp [start]
  exact Nat.lt_of_lt_of_le (Place.length_advance_lt _hrest) hdrop

/-- The text of a block before its end is chomped: the lines, the break behind the last of them and
the breaks of the empty lines that follow. -/
structure BlockLines where
  written : List Char := []
  lastBreak : Option Char := none
  breaks : List Char

/-- Reads the lines of a block that are indented as its first line is. A break between two lines that
do not start with a blank is folded if the block is. Each line is one character long at least, so as
much fuel as there are characters is never used up. -/
def readLines (folded : Bool) (indent : Nat) :
    (fuel : Nat) → (afterBlank : Bool) → BlockLines → Place → Option (BlockLines × Place)
  | 0, _, lines, place => some (lines, place)
  | fuel + 1, afterBlank, lines, place =>
    if place.column = indent && !place.rest.isEmpty then do
      let startsBlank := place.rest.head?.any isBlank
      let joint :=
        if folded && lines.lastBreak == some '\n' && !afterBlank && !startsBlank then
          if lines.breaks.isEmpty then [' '] else []
        else lines.lastBreak.toList
      let (line, place) := place.span (!isBreak ·)
      let lastBreak := place.rest.head?.map lineFeed
      let (breaks, _, next) ← readEmptyLines (some indent) 0 [] place.advance
      let written := line.reverse ++ (lines.breaks ++ (joint ++ lines.written))
      readLines folded indent fuel startsBlank ⟨written, lastBreak, breaks⟩ next
    else some (lines, place)

def BlockLines.chomped (lines : BlockLines) (chomping : Chomping) : String :=
  let last := if chomping = .strip then [] else lines.lastBreak.toList
  let empty := if chomping = .keep then lines.breaks else []
  String.ofList (empty ++ (last ++ lines.written)).reverse

/-- Reads a block scalar behind its mark. `indent` is the least column that its lines may start at,
and `base` the column that a given indentation is counted from. -/
def readBlock (folded : Bool) (indent base : Nat) (place : Place) : Option (String × Place) := do
  let (header, place) ← readBlockHeader place
  let given := header.indentation.map (base + ·)
  let (breaks, widest, place) ← readEmptyLines given 0 [] place
  let indent := given.getD (max (max widest indent) 1)
  let (lines, place) ← readLines folded indent place.rest.length false { breaks } place
  return (lines.chomped header.chomping, place)

end FramePlan.Yaml
