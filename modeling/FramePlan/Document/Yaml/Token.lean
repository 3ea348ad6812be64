import FramePlan.Document.Yaml.Scalar

/-!
# Tokens of YAML texts

A YAML text is split into marks, names and scalars. Outside of flow collections the indentation of a
line opens and closes block collections, which the tokens show as if they were written.

What starts a key is only known at its colon. Until then every place where a key may start
is recorded, and the colon puts the tokens of the key and of its mapping in front of what has been
read since. A key is written in one line and is 1024 characters long at most.

The rules are those of the scanner of `libyaml`.
-/

namespace FramePlan.Yaml

inductive Token where
  | version (major minor : Nat)
  /-- A shorthand for the start of tags. -/
  | shorthand (handle start : List Char)
  | documentStart
  | documentEnd
  | blockSequence
  | blockMapping
  | blockEnd
  | openSequence
  | closeSequence
  | openMapping
  | closeMapping
  | blockEntry
  | flowEntry
  | key
  | value
  | anchor (name : String)
  | alias (name : String)
  | tag (handle suffix : List Char)
  | scalar (isPlain : Bool) (text : String)
deriving DecidableEq, Repr

/-- A place where a key may have started: how many tokens stand before it, and whether it can be
nothing else. -/
structure PossibleKey where
  position : Nat
  index : Nat
  line : Nat
  column : Nat
  isRequired : Bool
deriving Repr

/-- How far the text is read: the tokens so far, the columns of the open block collections and the
possible keys of the collections around this place, innermost first. -/
structure Layout where
  place : Place
  tokens : Array Token := #[]
  columns : List Nat := []
  possibleKey : Option PossibleKey := none
  outerKeys : List (Option PossibleKey) := []
  keyAllowed : Bool := true
deriving Repr

namespace Layout

/-- Whether this place is inside of a flow collection. -/
def inFlow (layout : Layout) : Bool := !layout.outerKeys.isEmpty

/-- The least column of what belongs to the innermost block collection. -/
def innerColumn (layout : Layout) : Nat :=
  match layout.columns with
  | column :: _ => column + 1
  | [] => 0

def push (layout : Layout) (token : Token) (place : Place) : Layout :=
  { layout with tokens := layout.tokens.push token, place }

/-- Gives up the innermost possible key, unless it can be nothing else. -/
def dropKey (layout : Layout) : Option Layout :=
  if layout.possibleKey.any (·.isRequired) then none
  else some { layout with possibleKey := none }

/-- Records that a key may start here. What stands in the column of the innermost block can be
nothing else. -/
def markKey (layout : Layout) : Option Layout :=
  if layout.keyAllowed then do
    let layout ← layout.dropKey
    let place := layout.place
    let isRequired := !layout.inFlow && layout.columns.head? == some place.column
    let key : PossibleKey :=
      ⟨layout.tokens.size, place.index, place.line, place.column, isRequired⟩
    return { layout with possibleKey := some key }
  else some layout

/-- Whether a possible key is too far behind to be one. -/
def isStale (place : Place) (key : PossibleKey) : Bool :=
  key.line < place.line || key.index + 1024 < place.index

/-- Gives up the possible keys that are too far behind. -/
def dropStaleKeys (layout : Layout) : Option Layout :=
  let keep (key : Option PossibleKey) : Option PossibleKey := key.filter (!isStale layout.place ·)
  let keys := layout.possibleKey :: layout.outerKeys
  if keys.any (·.any fun key => isStale layout.place key && key.isRequired) then none
  else some { layout with
    possibleKey := keep layout.possibleKey, outerKeys := layout.outerKeys.map keep }

/-- Closes the block collections that start at a column or behind it. -/
def closeBlocks (layout : Layout) (column : Nat) : Layout :=
  if layout.inFlow then layout
  else
    let closed := layout.columns.takeWhile (column ≤ ·)
    { layout with
      tokens := layout.tokens ++ closed.map fun _ => Token.blockEnd
      columns := layout.columns.dropWhile (column ≤ ·) }

/-- Opens a block collection at a column behind the innermost one; its token is put in front of the
tokens from `position` on. -/
def openBlock (layout : Layout) (token : Token) (column position : Nat) : Layout :=
  if layout.inFlow || column < layout.innerColumn then layout
  else { layout with
    tokens := layout.tokens.insertIdxIfInBounds position token
    columns := column :: layout.columns }

/-- Passes over blanks, comments and line breaks. A block allows a key at the start of a line, but no
tabs before it. -/
def toToken (layout : Layout) : Layout :=
  match _hrest : layout.place.rest with
  | [] => layout
  | c :: _ =>
    if isBreak c then
      toToken { layout with
        place := layout.place.advance, keyAllowed := layout.keyAllowed || !layout.inFlow }
    else if c == ' ' || (c == '\t' && (layout.inFlow || !layout.keyAllowed)) then
      toToken { layout with place := layout.place.advance }
    else if c == '#' then
      toToken { layout with place := (layout.place.advance.span (!isBreak ·)).2 }
    else layout
termination_by layout.place.rest.length
decreasing_by
  · exact Place.length_advance_lt _hrest
  · exact Place.length_advance_lt _hrest
  · refine Nat.lt_of_le_of_lt ?_ (Place.length_advance_lt _hrest)
    simp [Place.span]

/-- Reads a mark of one character that a key may follow, or not. -/
def mark (layout : Layout) (token : Token) (keyAllowed : Bool) : Layout :=
  { layout.push token (layout.place.drop 1) with keyAllowed }

def documentMark (layout : Layout) (token : Token) : Option Layout := do
  let layout ← (layout.closeBlocks 0).dropKey
  return { layout.push token (layout.place.drop 3) with keyAllowed := false }

def openFlow (layout : Layout) (token : Token) : Option Layout := do
  let layout ← layout.markKey
  return { layout.mark token true with
    possibleKey := none, outerKeys := layout.possibleKey :: layout.outerKeys }

def closeFlow (layout : Layout) (token : Token) : Option Layout := do
  let layout := (← layout.dropKey).mark token false
  match layout.outerKeys with
  | key :: outerKeys => return { layout with possibleKey := key, outerKeys }
  | [] => return layout

/-- Reads a mark that starts an item or a key. Outside of flow collections it opens a block
collection and can only stand where a key is allowed. -/
def blockMark (layout : Layout) (token collection : Token) (keyAllowed : Bool) : Option Layout := do
  guard (layout.inFlow || layout.keyAllowed)
  let layout := layout.openBlock collection layout.place.column layout.tokens.size
  return (← layout.dropKey).mark token keyAllowed

/-- Reads a colon. Where a key may have started, its token is inserted. -/
def colon (layout : Layout) : Option Layout :=
  match layout.possibleKey with
  | some key =>
    let layout := { layout with
      tokens := layout.tokens.insertIdxIfInBounds key.position .key, possibleKey := none }
    some ((layout.openBlock .blockMapping key.column key.position).mark .value false)
  | none => layout.blockMark .value .blockMapping (!layout.inFlow)

/-- Reads a scalar or a property of a node, which may be the start of a key. -/
def node (layout : Layout) (read : Place → Option (Token × Place)) : Option Layout := do
  let layout ← layout.markKey
  let (token, place) ← read layout.place
  return { layout.push token place with keyAllowed := false }

end Layout

/-- Reads an anchor or an alias, which is a name. -/
def readName (token : String → Token) (place : Place) : Option (Token × Place) :=
  let (name, behind) := (place.drop 1).span isNameChar
  let isEnd := atGap behind.rest ||
    behind.rest.head?.any ['?', ':', ',', ']', '\x7d', '%', '@', '\x60'].contains
  if name.isEmpty || !isEnd then none else some (token (String.ofList name), behind)

/-- The value of an octet written as a percent sign and two digits in base sixteen. -/
def octet? : List Char → Option Nat
  | '%' :: high :: low :: _ => Text.ofBase? 16 [high, low]
  | _ => none

/-- How many octets a character takes, by the first of them, and the bits of the code in this one. -/
def leadingOctet? (octet : Nat) : Option (Nat × Nat) :=
  if octet < 0x80 then some (1, octet)
  else if octet < 0xc0 then none
  else if octet < 0xe0 then some (2, octet % 0x20)
  else if octet < 0xf0 then some (3, octet % 0x10)
  else if octet < 0xf8 then some (4, octet % 0x08)
  else none

/-- The character that octets stand for, and what follows them. -/
def escapedChar? (text : List Char) : Option (Char × List Char) := do
  let (count, start) ← (octet? text).bind leadingOctet?
  let code ← (List.range (count - 1)).foldlM (fun code position => do
    let octet ← octet? (text.drop (3 * (position + 1)))
    guard (0x80 ≤ octet && octet < 0xc0)
    return code * 0x40 + octet % 0x40) start
  return (Char.ofNat code, text.drop (3 * count))

/-- Whether a character may stand in a tag; in a bare tag the marks of flow collections may not. -/
def isTagChar (isVerbatim : Bool) (c : Char) : Bool :=
  isNameChar c || ";/?:@&=+$.!~*'()".contains c || (isVerbatim && ",[]".contains c)

/-- Reads the characters of a tag. Every one of them is a character of the text or more, so as much
fuel as there are characters is never used up. -/
def readTagChars (isVerbatim : Bool) : (fuel : Nat) → Place → Option (List Char × Place)
  | 0, place => some ([], place)
  | fuel + 1, place =>
    match place.rest with
    | c :: _ =>
      if c == '%' then do
        let (escaped, rest) ← escapedChar? place.rest
        let (others, behind) ←
          readTagChars isVerbatim fuel (place.drop (place.rest.length - rest.length))
        return (escaped :: others, behind)
      else if isTagChar isVerbatim c then do
        let (others, behind) ← readTagChars isVerbatim fuel (place.drop 1)
        return (c :: others, behind)
      else some ([], place)
    | [] => some ([], place)

/-- Reads the handle of a tag: a name between exclamation marks, where the second one may be
missing. -/
def readHandle (place : Place) : Option (List Char × Place) :=
  match place.rest with
  | '!' :: _ =>
    let (name, behind) := (place.drop 1).span isNameChar
    if behind.rest.head? == some '!' then some ('!' :: name ++ ['!'], behind.drop 1)
    else some ('!' :: name, behind)
  | _ => none

/-- Whether a handle ends in an exclamation mark of its own. -/
def isClosedHandle (handle : List Char) : Bool :=
  1 < handle.length && handle.getLast? == some '!'

/-- Reads a tag: the whole of it between angle brackets, or a handle and a suffix. A lone exclamation
mark is a tag without a handle. -/
def readTag (inFlow : Bool) (place : Place) : Option (Token × Place) := do
  let (token, behind) ← match place.rest with
    | '!' :: '<' :: rest => do
      let (text, behind) ← readTagChars true rest.length (place.drop 2)
      guard (!text.isEmpty && behind.rest.head? == some '>')
      pure (Token.tag [] text, behind.drop 1)
    | _ => do
      let (handle, behind) ← readHandle place
      let (suffix, behind) ← readTagChars false behind.rest.length behind
      if isClosedHandle handle then
        guard !suffix.isEmpty
        pure (Token.tag handle suffix, behind)
      else
        let suffix := handle.drop 1 ++ suffix
        pure (if suffix.isEmpty then Token.tag [] ['!'] else Token.tag ['!'] suffix, behind)
  guard (atGap behind.rest || (inFlow && behind.rest.head? == some ','))
  return (token, behind)

/-- Reads a number of at most nine digits. -/
def readVersionPart (place : Place) : Option (Nat × Place) :=
  let (digits, behind) := place.span Char.isDigit
  if digits.isEmpty || 9 < digits.length then none else some (Decimal.ofDigits digits, behind)

/-- Reads a directive, which takes a line of its own. -/
def readDirective (place : Place) : Option (Token × Place) := do
  let (name, behind) := (place.drop 1).span isNameChar
  guard (atGap behind.rest)
  let (_, start) := behind.span isBlank
  let (token, behind) ←
    if name = ['Y', 'A', 'M', 'L'] then do
      let (major, behind) ← readVersionPart start
      guard (behind.rest.head? == some '.')
      let (minor, behind) ← readVersionPart (behind.drop 1)
      pure (Token.version major minor, behind)
    else if name = ['T', 'A', 'G'] then do
      let (handle, behind) ← readHandle start
      guard ((handle = ['!'] || isClosedHandle handle) && behind.rest.head?.any isBlank)
      let (_, behind) := behind.span isBlank
      let (start, behind) ← readTagChars true behind.rest.length behind
      guard (!start.isEmpty && atGap behind.rest)
      pure (Token.shorthand handle start, behind)
    else none
  return (token, ← readLineEnd behind)

def startsPlain (inFlow : Bool) (c : Char) (rest : List Char) : Bool :=
  if c == '-' then !rest.head?.any isBlank
  else if c == '?' || c == ':' then !inFlow && !atGap rest
  else !(isBlank c || ",[]\x7b\x7d#&*!|>'\"%@\x60".contains c)

namespace Layout

/-- Reads a plain scalar. A key may follow it where it was left at the start of a line. -/
def plain (layout : Layout) : Option Layout := do
  let layout ← layout.markKey
  let scalar ← readPlain layout.inFlow layout.innerColumn [] .none layout.place
  return { layout.push (.scalar true scalar.text) scalar.behind with
    keyAllowed := scalar.endsLine }

def block (layout : Layout) (folded : Bool) : Option Layout := do
  let layout ← layout.dropKey
  let (text, behind) ←
    readBlock folded layout.innerColumn (layout.columns.headD 0) (layout.place.drop 1)
  return { layout.push (.scalar false text) behind with keyAllowed := true }

def quoted (layout : Layout) (double : Bool) : Option Layout :=
  layout.node fun place => do
    let (text, behind) ← readQuoted double [] .none (place.drop 1)
    return (.scalar false text, behind)

def directive (layout : Layout) : Option Layout := do
  let layout ← (layout.closeBlocks 0).dropKey
  let (token, behind) ← readDirective layout.place
  return { layout.push token behind with keyAllowed := false }

def token (layout : Layout) (c : Char) (rest : List Char) : Option Layout :=
  let inFlow := layout.inFlow
  let standsAlone := inFlow || atGap rest
  if layout.place.column = 0 && c == '%' then layout.directive
  else if layout.place.atDocumentMark then
    layout.documentMark (if c == '-' then .documentStart else .documentEnd)
  else match c with
    | '[' => layout.openFlow .openSequence
    | '\x7b' => layout.openFlow .openMapping
    | ']' => layout.closeFlow .closeSequence
    | '\x7d' => layout.closeFlow .closeMapping
    | ',' => layout.dropKey.map (·.mark .flowEntry true)
    | '*' => layout.node (readName .alias)
    | '&' => layout.node (readName .anchor)
    | '!' => layout.node (readTag inFlow)
    | '\'' => layout.quoted false
    | '"' => layout.quoted true
    | c =>
      if c == '-' && atGap rest then layout.blockMark .blockEntry .blockSequence true
      else if c == '?' && standsAlone then layout.blockMark .key .blockMapping (!inFlow)
      else if c == ':' && standsAlone then layout.colon
      else if c == '|' && !inFlow then layout.block false
      else if c == '>' && !inFlow then layout.block true
      else if startsPlain inFlow c rest then layout.plain
      else none

/-- Reads the tokens up to the end of the text. Each is a character long at least, so more fuel than
there are characters is never used up. -/
def readAll : (fuel : Nat) → Layout → Option (List Token)
  | 0, _ => none
  | fuel + 1, layout => do
    let layout ← layout.toToken.dropStaleKeys
    let layout := layout.closeBlocks (layout.place.column + 1)
    match layout.place.rest with
    | [] => return (← (layout.closeBlocks 0).dropKey).tokens.toList
    | c :: rest => readAll fuel (← layout.token c rest)

end Layout

def tokens (text : List Char) : Option (List Token) :=
  Layout.readAll (text.length + 1) { place := ⟨text, 0, 0, 0⟩ }

end FramePlan.Yaml
