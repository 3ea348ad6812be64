import FramePlan.Document.Node
import FramePlan.Document.Yaml.Token

/-!
# Trees of YAML documents

Builds the tree of a document from its tokens. An alias stands for the node that last had its anchor.
Within that node itself it stands for a value without end, which can be passed over but not read.

Plain scalars keep their text, since their value depends on the expected type. A tag counts
only if it is local to the document, that is, if it starts with an exclamation mark.

The rules are those of the parser of `libyaml` and of the loader of `serde_norway`.
-/

namespace FramePlan

/-- A value without end: no reader accepts it. -/
def Node.endless : Node := .number .beyondRange

/-- What a node is in the place of a key. -/
def Key.ofNode : Node → Key
  | .plain content => .text ⟨some content, none⟩
  | .text quoted => .text quoted
  | .tagged node => ofNode node
  | _ => .compound

namespace Yaml

/-- Shorthands for the start of tags. -/
abbrev Shorthands := List (List Char × List Char)

/-- The shorthands of every document. -/
def Shorthands.usual : Shorthands := [(['!'], ['!']), (['!', '!'], "tag:yaml.org,2002:".toList)]

/-- What is left of a document, and the nodes with an anchor so far. A node that is not complete has
no tree yet. -/
structure Remaining where
  tokens : List Token
  anchors : List (String × Option Node) := []

/-- Reads a part of a document. -/
abbrev Reader := StateT Remaining Option

/-- The next token, which is left in place. -/
def peek : Reader (Option Token) := do return (← get).tokens.head?

def pass : Reader Unit := modify fun remaining =>
  { remaining with tokens := remaining.tokens.drop 1 }

/-- Passes over a token if it is the given one. -/
def pass? (token : Token) : Reader Bool := do
  if (← peek) = some token then
    pass
    return true
  else return false

def declare (anchor : Option String) (node : Option Node) : Reader Unit :=
  match anchor with
  | some name => modify fun remaining =>
    { remaining with anchors := (name, node) :: remaining.anchors }
  | none => return

def resolve (name : String) : Reader Node := do
  let known ← (← get).anchors.lookup name
  return known.getD .endless

def readAnchor : Reader (Option String) := do
  match ← peek with
  | some (.anchor name) =>
    pass
    return some name
  | _ => return none

/-- The text of a tag; its handle has to be known. -/
def tagText (shorthands : Shorthands) (handle suffix : List Char) : Option (List Char) :=
  if handle.isEmpty then some suffix else (shorthands.lookup handle).map (· ++ suffix)

def readTag? (shorthands : Shorthands) : Reader (Option (List Char)) := do
  match ← peek with
  | some (.tag handle suffix) =>
    pass
    return some (← tagText shorthands handle suffix)
  | _ => return none

/-- Reads an anchor and a tag in any order, both of which may be missing. -/
def readProperties (shorthands : Shorthands) : Reader (Option String × Option (List Char)) := do
  let before ← readAnchor
  let tag ← readTag? shorthands
  let anchor ← if before.isSome || tag.isNone then pure before else readAnchor
  return (anchor, tag)

def withTag (tag : Option (List Char)) (node : Node) : Node :=
  if tag.any (·.head? == some '!') then .tagged node else node

/-- A scalar without text, where a node is missing. -/
def missing : Node := .plain ""

/-- Reads a node, unless one of the given tokens follows. -/
def orMissing (stops : List Token) (read : Reader Node) : Reader Node := do
  if (← peek).any stops.contains then return missing else read

mutual

/-- Reads a node. Block collections may only start outside of flow collections; the value of a
member may be a sequence whose items are not indented further. Every call passes over a token at
least before it comes to itself again. -/
def readNode (shorthands : Shorthands) (inBlock isMember : Bool) : (fuel : Nat) → Reader Node
  | 0 => failure
  | fuel + 1 => do
    if let some (.alias name) ← peek then
      pass
      resolve name
    else
      let (anchor, tag) ← readProperties shorthands
      let collection (read : Reader Node) : Reader Node := do
        declare anchor none
        let node := withTag tag (← read)
        declare anchor (some node)
        return node
      let scalar (node : Node) : Reader Node := do
        declare anchor (some node)
        return node
      match ← peek with
      | some (.scalar isPlain text) =>
        pass
        let content := if isPlain then .plain text else .ofString text
        scalar (if tag = some ['!'] then content else withTag tag content)
      | some .openSequence =>
        pass
        collection do return .list (← readFlowItems shorthands true fuel) none
      | some .openMapping =>
        pass
        collection do return .record (← readFlowMembers shorthands true fuel) none
      | some .blockSequence =>
        guard inBlock
        pass
        collection do return .list (← readItems shorthands fuel) none
      | some .blockMapping =>
        guard inBlock
        pass
        collection do return .record (← readMembers shorthands fuel) none
      | next =>
        if isMember && next == some .blockEntry then
          collection do return .list (← readMemberItems shorthands fuel) none
        else
          guard (anchor.isSome || tag.isSome)
          scalar (withTag tag missing)

def readItems (shorthands : Shorthands) : (fuel : Nat) → Reader (List Node)
  | 0 => failure
  | fuel + 1 => do
    if ← pass? .blockEntry then
      let item ← orMissing [.blockEntry, .blockEnd] (readNode shorthands true false fuel)
      return item :: (← readItems shorthands fuel)
    else
      guard (← pass? .blockEnd)
      return []

/-- Reads the items of a sequence that is no further indented than the member it belongs to. -/
def readMemberItems (shorthands : Shorthands) : (fuel : Nat) → Reader (List Node)
  | 0 => failure
  | fuel + 1 => do
    if ← pass? .blockEntry then
      let item ← orMissing [.blockEntry, .key, .value, .blockEnd]
        (readNode shorthands true false fuel)
      return item :: (← readMemberItems shorthands fuel)
    else return []

def readMembers (shorthands : Shorthands) : (fuel : Nat) → Reader (List (Key × Node))
  | 0 => failure
  | fuel + 1 => do
    if ← pass? .key then
      let part := orMissing [.key, .value, .blockEnd] (readNode shorthands true true fuel)
      let key ← part
      let value ← if ← pass? .value then part else pure missing
      return (.ofNode key, value) :: (← readMembers shorthands fuel)
    else
      guard (← pass? .blockEnd)
      return []

/-- Reads the items of a flow sequence. A member of a mapping may stand there for a mapping of its
own; a lone mark of a key takes the token behind it along. -/
def readFlowItems (shorthands : Shorthands) (isFirst : Bool) : (fuel : Nat) → Reader (List Node)
  | 0 => failure
  | fuel + 1 => do
    if ← pass? .closeSequence then return []
    else
      if !isFirst then guard (← pass? .flowEntry)
      if ← pass? .key then
        let item := readNode shorthands false false fuel
        let lacksKey := (← peek).any [Token.value, .flowEntry, .closeSequence].contains
        if lacksKey then pass
        let key ← if lacksKey then pure missing else item
        let value ← if ← pass? .value then orMissing [.flowEntry, .closeSequence] item
          else pure missing
        let single : Node := .record [(.ofNode key, value)] none
        return single :: (← readFlowItems shorthands false fuel)
      else if ← pass? .closeSequence then return []
      else
        let item ← readNode shorthands false false fuel
        return item :: (← readFlowItems shorthands false fuel)

def readFlowMembers (shorthands : Shorthands) (isFirst : Bool) :
    (fuel : Nat) → Reader (List (Key × Node))
  | 0 => failure
  | fuel + 1 => do
    if ← pass? .closeMapping then return []
    else
      if !isFirst then guard (← pass? .flowEntry)
      let part := readNode shorthands false false fuel
      if ← pass? .key then
        let key ← orMissing [.value, .flowEntry, .closeMapping] part
        let value ← if ← pass? .value then orMissing [.flowEntry, .closeMapping] part
          else pure missing
        return (.ofNode key, value) :: (← readFlowMembers shorthands false fuel)
      else if ← pass? .closeMapping then return []
      else
        let key ← part
        return (.ofNode key, missing) :: (← readFlowMembers shorthands false fuel)

end

end Yaml

end FramePlan
