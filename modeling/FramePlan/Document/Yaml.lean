import FramePlan.Document.Yaml.Tree

/-!
# YAML texts

Reads a YAML text into the tree of its only document. A text without a document, with more than one
or with any defect has no tree.

The reader is that of `serde_norway`; its tokens are those of `libyaml`.
-/

namespace FramePlan.Yaml

def isReadable (c : Char) : Bool :=
  let code := c.toNat
  c == '\t' || c == '\n' || c == '\r' || c == '\u0085' || (0x20 ≤ code && code ≤ 0x7e) ||
    (0xa0 ≤ code && code ≤ 0xfffd && c != '\ufeff') || 0x10000 ≤ code

/-- The directives before a document: at most one version, which has to be known, and shorthands for
tags, each handle at most once. -/
def readDirectives : (fuel : Nat) → (hasVersion : Bool) → Shorthands → Reader Shorthands
  | 0, _, shorthands => return shorthands
  | fuel + 1, hasVersion, shorthands => do
    match ← peek with
    | some (.version major minor) =>
      guard (!hasVersion && major = 1 && (minor = 1 || minor = 2))
      pass
      readDirectives fuel true shorthands
    | some (.shorthand handle start) =>
      guard (shorthands.lookup handle).isNone
      pass
      readDirectives fuel hasVersion (shorthands ++ [(handle, start)])
    | _ => return shorthands

/-- Whether a token stands before a document, or at its end. -/
def isBetweenDocuments : Token → Bool
  | .version _ _ | .shorthand _ _ | .documentStart | .documentEnd => true
  | _ => false

/-- Reads the only document. Its start is marked if directives precede it, and may be marked
otherwise; a document without a node is an empty scalar. Each call for a node passes over a token at
least once in two, so twice as much fuel as there are tokens is never used up. -/
def readDocument : Reader Node := do
  let tokens := (← get).tokens
  let fuel := 2 * tokens.length + 2
  let shorthands ← readDirectives tokens.length false []
  let isMarked ← pass? .documentStart
  let next ← peek
  let root ←
    if isMarked && next.all isBetweenDocuments then pure missing
    else do
      guard (isMarked || (← get).tokens.length = tokens.length)
      readNode (shorthands ++ Shorthands.usual) true false fuel
  modify fun remaining =>
    { remaining with tokens := remaining.tokens.dropWhile (· = .documentEnd) }
  guard (← peek).isNone
  return root

/-- Reads a text. A byte order mark may precede it. -/
def read (text : String) : Option Node := do
  let characters := match text.toList with
    | '\ufeff' :: rest => rest
    | characters => characters
  guard (characters.all isReadable)
  let (root, _) ← readDocument.run ⟨← tokens characters, []⟩
  return root

end FramePlan.Yaml
