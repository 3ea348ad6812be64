import FramePlan.Shader.Token
import FramePlan.Shader.Tree

/-!
# From tokens to trees

A parser takes what it reads off the front of a list of tokens. Binary operators associate to the
left, in ten levels. Loops and nesting are bounded by the number of tokens, of which every round
takes at least one.

The grammar is that of the parser of `naga`.
-/

namespace FramePlan.Shader

/-- Reads something off the front of a list of tokens. -/
abbrev Parser := StateT (List Token) Option

namespace Parser

/-- The number of tokens left, which bounds every loop over them. -/
def remaining : Parser Nat := return (← get).length

def skip (text : String) : Parser Bool := do
  match ← get with
  | .mark found :: rest => if found == text then set rest; return true else return false
  | _ => return false

def expect (text : String) : Parser Unit := do
  if !(← skip text) then failure

def skipWord (text : String) : Parser Bool := do
  match ← get with
  | .word found :: rest => if found == text then set rest; return true else return false
  | _ => return false

def skipAngle (opening : Bool) : Parser Bool := do
  match ← get with
  | .angle found _ :: rest => if found == opening then set rest; return true else return false
  | _ => return false

def word : Parser String := do
  match ← get with
  | .word text :: rest => set rest; return text
  | _ => failure

def reserved : List String :=
  ["alias", "break", "case", "const", "const_assert", "continue", "continuing", "default",
    "diagnostic", "discard", "else", "enable", "false", "fn", "for", "if", "let", "loop",
    "override", "requires", "return", "struct", "switch", "true", "var", "while",
    "NULL", "Self", "abstract", "active", "alignas", "alignof", "as", "asm", "asm_fragment",
    "async", "attribute", "auto", "await", "become", "binding_array", "cast", "catch", "class",
    "co_await", "co_return", "co_yield", "coherent", "column_major", "common", "compile",
    "compile_fragment", "concept", "const_cast", "consteval", "constexpr", "constinit", "crate",
    "debugger", "decltype", "delete", "demote", "demote_to_helper", "do", "dynamic_cast", "enum",
    "explicit", "export", "extends", "extern", "external", "fallthrough", "filter", "final",
    "finally", "friend", "from", "fxgroup", "get", "goto", "groupshared", "highp", "impl",
    "implements", "import", "inline", "instanceof", "interface", "layout", "lowp", "macro",
    "macro_rules", "match", "mediump", "meta", "mod", "module", "move", "mut", "mutable",
    "namespace", "new", "nil", "noexcept", "noinline", "nointerpolation", "noperspective", "null",
    "nullptr", "of", "operator", "package", "packoffset", "partial", "pass", "patch",
    "pixelfragment", "precise", "precision", "premerge", "priv", "protected", "pub", "public",
    "readonly", "ref", "regardless", "register", "reinterpret_cast", "require", "resource",
    "restrict", "self", "set", "shared", "sizeof", "smooth", "snorm", "static", "static_assert",
    "static_cast", "std", "subroutine", "super", "target", "template", "this", "thread_local",
    "throw", "trait", "try", "type", "typedef", "typeid", "typename", "typeof", "union", "unless",
    "unorm", "unsafe", "unsized", "use", "using", "varying", "virtual", "volatile", "wgsl",
    "where", "with", "writeonly", "yield"]

/-- Takes a word that may be the name of something declared. -/
def newName : Parser String := do
  let text ← word
  if text == "_" || text.startsWith "__" || reserved.contains text then failure
  return text

/-- Repeats an item until a check made before it finds the end, in a number of
rounds. -/
def untilEndWithin {α : Type} (atEnd : Parser Bool) (item : Parser α) : Nat → Parser (List α)
  | 0 => failure
  | rounds + 1 => do
    if ← atEnd then return []
    let first ← item
    return first :: (← untilEndWithin atEnd item rounds)

/-- Repeats an item until a check made before it finds the end. -/
def untilEnd {α : Type} (atEnd : Parser Bool) (item : Parser α) : Parser (List α) := do
  untilEndWithin atEnd item ((← remaining) + 1)

/-- Items with commas between them up to a closing mark, in a number of rounds. -/
def commaSeparatedWithin {α : Type} (close : Parser Bool) (item : Parser α) :
    Nat → Parser (List α)
  | 0 => failure
  | rounds + 1 => do
    if ← close then return []
    let first ← item
    if ← skip "," then return first :: (← commaSeparatedWithin close item rounds)
    if ← close then return [first]
    failure

/-- Items with commas between them, and perhaps one after the last, up to a closing mark. -/
def commaSeparated {α : Type} (close : Parser Bool) (item : Parser α) : Parser (List α) := do
  commaSeparatedWithin close item ((← remaining) + 1)

/-- The names of the types that take arguments in angle brackets. -/
def isTemplate (name : String) : Bool :=
  ["vec2", "vec3", "vec4", "mat2x2", "mat2x3", "mat2x4", "mat3x2", "mat3x3", "mat3x4", "mat4x2",
    "mat4x3", "mat4x4", "array", "atomic", "ptr", "bitcast", "texture_1d", "texture_2d",
    "texture_2d_array", "texture_3d", "texture_cube", "texture_cube_array",
    "texture_multisampled_2d", "texture_storage_1d", "texture_storage_2d",
    "texture_storage_2d_array", "texture_storage_3d"].contains name

def unaryOperator? (text : String) : Option UnaryOperator :=
  [("-", .negate), ("!", .logicalNot), ("~", .bitwiseNot), ("*", .dereference),
    ("&", .address)].lookup text

/-- The levels of the binary operators that are marks, the loosest first. The two levels made of
angle brackets are empty here. -/
def markLevels : List (List (String × BinaryOperator)) :=
  [[("||", .logicalOr)], [("&&", .logicalAnd)], [("|", .bitOr)], [("^", .bitXor)],
    [("&", .bitAnd)], [("==", .equal), ("!=", .notEqual)], [], [],
    [("+", .add), ("-", .subtract)], [("*", .multiply), ("/", .divide), ("%", .remainder)]]

/-- The comparison at the front, and what follows it. A closing bracket ends a template. -/
def comparison? (inTemplate : Bool) : List Token → Option (BinaryOperator × List Token)
  | .angle opening true :: .mark "=" :: rest =>
    if opening then some (.lessEqual, rest)
    else if inTemplate then none else some (.greaterEqual, rest)
  | .angle opening joined :: rest =>
    let doubled := match rest with
      | .angle second _ :: _ => joined && second == opening
      | _ => false
    if doubled then none
    else if opening then some (.less, rest)
    else if inTemplate then none else some (.greater, rest)
  | _ => none

/-- The shift at the front, and what follows it. -/
def shift? (inTemplate : Bool) : List Token → Option (BinaryOperator × List Token)
  | .angle first true :: .angle second joined :: rest =>
    let isAssignment := joined && rest.head? == some (.mark "=")
    if first != second || isAssignment then none
    else if first then some (.shiftLeft, rest)
    else if inTemplate then none else some (.shiftRight, rest)
  | _ => none

/-- The binary operator of a level at the front, and what follows it. -/
def operatorAt? (level : Nat) (inTemplate : Bool) (tokens : List Token) :
    Option (BinaryOperator × List Token) :=
  if level = 6 then comparison? inTemplate tokens
  else if level = 7 then shift? inTemplate tokens
  else match tokens with
    | .mark text :: rest =>
      ((markLevels.getD level []).lookup text).map fun operator => (operator, rest)
    | _ => none

/-- Appends operands for as long as an operator of the level follows. -/
def appendOperands (level : Nat) (inTemplate : Bool) (operand : Parser Expression) :
    Nat → Expression → Parser Expression
  | 0, left => return left
  | fuel + 1, left => do
    match operatorAt? level inTemplate (← get) with
    | none => return left
    | some (operator, rest) =>
      set rest
      let right ← operand
      appendOperands level inTemplate operand fuel (.binary operator left right)

/-- An expression of the innermost `levels` levels, given how an operand is read. -/
def levelled (inTemplate : Bool) (operand : Parser Expression) : (levels : Nat) → Parser Expression
  | 0 => operand
  | levels + 1 => do
    let left ← levelled inTemplate operand levels
    appendOperands (9 - levels) inTemplate (levelled inTemplate operand levels) (← remaining) left

/-- Arguments in parentheses, read from behind the opening one. -/
def arguments (expression : Parser Expression) : Parser (List Expression) := do
  commaSeparated (skip ")") expression

/-- A word that starts an expression: a truth value, a name, or a name with type arguments. -/
def named (expression : Bool → Parser Expression) : Parser Expression := do
  let text ← word
  if text == "true" then return .literal (.bool true)
  if text == "false" then return .literal (.bool false)
  if isTemplate text then
    if ← skipAngle true then
      return .template text (← commaSeparated (skipAngle false) (expression true))
  return .name text

/-- Accesses to members and elements behind an expression. -/
def accesses (expression : Parser Expression) : Nat → Expression → Parser Expression
  | 0, base => return base
  | fuel + 1, base => do
    if ← skip "." then
      accesses expression fuel (.member base (← newName))
    else if ← skip "[" then
      let position ← expression
      expect "]"
      accesses expression fuel (.index base position)
    else return base

/-- An operand: something in parentheses, a number, a name or a call, with accesses behind it. -/
def operand (expression : Bool → Parser Expression) : Parser Expression := do
  let base ← match ← get with
    | .number value :: rest =>
      set rest
      pure (.literal value)
    | .word _ :: _ =>
      let callee ← named expression
      if ← skip "(" then pure (.call callee (← arguments (expression false))) else pure callee
    | _ =>
      expect "("
      let inner ← expression false
      expect ")"
      pure inner
  accesses (expression false) (← remaining) base

/-- An operand behind unary operators. `fuel` bounds the nesting. -/
def unary : (fuel : Nat) → (inTemplate : Bool) → Parser Expression
  | 0, _ => failure
  | fuel + 1, inTemplate => do
    let expression (inTemplate : Bool) := levelled inTemplate (unary fuel inTemplate) 10
    match ← get with
    | .mark text :: rest =>
      match unaryOperator? text with
      | some operator =>
        set rest
        return .unary operator (← unary fuel inTemplate)
      | none => operand expression
    | _ => operand expression

def expression : Parser Expression := do
  levelled false (unary (← remaining) false) 10

/-- A type: a name, perhaps with arguments. -/
def type : Parser Expression := do
  match ← named (fun inTemplate => do levelled inTemplate (unary (← remaining) inTemplate) 10) with
  | .literal _ => failure
  | found => return found

/-- Something that is only there behind a mark. -/
def behind {α : Type} (text : String) (item : Parser α) : Parser (Option α) := do
  if ← skip text then return some (← item) else return none

/-- Attributes, as many as there are. -/
def attributes : Parser (List Attribute) := do
  untilEnd (do return !((← get).head? == some (.mark "@"))) (do
    expect "@"
    let name ← word
    if ← skip "(" then return ⟨name, some (← arguments expression)⟩
    return ⟨name, none⟩)

/-- The operator of a combined assignment, taken off the front. -/
def combinedOperator? : List Token → Option (BinaryOperator × List Token)
  | .mark text :: rest =>
    ([("+=", BinaryOperator.add), ("-=", .subtract), ("*=", .multiply), ("/=", .divide),
      ("%=", .remainder), ("&=", .bitAnd), ("|=", .bitOr), ("^=", .bitXor)].lookup text).map
      fun operator => (operator, rest)
  | .angle first true :: .angle second true :: .mark "=" :: rest =>
    if first != second then none else some (if first then .shiftLeft else .shiftRight, rest)
  | _ => none

/-- An assignment behind its target. -/
def assignment (target : Expression) : Parser Statement := do
  if ← skip "=" then return .assign target (← expression)
  if ← skip "++" then return .step target
  if ← skip "--" then return .step target
  match combinedOperator? (← get) with
  | some (operator, rest) =>
    set rest
    return .update operator target (← expression)
  | none => failure

/-- A call or an assignment, without the semicolon. -/
def callOrAssignment : Parser Statement := do
  match ← get with
  | .word "_" :: rest =>
    set rest
    expect "="
    return .evaluate (← expression)
  | .word function :: .mark "(" :: rest =>
    set rest
    return .call function (← arguments expression)
  | _ => assignment (← expression)

/-- A declaration of a local name, without the semicolon, if one comes next. -/
def localDeclaration? : Parser (Option Statement) := do
  if ← skipWord "let" then
    let name ← newName
    let type ← behind ":" type
    expect "="
    return some (.value name type (← expression))
  if ← skipWord "const" then
    let name ← newName
    let type ← behind ":" type
    expect "="
    return some (.constant name type (← expression))
  if ← skipWord "var" then
    if ← skipAngle true then
      if (← word) != "function" || !(← skipAngle false) then failure
    let name ← newName
    let type ← behind ":" type
    return some (.variable name type (← behind "=" expression))
  return none

/-- A block in braces, with attributes before it. -/
def block (statement : Parser Statement) : Parser (List Statement) := do
  let _ ← attributes
  expect "\x7b"
  untilEnd (skip "\x7d") statement

/-- The branches behind the condition of a choice. -/
def branches (statement : Parser Statement) : Nat → Parser Statement
  | 0 => failure
  | fuel + 1 => do
    let condition ← expression
    let accept ← block statement
    if ← skipWord "else" then
      if ← skipWord "if" then return .choice condition accept [← branches statement fuel]
      return .choice condition accept (← block statement)
    return .choice condition accept []

def case (statement : Parser Statement) : Parser Case := do
  let selector : Parser (Option Expression) := do
    if ← skipWord "default" then return none
    return some (← expression)
  let isBody : Parser Bool := do
    match ← get with
    | .mark text :: _ => return text == ":" || text == "\x7b" || text == "@"
    | _ => return false
  let selectors ← if ← skipWord "default" then pure [none] else do
    if !(← skipWord "case") then failure
    commaSeparated isBody selector
  if selectors.isEmpty then failure
  let _ ← skip ":"
  return .mk selectors (← block statement)

/-- The end of a loop that has a continuing part: the part itself and its condition to leave. -/
def continuing (statement : Parser Statement) : Parser (List Statement × Option Expression) := do
  expect "\x7b"
  let atEnd : Parser Bool := do
    match ← get with
    | .mark "\x7d" :: _ | .word "break" :: .word "if" :: _ => return true
    | _ => return false
  let body ← untilEnd atEnd statement
  let condition ← if ← skipWord "break" then
      if !(← skipWord "if") then failure
      let condition ← expression
      expect ";"
      pure (some condition)
    else pure none
  expect "\x7d"
  return (body, condition)

/-- The body of a loop behind its keyword. -/
def loopBody (statement : Parser Statement) : Parser Statement := do
  let _ ← attributes
  expect "\x7b"
  let atEnd : Parser Bool := do
    match ← get with
    | .mark "\x7d" :: _ | .word "continuing" :: _ => return true
    | _ => return false
  let body ← untilEnd atEnd statement
  let (continuing, condition) ← if ← skipWord "continuing" then continuing statement
    else pure ([], none)
  expect "\x7d"
  return .loop body continuing condition

/-- A loop leaves where its condition fails. -/
def leaveUnless (condition : Expression) : Statement := .choice condition [] [.leave]

/-- The head and body of a counted loop behind its keyword. -/
def countedLoop (statement : Parser Statement) : Parser Statement := do
  expect "("
  let start ← if ← skip ";" then pure []
    else do
      let first ← match ← localDeclaration? with
        | some declaration => pure declaration
        | none => callOrAssignment
      expect ";"
      pure [first]
  let condition ← if ← skip ";" then pure []
    else do
      let condition ← expression
      expect ";"
      pure [leaveUnless condition]
  let next ← if ← skip ")" then pure []
    else do
      let next ← callOrAssignment
      expect ")"
      pure [next]
  let body ← block statement
  return .block (start ++ [.loop (condition ++ [.block body]) next none])

/-- A statement that starts with a keyword, if one comes next. -/
def keywordStatement? (statement : Parser Statement) : Parser (Option Statement) := do
  if ← skipWord "return" then
    if ← skip ";" then return some (.giveBack none)
    let value ← expression
    expect ";"
    return some (.giveBack (some value))
  if ← skipWord "if" then return some (← branches statement (← remaining))
  if ← skipWord "switch" then
    let selector ← expression
    let _ ← attributes
    expect "\x7b"
    return some (.selection selector
      (← untilEnd (skip "\x7d") (case statement)))
  if ← skipWord "loop" then return some (← loopBody statement)
  if ← skipWord "while" then
    let condition ← expression
    let body ← block statement
    return some (.loop [leaveUnless condition, .block body] [] none)
  if ← skipWord "for" then return some (← countedLoop statement)
  if ← skipWord "break" then expect ";"; return some .leave
  if ← skipWord "continue" then expect ";"; return some .proceed
  if ← skipWord "discard" then expect ";"; return some .discard
  if ← skipWord "const_assert" then
    let condition ← expression
    expect ";"
    return some (.assertion condition)
  return none

/-- A statement. `fuel` bounds the nesting. -/
def statement : (fuel : Nat) → Parser Statement
  | 0 => failure
  | fuel + 1 => do
    if ← skip ";" then return .nothing
    match ← get with
    | .mark text :: _ =>
      if text == "\x7b" || text == "@" then return .block (← block (statement fuel))
    | _ => pure ()
    if let some found ← keywordStatement? (statement fuel) then return found
    let found ← match ← localDeclaration? with
      | some declaration => pure declaration
      | none => callOrAssignment
    expect ";"
    return found

/-- A name with attributes before it and a type behind it. -/
def field : Parser Field := do
  let attributes ← attributes
  let name ← newName
  expect ":"
  return ⟨attributes, name, ← type⟩

/-- A declaration that has a name, given its attributes. -/
def declaration (attributes : List Attribute) : Parser Declaration := do
  if ← skipWord "struct" then
    let name ← newName
    expect "\x7b"
    return ⟨attributes, name, .structure (← commaSeparated (skip "\x7d") field)⟩
  if ← skipWord "fn" then
    let name ← newName
    expect "("
    let parameters ← commaSeparated (skip ")") field
    let result ← behind "->" (do
      let found ← Parser.attributes
      return ResultType.mk found (← type))
    return ⟨attributes, name, .function parameters result (← block (statement (← remaining)))⟩
  let simple ← do
    if ← skipWord "alias" then
      let name ← newName
      expect "="
      pure (Declaration.mk attributes name (.alias (← type)))
    else if ← skipWord "const" then
      let name ← newName
      let type ← behind ":" type
      expect "="
      pure ⟨attributes, name, .constant type (← expression)⟩
    else if ← skipWord "override" then
      let name ← newName
      let type ← behind ":" type
      pure ⟨attributes, name, .override type (← behind "=" expression)⟩
    else if ← skipWord "var" then
      let space ← if ← skipAngle true then
          commaSeparated (skipAngle false) (Expression.name <$> word)
        else pure []
      let name ← newName
      let type ← behind ":" type
      pure ⟨attributes, name, .variable space type (← behind "=" expression)⟩
    else failure
  expect ";"
  return simple

/-- A directive at the head of a source; gives the extensions that it enables. -/
def directive : Parser (List String) := do
  let names : Parser (List String) := do commaSeparated (skip ";") word
  if ← skipWord "enable" then
    let names ← names
    if names.isEmpty || !names.all ["f16", "dual_source_blending"].contains then failure
    return names
  if ← skipWord "requires" then
    let names ← names
    if names.isEmpty || !names.all ["readonly_and_readwrite_storage_textures",
      "packed_4x8_integer_dot_product", "pointer_composite_access"].contains then failure
    return []
  if !(← skipWord "diagnostic") then failure
  expect "("
  let severity ← word
  if severity ∉ ["error", "warning", "info", "off"] then failure
  expect ","
  let _ ← word
  if ← skip "." then let _ ← word
  let _ ← skip ","
  expect ")"
  expect ";"
  return []

def atDirective : Parser Bool := do
  match ← get with
  | .word text :: _ => return ["enable", "requires", "diagnostic"].contains text
  | _ => return false

/-- Adds the declarations up to the end to a tree. -/
def declarations : Nat → SourceTree → Parser SourceTree
  | 0, _ => failure
  | fuel + 1, tree => do
    if ← skip ";" then declarations fuel tree
    else
      let attributes ← attributes
      if (← get).isEmpty then return tree
      if ← skipWord "const_assert" then
        let condition ← expression
        expect ";"
        declarations fuel { tree with assertions := tree.assertions ++ [condition] }
      else
        let found ← declaration attributes
        declarations fuel { tree with declarations := tree.declarations ++ [found] }

def sourceTree : Parser SourceTree := do
  let extensions ← untilEnd (do return !(← atDirective)) directive
  declarations ((← remaining) + 1) ⟨extensions.flatten, [], []⟩

end Parser

/-- The tree of a source, unless the source is not well-formed. -/
def SourceTree.ofSource? (source : String) : Option SourceTree := do
  let tokens ← Token.ofSource? source
  let (tree, rest) ← Parser.sourceTree.run tokens
  if rest.isEmpty then some tree else none

end FramePlan.Shader
