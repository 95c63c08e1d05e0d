import LoopTemplate.Grammar.Expression

/-!
# Statements

A statement that stands alone under another one, as in the branch of an `if`, is `nested`: some
declarations may not stand there.
-/

namespace LoopTemplate.Grammar

open LoopTemplate.Token (Kind)
open LoopTemplate.Tree (BinaryOperator Form Node VariableKind)

/-! ## Declarations -/

/-- A function as a statement of its own. -/
def parseFunctionStatement (self : Rules) (context : Context) (nested : Bool) : Parser Node := do
  let start ← here
  let async ← eatWord "async"
  let next ← peek
  if next.kind.isMark "(" then note next.start .functionName
  let node ← parseFunction self context start async false
  if nested then
    match node.form with
    | .function head =>
        if head.async then note start .asyncAlone
        else if head.generator then note start .generatorAlone
    | _ => pure ()
  return node

/-- A class as a statement of its own, behind its decorators. -/
def parseClassStatement (self : Rules) (context : Context) (decorators : Node) (nested : Bool) :
    Parser Node := do
  let start ← here
  let node ← parseClass self context decorators false
  if (node.part 1).isAbsent then note start .className
  if nested then note start .classAlone
  return node

/-- Whether a pattern takes an array or object apart. -/
def isDestructuring (pattern : Node) : Bool :=
  match pattern.form with
  | .arrayPattern _ | .objectPattern _ => true
  | _ => false

/-- One variable with its value. In the head of a loop the value may be missing. -/
def parseDeclarator (self : Rules) (context : Context) (kind : VariableKind) (inHead : Bool) :
    Parser Node := do
  let pattern ← self .pattern context
  if kind.isResource && isDestructuring pattern then note pattern.start .resourcePattern
  if ← eatMark "=" then
    return .mk pattern.start .declarator [pattern, ← self .assignment context]
  else
    unless inHead do
      if kind.isResource then note pattern.start .resourceInitializer
      else if isDestructuring pattern then note pattern.start .missingPatternInitializer
      else if kind == .constant then note pattern.start .missingInitializer
    return .mk pattern.start .declarator [pattern]

/-- Variables from their keyword on, without the end of the statement. -/
def parseVariables (self : Rules) (context : Context) (kind : VariableKind) (inHead : Bool) :
    Parser Node := do
  let start ← here
  if kind == .awaitedResource then advance
  advance
  let head ← parseDeclarator self context kind inHead
  let others ← collect do
    if ← eatMark "," then return some (← parseDeclarator self context kind inHead)
    else return none
  return .mk start (.variableList kind) (head :: others)

/-- Variables as a statement of their own. -/
def parseVariableStatement (self : Rules) (context : Context) (kind : VariableKind)
    (nested : Bool) : Parser Node := do
  let node ← parseVariables self context.withIn kind false
  endStatement
  if nested && kind != .hoisted then note node.start .lexicalAlone
  return node

/-- Whether `let` before the token is a variable and not a keyword. -/
def letIsVariable (nested : Bool) (next : Token) : Bool :=
  match next.kind with
  | .mark text =>
      [".", "(", ";", ">"].contains text || (assignmentOperator? (.mark text)).isSome
        || (binaryOperator? next).isSome || (nested && text != "[")
  | .word _ => (binaryOperator? next).isSome || nested
  | _ => nested

/-- Whether a token is a name that is declared, on the same line as the keyword before it. -/
def bindsOnLine (token : Token) : Bool :=
  !token.afterBreak &&
    match token.kind with
    | .word text => mayBind text
    | _ => false

/-- Whether a name behind `using` is declared. In the head of a loop `of` is one only if a value
follows it. -/
def bindsResource (inHead : Bool) (name next : Token) : Bool :=
  bindsOnLine name
    && (!(inHead && name.kind.isWord "of") || next.kind.isMark "=" || next.kind.isMark ";")

/-- The kind of resource whose declaration begins here. -/
def resourceKind? (inHead : Bool) : Parser (Option VariableKind) := do
  if ← atWord "using" then
    let (name, next) ← peekTwo
    if bindsResource inHead name next then return some .resource
  if ← atWord "await" then
    let (keyword, name, next) ← peekThree
    if keyword.kind.isWord "using" && !keyword.escaped && !keyword.afterBreak
        && bindsResource inHead name next then
      return some .awaitedResource
  return none

/-! ## Expressions and labels -/

/-- An expression as a statement, or a label with its statement. -/
def parseExpressionStatement (self : Rules) (context : Context) : Parser Node := do
  let start ← here
  let expression ← parseExpression self context
  match expression.form, ← atMark ":" with
  | .reference name, true =>
      advance
      return .mk start (.labeled name) [← self (.statement true) context]
  | _, _ =>
      endStatement
      return .mk start .expressionStatement [expression]

/-! ## Blocks and conditions -/

/-- Statements in braces. -/
def parseBlock (self : Rules) (context : Context) : Parser Node := do
  let start ← here
  expectMark "\x7b"
  let statements ← collect do
    let kind ← kind
    if kind.isMark "\x7d" || kind == .stop then return none
    return some (← self (.statement false) context)
  expectMark "\x7d"
  return .mk start .block statements

/-- An expression in parentheses that belong to the statement. -/
def parseCondition (self : Rules) (context : Context) : Parser Node := do
  expectMark "("
  let condition ← parseExpression self context.withIn
  expectMark ")"
  return condition

/-- `if` with its branches. -/
def parseIf (self : Rules) (context : Context) : Parser Node := do
  let start ← here
  advance
  let condition ← parseCondition self context
  let yes ← self (.statement true) context
  if ← eatWord "else" then
    return .mk start .ifStatement [condition, yes, ← self (.statement true) context]
  else return .mk start .ifStatement [condition, yes]

/-! ## Loops -/

/-- The rest of a loop that counts, from the first semicolon on. -/
def parseForRest (self : Rules) (context : Context) (start : Nat) (initial : Node) :
    Parser Node := do
  expectMark ";"
  let test ←
    if (← atMark ";") || (← atMark ")") then pure Node.none
    else parseExpression self context.withIn
  expectMark ";"
  let step ← if ← atMark ")" then pure Node.none else parseExpression self context.withIn
  expectMark ")"
  let body ← self (.statement true) context
  return .mk start .forLoop [initial, test, step, body]

/-- The rest of a loop over the keys of an object, from `in` on. -/
def parseForInRest (self : Rules) (context : Context) (start : Nat) (target : Node) :
    Parser Node := do
  advance
  let object ← parseExpression self context.withIn
  expectMark ")"
  return .mk start .forIn [target, object, ← self (.statement true) context]

/-- The rest of a loop over values, from `of` on. -/
def parseForOfRest (self : Rules) (context : Context) (start : Nat) (await : Bool)
    (target : Node) : Parser Node := do
  advance
  let object ← self .assignment context.withIn
  expectMark ")"
  return .mk start (.forOf await) [target, object, ← self (.statement true) context]

/-- The declaration keyword with which the head of a loop begins. -/
def headKind? : Parser (Option VariableKind) := do
  if ← atWord "var" then return some .hoisted
  if ← atWord "const" then return some .constant
  if let some kind ← resourceKind? true then return some kind
  if ← atWord "let" then
    let next ← peek
    match next.kind with
    | .word text => if mayBind text then return some .lexical else return none
    | .mark "[" | .mark "\x7b" => return some .lexical
    | _ => return none
  return none

/-- Any loop that begins with `for`. -/
def parseFor (self : Rules) (context : Context) : Parser Node := do
  let start ← here
  advance
  let await ← eatWord "await"
  expectMark "("
  if (← atMark ";") || (← atMark ")") then return ← parseForRest self context start Node.none
  match ← headKind? with
  | some kind =>
      let declared ← parseVariables self context.withoutIn kind true
      if ← atWord "in" then parseForInRest self context start declared
      else if ← atWord "of" then parseForOfRest self context start await declared
      else parseForRest self context start declared
  | none =>
      let initial ← parseExpression self context.withoutIn
      if ← atWord "in" then parseForInRest self context start (← toTarget .whole initial)
      else if ← atWord "of" then
        parseForOfRest self context start await (← toTarget .whole initial)
      else parseForRest self context start initial

/-- `while` with its body. -/
def parseWhile (self : Rules) (context : Context) : Parser Node := do
  let start ← here
  advance
  let condition ← parseCondition self context
  return .mk start .whileLoop [condition, ← self (.statement true) context]

/-- `do` with its body and condition. -/
def parseDoWhile (self : Rules) (context : Context) : Parser Node := do
  let start ← here
  advance
  let body ← self (.statement true) context
  expectWord "while"
  let condition ← parseCondition self context
  let _ ← eatMark ";"
  return .mk start .doWhile [body, condition]

/-! ## Jumps -/

/-- `return` with its value. -/
def parseReturn (self : Rules) (context : Context) : Parser Node := do
  let start ← here
  unless context.allowReturn do note start .returnOutsideFunction
  advance
  if ← mayEndStatement then
    endStatement
    return .mk start .returnStatement []
  else
    let value ← parseExpression self context.withIn
    endStatement
    return .mk start .returnStatement [value]

/-- `break` or `continue` with its label. -/
def parseJump (context : Context) (keyword : String) : Parser Node := do
  let start ← here
  advance
  if ← mayEndStatement then
    endStatement
    return .mk start (.jump keyword none) []
  else
    let label ← parseReference context
    endStatement
    match label.form with
    | .reference name => return .mk start (.jump keyword (some name)) []
    | _ => return .mk start (.jump keyword none) []

/-- `throw` with its value. -/
def parseThrow (self : Rules) (context : Context) : Parser Node := do
  let start ← here
  advance
  if (← current).afterBreak then note start .lineBreakAfterThrow
  let value ← parseExpression self context.withIn
  endStatement
  return .mk start .throwStatement [value]

/-! ## Other compound statements -/

/-- `try` with its clauses. -/
def parseTry (self : Rules) (context : Context) : Parser Node := do
  let start ← here
  advance
  let block ← parseBlock self context
  let blockStop := (← get).lastStop
  let handlerStart ← here
  let handler ←
    if ← eatWord "catch" then do
      let parameter ←
        if ← eatMark "(" then do
          let pattern ← self .pattern context
          expectMark ")"
          pure pattern
        else pure Node.none
      pure (Node.mk handlerStart .catchClause [parameter, ← parseBlock self context])
    else pure Node.none
  if ← eatWord "finally" then
    return .mk start .tryStatement [block, handler, ← parseBlock self context]
  else
    if handler.isAbsent then note blockStop .missingCatch
    return .mk start .tryStatement [block, handler]

/-- One clause of a `switch`. -/
def parseCase (self : Rules) (context : Context) : Parser Node := do
  let start ← here
  let test ←
    if ← eatWord "default" then pure Node.none
    else if ← eatWord "case" then parseExpression self context.withIn
    else failAt start .switchClause
  expectMark ":"
  let statements ← collect do
    let token ← current
    let ends := match token.kind with
      | .word text => (text == "case" || text == "default") && !token.escaped
      | .mark text => text == "\x7d"
      | .stop => true
      | _ => false
    if ends then return none else return some (← self (.statement false) context)
  return .mk start .switchCase (test :: statements)

/-- `switch` with its clauses. -/
def parseSwitch (self : Rules) (context : Context) : Parser Node := do
  let start ← here
  advance
  let value ← parseCondition self context
  expectMark "\x7b"
  let cases ← collect do
    if ← atMark "\x7d" then return none else return some (← parseCase self context)
  expectMark "\x7d"
  return .mk start .switchStatement (value :: cases)

/-- `with` with its body. -/
def parseWith (self : Rules) (context : Context) : Parser Node := do
  let start ← here
  advance
  let object ← parseCondition self context
  return .mk start .withStatement [object, ← self (.statement true) context]

/-- `debugger`. -/
def parseDebugger : Parser Node := do
  let start ← here
  advance
  endStatement
  return .mk start .debugger []

/-! ## All statements -/

/-- The statement that a keyword begins, if it begins one. -/
def keywordStatement? (self : Rules) (context : Context) (nested : Bool) (keyword : String) :
    Option (Parser Node) :=
  match keyword with
  | "if" => some (parseIf self context)
  | "for" => some (parseFor self context)
  | "while" => some (parseWhile self context)
  | "do" => some (parseDoWhile self context)
  | "return" => some (parseReturn self context)
  | "break" | "continue" => some (parseJump context keyword)
  | "throw" => some (parseThrow self context)
  | "try" => some (parseTry self context)
  | "switch" => some (parseSwitch self context)
  | "with" => some (parseWith self context)
  | "debugger" => some parseDebugger
  | "var" => some (parseVariableStatement self context .hoisted nested)
  | "const" => some (parseVariableStatement self context .constant nested)
  | _ => none

/-- A statement other than an import or export. -/
def parsePlainStatement (self : Rules) (context : Context) (nested : Bool) : Parser Node := do
  let token ← current
  match token.kind with
  | .mark "\x7b" => parseBlock self context
  | .mark ";" =>
      advance
      return .mk token.start .emptyStatement []
  | .word keyword =>
      if token.escaped then parseExpressionStatement self context
      else if ← atFunction then parseFunctionStatement self context nested
      else if keyword == "class" then
        parseClassStatement self context (.mk token.start .decorators []) nested
      else if keyword == "let" then
        if letIsVariable nested (← peek) then parseExpressionStatement self context
        else parseVariableStatement self context .lexical nested
      else if let some kind ← resourceKind? false then
        parseVariableStatement self context kind nested
      else match keywordStatement? self context nested keyword with
        | some statement => statement
        | none => parseExpressionStatement self context
  | _ => parseExpressionStatement self context

end LoopTemplate.Grammar
