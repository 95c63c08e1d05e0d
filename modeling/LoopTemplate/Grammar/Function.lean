import LoopTemplate.Grammar.Pattern

/-!
# Functions

Parameters, bodies and the three spellings of a function: with its keyword, as a method, and as an
arrow.
-/

namespace LoopTemplate.Grammar

open LoopTemplate.Token (Kind)
open LoopTemplate.Tree (Form FunctionHead Node)

/-- Expressions joined by commas. -/
def parseExpression (self : Rules) (context : Context) : Parser Node := do
  let start ← here
  let head ← self .assignment context
  if ← atMark "," then
    let others ← collect do
      if ← eatMark "," then return some (← self .assignment context) else return none
    return .mk start .sequence (head :: others)
  else return head

/-! ## Parameters -/

/-- One parameter. -/
def parseParameter (self : Rules) (context : Context) : Parser Node := do
  let start ← here
  if ← eatMark "..." then
    let pattern ← self .pattern context
    if ← atMark "," then note start .restNotLast
    return .mk start .restParameter [pattern]
  else
    let pattern ← self .pattern context
    if ← eatMark "=" then
      return .mk start .parameter [pattern, ← self .assignment context.withIn]
    else return .mk start .parameter [pattern]

/-- Parameters in parentheses. -/
def parseParameters (self : Rules) (context : Context) : Parser Node := do
  let start ← here
  expectMark "("
  let (parameters, _) ← commaList ")" (parseParameter self context)
  expectMark ")"
  return .mk start .parameters parameters

/-! ## Bodies -/

/-- The directive that a statement is: a string that stands alone as the statement. -/
def directive? (raw : Option String) (statement : Node) : Option Node :=
  match raw, statement with
  | some raw, .mk start .expressionStatement [.mk inner (.string _) _] =>
      if start = inner then some (.mk start (.directive raw) []) else none
  | _, _ => none

/-- How the current token is written between quotes, if it is a string. -/
def currentRaw? : Parser (Option String) := do
  match ← kind with
  | .string _ raw => return some raw
  | _ => return none

/-- Directives and statements, up to a closing brace or the end of the text. -/
def parseStatements (self : Rules) (context : Context) (braced : Bool) : Parser (List Node) :=
  repeatStep (([] : List Node), true) fun (found, expecting) => do
    let kind ← kind
    if kind == .stop || (braced && kind.isMark "\x7d") then return .inr found.reverse
    let raw ← currentRaw?
    let statement ← self (.statement false) context
    match expecting, directive? raw statement with
    | true, some directive => return .inl (directive :: found, true)
    | _, _ => return .inl (statement :: found, false)

/-- Statements in braces that make a function. -/
def parseBody (self : Rules) (context : Context) : Parser Node := do
  let start ← here
  expectMark "\x7b"
  let statements ← parseStatements self { context with allowIn := true, allowReturn := true } true
  let closing ← here
  expectMark "\x7d"
  return .mk start (.body closing) statements

/-! ## Functions -/

/-- A function from its keyword on. -/
def parseFunction (self : Rules) (context : Context) (start : Nat) (async expression : Bool) :
    Parser Node := do
  expectWord "function"
  let generator ← eatMark "*"
  let inside := Context.function async generator
  let name ←
    if ← atBinding then parseBinding (if expression then inside else context)
    else pure Node.none
  let parameters ← parseParameters self inside
  let body ← parseBody self inside
  let head : FunctionHead :=
    { expression, async, generator, wrapped := false, effectFree := false }
  return .mk start (.function head) [name, parameters, body]

/-- The function that a method is, from its parameters on. -/
def parseMethod (self : Rules) (async generator : Bool) : Parser Node := do
  let start ← here
  let inside := Context.function async generator
  let parameters ← parseParameters self inside
  let body ← parseBody self inside
  let head : FunctionHead :=
    { expression := true, async, generator, wrapped := false, effectFree := false }
  return .mk start (.function head) [Node.none, parameters, body]

/-- Whether a function follows: its keyword, perhaps behind `async` on the same line. -/
def atFunction : Parser Bool := do
  if ← atWord "function" then return true
  if ← atWord "async" then
    let next ← peek
    return next.kind.isWord "function" && !next.escaped && !next.afterBreak
  else return false

/-! ## Arrows -/

/-- The arrow and what follows it. -/
def parseArrowRest (self : Rules) (context : Context) (start : Nat) (async : Bool)
    (parameters : Node) : Parser Node := do
  let token ← current
  if token.kind.isMark "=>" && token.afterBreak then note token.start .lineBreakBeforeArrow
  expectMark "=>"
  let inside := { context with allowAwait := async, allowYield := false }
  let body ←
    if ← atMark "\x7b" then parseBody self inside
    else self .assignment inside
  return .mk start (.arrow { async, wrapped := false, effectFree := false }) [parameters, body]

/-- The parameters of an arrow that are a single bare name. -/
def bareParameter (start : Nat) (name : String) : Node :=
  .mk start .parameters [.mk start .parameter [.mk start (.binding name) []]]

end LoopTemplate.Grammar
