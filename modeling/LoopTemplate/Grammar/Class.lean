import LoopTemplate.Grammar.Function

/-!
# Classes

Members of a class are methods, fields and blocks. A word such as `static` or `get` is a modifier
only if the name of a member follows it. Decorators may stand before a class and before each of its
members.
-/

namespace LoopTemplate.Grammar

open LoopTemplate.Token (Kind)
open LoopTemplate.Tree (AccessorKind Form Node)

/-- Whether a token can begin the name of a member or property. -/
def beginsKey (kind : Kind) : Bool :=
  match kind with
  | .word _ | .string _ _ | .number _ _ | .bigInteger _ | .privateName _ => true
  | kind => kind.isMark "["

/-- Passes a modifier if it is one: a word before something that `follows` accepts. -/
def eatModifier (text : String) (follows : Token → Bool) : Parser Bool := do
  if ← atWord text then
    if follows (← peek) then
      advance
      return true
    else return false
  else return false

/-- What is written before the name of a member or property. -/
structure Modifiers where
  accessor : AccessorKind
  async : Bool
  generator : Bool

/-- Passes `get`, `set`, `async` and `*`. -/
def parseModifiers : Parser Modifiers := do
  let getter ← eatModifier "get" fun token => beginsKey token.kind
  let setter ←
    if getter then pure false else eatModifier "set" fun token => beginsKey token.kind
  if getter || setter then
    return { accessor := if getter then .getter else .setter, async := false, generator := false }
  else
    let async ← eatModifier "async" fun token =>
      !token.afterBreak && (beginsKey token.kind || token.kind.isMark "*")
    let generator ← eatMark "*"
    return { accessor := .plain, async, generator }

/-- The decorators that stand here. -/
def parseDecorators (self : Rules) (context : Context) : Parser Node := do
  let start ← here
  let expressions ← collect do
    if ← eatMark "@" then return some (← self .decorator context) else return none
  return .mk start .decorators expressions

/-- A field, from what follows its name. -/
def parseField (self : Rules) (start : Nat) (static accessor computed : Bool)
    (decorators key : Node) : Parser Node := do
  let value ←
    if ← eatMark "=" then
      pure [← self .assignment ⟨true, false, false, false⟩]
    else pure []
  endStatement
  return .mk start (.field static accessor computed) (decorators :: key :: value)

/-- A member of a class. -/
def parseMember (self : Rules) (context : Context) : Parser Node := do
  let start ← here
  let decorators ← parseDecorators self context
  let static ← eatModifier "static" fun token =>
    beginsKey token.kind || token.kind.isMark "*" || token.kind.isMark "\x7b"
  if static && (← atMark "\x7b") then
    advance
    let statements ← collect do
      let kind ← kind
      if kind.isMark "\x7d" || kind == .stop then return none
      let inner := { Context.function false false with allowAwait := true }
      return some (← self (.statement false) inner)
    expectMark "\x7d"
    return .mk start .staticBlock statements
  else
    let accessor ← eatModifier "accessor" fun token => !token.afterBreak && beginsKey token.kind
    let modifiers ← parseModifiers
    let (key, computed) ← parseKey self context
    if modifiers.accessor != .plain || modifiers.async || modifiers.generator
        || (← atMark "(") then
      let function ← parseMethod self modifiers.async modifiers.generator
      return .mk start (.method modifiers.accessor static computed) [decorators, key, function]
    else parseField self start static accessor computed decorators key

/-- A class from its keyword on; it starts with its decorators. -/
def parseClass (self : Rules) (context : Context) (decorators : Node) (expression : Bool) :
    Parser Node := do
  expectWord "class"
  let name ← if ← atBinding then parseBinding context else pure Node.none
  let heritage ←
    if ← eatWord "extends" then self (.access true) context
    else pure Node.none
  expectMark "\x7b"
  let members ← collect do
    let _ ← collect do
      if ← eatMark ";" then return some Node.none else return none
    let kind ← kind
    if kind.isMark "\x7d" || kind == .stop then return none
    return some (← parseMember self context)
  expectMark "\x7d"
  return .mk decorators.start (.classDefinition expression)
    (decorators :: name :: heritage :: members)

end LoopTemplate.Grammar
