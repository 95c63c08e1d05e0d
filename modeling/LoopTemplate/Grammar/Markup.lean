import LoopTemplate.Grammar.Function

/-!
# Markup

Elements and fragments with their tags, attributes and children. Between tags and inside them text
is read by rules of its own; the readers here choose which rules apply to the token that follows.
-/

namespace LoopTemplate.Grammar

open LoopTemplate.Token (Kind extendName)
open LoopTemplate.Tree (AttributeName Form Node TagName)

/-! ## Names -/

/-- A name inside a tag, in which words may be joined by dashes. -/
def parseTagWord : Parser String := do
  let cursor ← get
  match cursor.token.kind with
  | .word word =>
      let (name, after) := extendName word cursor.rest
      let token := { cursor.token with kind := .word name, stop := after.offset }
      set (cursor.replace ⟨token, after, []⟩)
      advance
      return name
  | _ => unexpected

/-- The name of an element. -/
def parseTagName : Parser TagName := do
  let head ← parseTagWord
  if ← eatMark ":" then return .namespaced head (← parseTagWord)
  if ← atMark "." then
    let path ← repeatStep ([] : List String) fun path => do
      if ← eatMark "." then return .inl ((← parseTagWord) :: path)
      else return .inr path.reverse
    return .member head path
  return .plain head

/-- The name of an attribute. -/
def parseAttributeName : Parser AttributeName := do
  let head ← parseTagWord
  if ← eatMark ":" then return .namespaced head (← parseTagWord)
  else return .plain head

/-! ## Attributes -/

/-- The value of an attribute, whose `=` is current. -/
def parseAttributeValue (self : Rules) (context : Context) : Parser Node := do
  advanceToValue
  let token ← current
  match token.kind with
  | .markupValue raw =>
      advance
      return .mk token.start (.quoted raw) []
  | .mark "\x7b" =>
      advance
      if ← atMark "\x7d" then
        let closing ← here
        note token.start .emptyAttribute
        advance
        return .mk token.start (.emptyContainer closing) []
      else
        let value ← parseExpression self context.withIn
        expectMark "\x7d"
        return .mk token.start .container [value]
  | .mark "<" => self (.markup false) context
  | _ => unexpected

/-- An attribute, or several of them spread from an object. -/
def parseAttribute (self : Rules) (context : Context) : Parser Node := do
  let start ← here
  if ← eatMark "\x7b" then
    let mark ← here
    expectMark "..."
    let value ← parseExpression self context.withIn
    expectMark "\x7d"
    return .mk start (.spreadAttribute mark) [value]
  else
    let name ← parseAttributeName
    if ← atMark "=" then return .mk start (.attribute name) [← parseAttributeValue self context]
    else return .mk start (.attribute name) []

/-- The attributes of a tag, up to a mark that ends it. -/
def parseAttributes (self : Rules) (context : Context) : Parser (List Node) :=
  collect do
    let kind ← kind
    if kind.isMark "<" || kind.isMark ">" || kind.isMark "/" then return none
    else return some (← parseAttribute self context)

/-! ## Children -/

/-- Braces between tags, whose opening one is current. -/
def parseChildContainer (self : Rules) (context : Context) : Parser Node := do
  let start ← here
  advance
  if ← eatMark "..." then
    let value ← parseExpression self context.withIn
    expectMarkBeforeChild "\x7d"
    return .mk start .spreadChild [value]
  if ← atMark "\x7d" then
    let closing ← here
    expectMarkBeforeChild "\x7d"
    return .mk start (.emptyContainer closing) []
  let value ← parseExpression self context.withIn
  expectMarkBeforeChild "\x7d"
  return .mk start .container [value]

/-- One child, or nothing before a closing tag. -/
def parseChild (self : Rules) (context : Context) : Parser (Option Node) := do
  let token ← current
  match token.kind with
  | .mark "<" =>
      let next ← peek
      if next.kind.isMark "/" then return none
      else return some (← self (.markup true) context)
  | .mark "\x7b" => return some (← parseChildContainer self context)
  | .markupText raw =>
      advanceInChild
      return some (.mk token.start (.text raw) [])
  | _ => unexpected

/-- The children of an element or fragment, up to its closing tag. -/
def parseChildren (self : Rules) (context : Context) : Parser (List Node) :=
  collect (parseChild self context)

/-! ## Tags -/

/-- A closing tag: where it opens, and where its name stands and what it is. -/
def parseClosing (inChild : Bool) : Parser (Nat × Option (Nat × TagName)) := do
  let start ← here
  expectMark "<"
  expectMark "/"
  if ← atMark ">" then
    expectMarkupEnd inChild ">"
    return (start, none)
  else
    let nameStart ← here
    let name ← parseTagName
    expectMarkupEnd inChild ">"
    return (start, some (nameStart, name))

/-- A fragment, from the `>` of its opening tag on. -/
def parseFragment (self : Rules) (context : Context) (start : Nat) (inChild : Bool) :
    Parser Node := do
  expectMarkBeforeChild ">"
  let children ← parseChildren self context
  match ← parseClosing inChild with
  | (_, some (nameStart, _)) => note nameStart .closingFragment
  | _ => pure ()
  return .mk start .fragment children

/-- An element, from its name on. -/
def parseElement (self : Rules) (context : Context) (start : Nat) (inChild : Bool) :
    Parser Node := do
  let name ← parseTagName
  let attributes ← parseAttributes self context
  if ← eatMark "/" then
    expectMarkupEnd inChild ">"
    return .mk start .element [.mk start (.opening name true) attributes]
  else
    expectMarkBeforeChild ">"
    let children ← parseChildren self context
    match ← parseClosing inChild with
    | (closingStart, none) => note closingStart (.closingTag name.text)
    | (_, some (nameStart, closingName)) =>
        if closingName != name then note nameStart (.closingTag name.text)
    return .mk start .element (.mk start (.opening name false) attributes :: children)

/-- An element or fragment, whose `<` is current. -/
def parseMarkup (self : Rules) (context : Context) (inChild : Bool) : Parser Node := do
  let start ← here
  advance
  match ← kind with
  | .mark ">" => parseFragment self context start inChild
  | .word _ => parseElement self context start inChild
  | _ => unexpected

end LoopTemplate.Grammar
