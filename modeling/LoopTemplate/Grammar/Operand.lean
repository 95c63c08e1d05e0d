import LoopTemplate.Grammar.Literal
import LoopTemplate.Grammar.Markup
import LoopTemplate.Grammar.Target

/-!
# Operands

Literals, variables and parenthesized expressions, with the accesses and calls behind them and the
operators before and after them.
-/

namespace LoopTemplate.Grammar

open LoopTemplate.Token (Kind)
open LoopTemplate.Tree (Form Node UnaryOperator UpdateOperator)

/-! ## Parentheses -/

/-- A function remembers that it stood directly in parentheses. -/
def markWrapped : Node → Node
  | .mk start (.function head) parts => .mk start (.function { head with wrapped := true }) parts
  | .mk start (.arrow head) parts => .mk start (.arrow { head with wrapped := true }) parts
  | node => node

/-- An expression in parentheses. -/
def parseParenthesized (self : Rules) (context : Context) : Parser Node := do
  let start ← here
  expectMark "("
  let (expressions, trailing) ← commaList ")" (self .assignment context.withIn)
  match trailing with
  | some offset => failAt offset (.expected ")" ",")
  | none =>
      expectMark ")"
      match expressions with
      | [] => failAt start .emptyParentheses
      | [inner] => return .mk start .parenthesized [markWrapped inner]
      | head :: _ => return .mk start .parenthesized [.mk head.start .sequence expressions]

/-! ## Primary expressions -/

/-- A module loaded by an expression, from the opening parenthesis on. -/
def parseImportCall (self : Rules) (context : Context) (start : Nat) (phase : Option String) :
    Parser Node := do
  expectMark "("
  if ← atMark ")" then unexpected
  let (arguments, _) ← commaList ")" (self .assignment context.withIn)
  let closing ← here
  expectMark ")"
  return .mk start (.importCall phase closing) arguments

/-- `import.meta`, or a module loaded by an expression. -/
def parseImportExpression (self : Rules) (context : Context) : Parser Node := do
  let start ← here
  advance
  if ← eatMark "." then
    if ← eatWord "meta" then return .mk start (.metaProperty "import" "meta") []
    else if ← eatWord "source" then parseImportCall self context start (some "source")
    else if ← eatWord "defer" then parseImportCall self context start (some "defer")
    else unexpected
  else parseImportCall self context start none

/-- The literal or keyword that a word is, if it is no variable. -/
def wordForm? : String → Option Form
  | "this" => some .this
  | "null" => some .null
  | "true" => some (.boolean true)
  | "false" => some (.boolean false)
  | "super" => some .parent
  | _ => none

/-- An expression without operators, accesses and calls. -/
def parsePrimary (self : Rules) (context : Context) : Parser Node := do
  let token ← current
  let leaf (form : Form) : Parser Node := do
    advance
    return .mk token.start form []
  match token.kind with
  | .string value _ => leaf (.string value)
  | .number value _ => leaf (.number value)
  | .bigInteger value => leaf (.bigInteger value)
  | .template _ _ _ => parseTemplate self context false
  | .mark "@" => parseClass self context (← parseDecorators self context) true
  | .mark "(" => parseParenthesized self context
  | .mark "[" => parseArray self context
  | .mark "\x7b" => parseObject self context
  | .mark "/" | .mark "/=" => parseRegex
  | .word text =>
      if token.escaped then parseReference context
      else if text == "class" then
        parseClass self context (.mk token.start .decorators []) true
      else if text == "import" then parseImportExpression self context
      else if ← atFunction then
        let async ← eatWord "async"
        parseFunction self context token.start async true
      else match wordForm? text with
        | some form => leaf form
        | none => parseReference context
  | _ => unexpected

/-! ## Accesses and calls -/

/-- The arguments of a call, and the offset of the closing parenthesis. -/
def parseArguments (self : Rules) (context : Context) : Parser (List Node × Nat) := do
  expectMark "("
  let (arguments, _) ← commaList ")" do
    if ← atMark "..." then parseSpread self context else self .assignment context.withIn
  let closing ← here
  expectMark ")"
  return (arguments, closing)

/-- The name of the property behind a dot. -/
def parseNamedAccess (start : Nat) (object : Node) (optional : Bool) : Parser Node := do
  match ← kind with
  | .word name =>
      advance
      return .mk start (.member name optional) [object]
  | .privateName name =>
      advance
      return .mk start (.privateMember name optional) [object]
  | _ => unexpected

/-- The key in brackets, whose opening one is current. -/
def parseKeyedAccess (self : Rules) (context : Context) (start : Nat) (object : Node)
    (optional : Bool) : Parser Node := do
  advance
  let key ← parseExpression self context.withIn
  expectMark "]"
  return .mk start (.index optional) [object, key]

/-- A call, whose opening parenthesis is current. -/
def parseCall (self : Rules) (context : Context) (start : Nat) (callee : Node)
    (optional : Bool) : Parser Node := do
  let (arguments, closing) ← parseArguments self context
  return .mk start (.call optional false closing) (callee :: arguments)

/-- What may stand behind an expression besides accesses by name. -/
structure AccessMode where
  /-- Calls. -/
  calls : Bool
  /-- Accesses by a key in brackets. -/
  keys : Bool

/-- An expression with accesses behind it so far, and whether one of them is optional. -/
abbrev AccessChain := Node × Bool

/-- One access or call behind an expression, if there is one. -/
def parseAccessStep (self : Rules) (context : Context) (mode : AccessMode) (start : Nat) :
    AccessChain → Parser (AccessChain ⊕ AccessChain)
  | (object, optional) => do
      let token ← current
      match token.kind with
      | .mark "." =>
          advance
          return .inl (← parseNamedAccess start object false, optional)
      | .mark "[" =>
          if mode.keys then
            return .inl (← parseKeyedAccess self context start object false, optional)
          else return .inr (object, optional)
      | .mark "(" =>
          if mode.calls then return .inl (← parseCall self context start object false, optional)
          else return .inr (object, optional)
      | .template _ _ _ =>
          if optional then note token.start .chainTemplate
          let template ← parseTemplate self context true
          return .inl (.mk start .taggedTemplate [object, template], optional)
      | .mark "?." =>
          let next ← peek
          match next.kind with
          | .mark "(" =>
              if mode.calls then
                advance
                return .inl (← parseCall self context start object true, true)
              else return .inr (object, true)
          | .mark "[" =>
              advance
              return .inl (← parseKeyedAccess self context start object true, true)
          | .template _ _ _ =>
              advance
              note next.start .chainTemplate
              let template ← parseTemplate self context true
              return .inl (.mk start .taggedTemplate [object, template], true)
          | _ =>
              advance
              return .inl (← parseNamedAccess start object true, true)
      | _ => return .inr (object, optional)

/-- `new` with its callee and arguments, or `new.target`. -/
def parseConstruct (self : Rules) (context : Context) : Parser Node := do
  let start ← here
  advance
  if ← eatMark "." then
    if ← eatWord "target" then return .mk start (.metaProperty "new" "target") []
    else failAt start .newTarget
  let callee ← self (.access false) context
  match callee.form with
  | .chain => note start .constructChain
  | _ => pure ()
  if ← atMark "(" then
    let (arguments, closing) ← parseArguments self context
    return .mk start (.construct false closing) (callee :: arguments)
  else return .mk start (.construct false ((← get).lastStop - 1)) [callee]

/-- An expression with the accesses behind it. Its first piece may have been read before. -/
def parseAccess (self : Rules) (context : Context) (mode : AccessMode) (read : Option Node) :
    Parser Node := do
  let head ← match read with
    | some node => pure node
    | none => do
        if ← atWord "new" then parseConstruct self context else parsePrimary self context
  let (whole, optional) ← repeatStep (head, false) (parseAccessStep self context mode head.start)
  if optional then return .mk head.start .chain [whole] else return whole

/-! ## Operators before and after an operand -/

/-- Whether the next token continues on the same line with a word or literal. -/
def continuesOnLine : Parser Bool := do
  let next ← peek
  match next.kind with
  | .word _ | .string _ _ | .number _ _ | .bigInteger _ => return !next.afterBreak
  | _ => return false

/-- Whether the current word waits for a value. -/
def atAwait (context : Context) : Parser Bool := do
  if ← atWord "await" then
    if context.allowAwait then return true else continuesOnLine
  else return false

/-- The operator before an operand that the current token is. -/
def unaryOperator? (token : Token) : Option UnaryOperator :=
  match token.kind with
  | .mark text => UnaryOperator.ofText? text
  | .word text => if token.escaped then none else UnaryOperator.ofText? text
  | _ => none

/-- The operator that changes a variable that the current token is. -/
def updateOperator? (kind : Kind) : Option UpdateOperator :=
  match kind with
  | .mark text => UpdateOperator.ofText? text
  | _ => none

/-- An operand with an operator after it. Its first piece may have been read before. -/
def parsePostfix (self : Rules) (context : Context) (read : Option Node) : Parser Node := do
  let operand ← parseAccess self context ⟨true, true⟩ read
  let token ← current
  match updateOperator? token.kind with
  | some operator =>
      if token.afterBreak then return operand
      else
        advance
        return .mk operand.start (.update operator false) [← toPlace operand]
  | none => return operand

/-- An operand with the operators before and after it. -/
def parseOperand (self : Rules) (context : Context) : Parser Node := do
  let token ← current
  match unaryOperator? token with
  | some operator =>
      advance
      return .mk token.start (.unary operator) [← self .operand context]
  | none =>
      match updateOperator? token.kind with
      | some operator =>
          advance
          let operand ← self .operand context
          return .mk token.start (.update operator true) [← toPlace operand]
      | none =>
          if token.kind.isMark "<" then parseMarkup self context false
          else if ← atAwait context then
            unless context.allowAwait do note token.start .awaitOutsideAsync
            advance
            return .mk token.start .await [← self .operand { context with allowAwait := true }]
          else parsePostfix self context none

end LoopTemplate.Grammar
