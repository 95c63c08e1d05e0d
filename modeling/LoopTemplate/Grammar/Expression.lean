import LoopTemplate.Grammar.Operand

/-!
# Expressions

Operands joined by operators, conditionals, assignments and arrows. What stands in parentheses may
turn out to be the parameters of an arrow. A look at the first tokens decides most cases; the others
are read as an expression first, and as parameters if an arrow follows.
-/

namespace LoopTemplate.Grammar

open LoopTemplate.Token (Kind)
open LoopTemplate.Tree (BinaryOperator Form Level Node assignmentOperators)

/-! ## Promises -/

/-- An operand that a comment promises to be pure: a call or `new`, also at the end of a chain. Of
an expression in parentheses its first operand is meant. -/
def markPure : Node → Node
  | .mk start (.call optional _ closing) parts => .mk start (.call optional true closing) parts
  | .mk start (.construct _ closing) parts => .mk start (.construct true closing) parts
  | .mk start .chain [.mk inner (.call optional _ closing) parts] =>
      .mk start .chain [.mk inner (.call optional true closing) parts]
  | .mk start .parenthesized [inner] => .mk start .parenthesized [markPure inner]
  | .mk start (.binary operator) [left, right] =>
      .mk start (.binary operator) [markPure left, right]
  | .mk start .conditional [condition, yes, no] =>
      .mk start .conditional [markPure condition, yes, no]
  | node => node

/-- A function of which a comment promises that calling it has no side effects, perhaps in
parentheses. -/
def markEffectFree : Node → Node
  | .mk start (.function head) parts =>
      .mk start (.function { head with effectFree := true }) parts
  | .mk start (.arrow head) parts => .mk start (.arrow { head with effectFree := true }) parts
  | .mk start .parenthesized [inner] => .mk start .parenthesized [markEffectFree inner]
  | node => node

/-- Whether a comment before the token makes the promise. -/
def promised (token : Token) (promise : Token.Promise) : Bool :=
  token.promises.contains promise

/-! ## Operators between operands -/

/-- Reads a `>` on as the longest operator that begins with it. -/
def widenAngle : Parser Unit := do
  let cursor ← get
  if cursor.token.kind.isMark ">" then
    let (text, after) := Token.widenAngle cursor.rest
    let token := { cursor.token with kind := .mark text, stop := after.offset }
    set (cursor.replace ⟨token, after, []⟩)

/-- The operator between operands that a token is. -/
def binaryOperator? (token : Token) : Option BinaryOperator :=
  match token.kind with
  | .mark text => BinaryOperator.ofText? text
  | .word text => if token.escaped then none else BinaryOperator.ofText? text
  | _ => none

/-- Whether a node is joined by `&&` or `||`. -/
def isLogical (node : Node) : Bool :=
  match node.form with
  | .binary .logicalOr | .binary .logicalAnd => true
  | _ => false

/-- Whether a node has an operator before it. -/
def isUnary (node : Node) : Bool :=
  match node.form with
  | .unary _ => true
  | _ => false

/-- One more operator and operand behind the operands read so far, if it binds tighter than the
level. -/
def parseBinaryStep (self : Rules) (context : Context) (level : Level) (start : Nat)
    (left : Node) : Parser (Node ⊕ Node) := do
  widenAngle
  match binaryOperator? (← current) with
  | none => return .inr left
  | some operator =>
      let loose :=
        if operator.groupsRight then operator.level < level else operator.level ≤ level
      if loose || (operator == .isIn && !context.allowIn) then return .inr left
      advance
      let right ← self (.operands operator.level) context
      if operator == .coalesce && (isLogical right || isLogical left) then
        note start .mixedCoalesce
      if operator == .power && isUnary left then note start .unaryPower
      return .inl (.mk start (.binary operator) [left, right])

/-- Operators and operands behind one that was read. -/
def parseBinaryRest (self : Rules) (context : Context) (level : Level) (left : Node) :
    Parser Node :=
  repeatStep left (parseBinaryStep self context level left.start)

/-- Operands joined by operators that bind tighter than a level. -/
def parseOperands (self : Rules) (context : Context) (level : Level) : Parser Node := do
  let token ← current
  match token.kind, context.allowIn with
  | .privateName name, true =>
      advance
      expectWord "in"
      let right ← self (.operands Level.comparison) context
      parseBinaryRest self context level
        (.mk token.start (.binary .isIn) [.mk token.start (.privateName name) [], right])
  | _, _ =>
      let left ← parseOperand self context
      let left := if promised token .pure then markPure left else left
      parseBinaryRest self context level left

/-! ## Assignments and conditionals -/

/-- The operator of an assignment that a token is. -/
def assignmentOperator? (kind : Kind) : Option String :=
  match kind with
  | .mark text => if assignmentOperators.contains text then some text else none
  | _ => none

/-- What may follow operands: an arrow behind a bare name, a value to assign, or the branches of a
conditional. -/
def parseAssignmentRest (self : Rules) (context : Context) (left : Node) : Parser Node := do
  let kind ← kind
  match left.form, kind with
  | .reference name, .mark "=>" =>
      parseArrowRest self context left.start false (bareParameter left.start name)
  | _, _ =>
      match assignmentOperator? kind with
      | some operator =>
          let target ← if operator == "=" then toTarget .whole left else toPlace left
          advance
          return .mk left.start (.assign operator) [target, ← self .assignment context]
      | none =>
          if ← eatMark "?" then
            let yes ← self .assignment context.withIn
            expectMark ":"
            let no ← self .assignment context
            return .mk left.start .conditional [left, yes, no]
          else return left

/-! ## Arrows -/

/-- Whether what follows are the parameters of an arrow. -/
inductive ArrowGuess where
  | certain | possible | unlikely
deriving DecidableEq

/-- Guesses from the tokens behind an opening parenthesis. -/
def guessArrow (first second : Token) : ArrowGuess :=
  match first.kind with
  | .mark ")" =>
      if second.kind.isMark "=>" || second.kind.isMark ":" || second.kind.isMark "\x7b" then
        .certain
      else .unlikely
  | .mark "..." => .certain
  | .mark "[" | .mark "\x7b" => .possible
  | .word text =>
      if mayBind text || text == "this" then
        if second.kind.isMark ":" then .certain
        else if second.kind.isMark "," || second.kind.isMark "=" || second.kind.isMark ")" then
          .possible
        else .unlikely
      else .unlikely
  | _ => .unlikely

/-- The parameters of an arrow, if they can be read and an arrow or body follows. -/
def arrowHead? (self : Rules) (context : Context) : Parser (Option Node) := do
  let before ← get
  match ← attempt (parseParameters self context) with
  | .error _ => return none
  | .ok parameters =>
      if (← atMark "=>") || (← atMark "\x7b") then return some parameters
      else
        set before
        return none

/-- What begins with a parenthesis and may be an arrow or an expression. -/
def parseArrowOrExpression (self : Rules) (context : Context) : Parser Node := do
  let before ← get
  let start ← here
  match ← attempt (parseParenthesized self context) with
  | .ok parenthesized =>
      let after ← get
      let arrowFollows := after.token.kind.isMark "=>" || after.token.kind.isMark "\x7b"
      if arrowFollows then
        set before
        match ← arrowHead? self context with
        | some parameters => return ← parseArrowRest self context start false parameters
        | none => set after
      let operand ← parsePostfix self context (some parenthesized)
      let operand := if promised before.token .pure then markPure operand else operand
      let left ← parseBinaryRest self context Level.lowest operand
      parseAssignmentRest self context left
  | .error failure =>
      match ← arrowHead? self context with
      | some parameters => parseArrowRest self context start false parameters
      | none => throw failure

/-- An arrow behind `async`, if there is one. -/
def asyncArrow? (self : Rules) (context : Context) : Parser (Option Node) := do
  let token ← current
  if token.kind.isWord "async" && !token.escaped then
    let (first, second) ← peekTwo
    if first.afterBreak then return none
    else
      let inside := { context with allowAwait := true, allowYield := false }
      match first.kind with
      | .mark "(" =>
          let before ← get
          advance
          match ← arrowHead? self inside with
          | some parameters =>
              return some (← parseArrowRest self context token.start true parameters)
          | none =>
              set before
              return none
      | .word name =>
          if mayBind name && second.kind.isMark "=>" then
            advance
            let start ← here
            advance
            return some
              (← parseArrowRest self context token.start true (bareParameter start name))
          else return none
      | _ => return none
  else return none

/-! ## Expressions without commas -/

/-- Whether a token lets nothing follow a `yield`. -/
def endsYield (token : Token) : Bool :=
  token.afterBreak ||
    match token.kind with
    | .mark text => [")", "]", "\x7d", ",", ";", ":"].contains text
    | .word text => text == "in"
    | .stop => true
    | _ => false

/-- `yield` with its value. -/
def parseYield (self : Rules) (context : Context) : Parser Node := do
  let start ← here
  unless context.allowYield do note start .yieldOutsideGenerator
  advance
  let token ← current
  if endsYield token then return .mk start (.yield false) []
  else
    let delegate ← eatMark "*"
    return .mk start (.yield delegate) [← self .assignment context]

/-- Whether the current word yields a value. -/
def atYield (context : Context) : Parser Bool := do
  if ← atWord "yield" then
    if context.allowYield then return true else continuesOnLine
  else return false

/-- An expression without a comma outside brackets, apart from what comments promise about it. -/
def parsePlainAssignment (self : Rules) (context : Context) : Parser Node := do
  if ← atYield context then return ← parseYield self context
  let token ← current
  if token.kind.isMark "(" then
    let (first, second) ← peekTwo
    match guessArrow first second with
    | .certain =>
        let parameters ← parseParameters self { context with allowYield := false }
        return ← parseArrowRest self context token.start false parameters
    | .possible => return ← parseArrowOrExpression self context
    | .unlikely => pure ()
  match ← asyncArrow? self context with
  | some arrow => return arrow
  | none =>
      let left ← parseOperands self context Level.lowest
      parseAssignmentRest self context left

/-- An expression without a comma outside brackets. -/
def parseAssignment (self : Rules) (context : Context) : Parser Node := do
  let token ← current
  let expression ← parsePlainAssignment self context
  return if promised token .effectFree then markEffectFree expression else expression

end LoopTemplate.Grammar
