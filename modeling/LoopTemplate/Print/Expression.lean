import LoopTemplate.Number.Compact
import LoopTemplate.Print.Function

/-!
# Expressions

Parentheses of the source are forgotten. An expression is put in parentheses where its surroundings
bind tighter than it does, or where its beginning would be taken for something else.
-/

namespace LoopTemplate.Print

open LoopTemplate.Tree (AccessorKind BinaryOperator Form Level UnaryOperator UpdateOperator)

/-! ## Literals -/

/-- Prints a number. -/
def printNumber (value : Number.Double) (surroundings : Surroundings) : Printer := do
  match value with
  | .infinite =>
      if ← minifying then
        parenthesizedIf (Level.multiplication ≤ surroundings.level) do
          separateWord
          printText "1/0"
      else printWord "Infinity"
  | .finite mantissa exponent =>
      let text := Number.compactText mantissa exponent
      printWord text
      if Number.swallowsPoint text then
        modify fun output => { output with numberEnd := output.length }

/-- Prints a regular expression. -/
def printRegex (pattern flags : String) : Printer := do
  match ← lastChar? with
  | some '/' => printChar ' '
  | some '<' => if beginsScript pattern.toList then printChar ' '
  | _ => pure ()
  printChar '/'
  printGuarded pattern
  printChar '/'
  printText flags
  modify fun output => { output with regexEnd := output.length }

/-- Prints the pieces of a template with the expressions between them. -/
def printTemplatePieces : List String → List Piece → Printer
  | [], _ => return ()
  | piece :: pieces, [] => do
      printGuarded piece
      printTemplatePieces pieces []
  | piece :: pieces, value :: values => do
      printGuarded piece
      printText "$\x7b"
      value.printFree
      printChar '\x7d'
      printTemplatePieces pieces values

/-- Prints a template. -/
def printTemplate (pieces : List String) (values : List Piece) : Printer := do
  printChar '\x60'
  printTemplatePieces pieces values
  printChar '\x60'

/-! ## Arrays and objects -/

/-- Prints an item on a line of its own, or behind the given space. -/
def printItem (lines : Bool) (space : Printer) (surroundings : Surroundings) (item : Piece) :
    Printer := do
  if lines then
    softBreak
    printIndent
  else space
  item.printValue surroundings

/-- Prints items with commas between them; the first one behind `lead`, the others behind
`gap`. -/
def printItems (lines : Bool) (lead gap : Printer) (surroundings : Surroundings) :
    List Piece → Printer
  | [] => return ()
  | [item] => printItem lines lead surroundings item
  | item :: items => do
      printItem lines lead surroundings item
      printChar ','
      printItems lines gap gap surroundings items

/-- What comes before the closing bracket of items on lines of their own. -/
def closeLines (lines : Bool) : Printer := do
  if lines then
    softBreak
    printIndent

/-- Prints an array: up to two elements on one line, more on lines of their own. -/
def printArray (elements : List Piece) : Printer := do
  let lines := 2 < elements.length
  printChar '['
  let body : Printer := do
    printItems lines (pure ()) softSpace .free elements
    match elements.getLast? with
    | some last => if isHole last then printChar ','
    | none => pure ()
  if lines then indented body else body
  closeLines lines
  printChar ']'

/-- Whether the next piece stands at the start of a statement or of an arrow body. -/
def atInnerStart : StateM Output Bool := do
  let output ← get
  return output.statementStart == output.length || output.arrowStart == output.length

/-- Prints an object: one property on one line, more on lines of their own. Comments before it stand
in parentheses with it. -/
def printObject (start : Nat) (properties : List Piece) (surroundings : Surroundings) :
    Printer := do
  let lines := 1 < properties.length
  parenthesizedIf ((← hasComments start) || (← atInnerStart)) do
    printInlineCommentsAt start
    printChar '\x7b'
    let body := printItems lines softSpace softSpace surroundings properties
    if lines then indented body else body
    closeLines lines
    unless lines || properties.isEmpty do softSpace
    printChar '\x7d'

/-- Whether a property is printed as a bare name: its value is the variable of the same name. -/
def propertyShorthand (shorthand computed : Bool) (key value : Piece) : Bool :=
  match key.form with
  | .word text =>
      if computed then false
      else if text == "__proto__" then shorthand
      else match value.withoutParentheses.form with
        | .reference name => name == text
        | _ => false
  | _ => false

/-- Whether a piece is a number beyond all bounds, which has no spelling of its own. -/
def isInfinite (piece : Piece) : Bool :=
  match piece.form with
  | .number .infinite => true
  | _ => false

/-- Prints a property. -/
def printProperty (kind : AccessorKind) (method computed shorthand : Bool) (key value : Piece)
    (surroundings : Surroundings) : Printer := do
  if method || kind != .plain then printMethod kind computed key value surroundings
  else
    unless propertyShorthand shorthand computed key value do
      printKey key (computed || isInfinite key)
      printChar ':'
      softSpace
    value.printElement

/-! ## Accesses and calls -/

/-- Prints arguments of which some have comments, each on a line of its own. -/
def printCommentedArguments : List Piece → Printer
  | [] => return ()
  | item :: items => do
      unless ← printCommentLinesAt item.start do softBreak
      printIndent
      item.printElement
      unless items.isEmpty do printChar ','
      printCommentedArguments items

/-- Prints arguments in parentheses. -/
def printArguments (closing : Nat) (arguments : List Piece) : Printer := do
  let output ← get
  let commented := (closing :: arguments.map Piece.start).any fun offset =>
    output.comments.any fun entry => entry.1 == offset
  printChar '('
  if commented then
    indented do
      printCommentedArguments arguments
      unless ← printCommentLinesAt closing do softBreak
    printIndent
  else printList (arguments.map Piece.printElement)
  printChar ')'

/-- The comment that says that a call has no side effects. -/
def printPure (pure : Bool) : Printer := do
  if pure then printText "/* @__PURE__ */ "

/-- Prints a call. -/
def printCall (optional pure : Bool) (closing : Nat) (callee : Piece) (arguments : List Piece)
    (surroundings : Surroundings) : Printer := do
  let output ← get
  let wrap := Level.construct ≤ surroundings.level || surroundings.forbidCall
    || (pure && Level.update ≤ surroundings.level)
  parenthesizedIf wrap do
    printPure pure
    if output.defaultStart == output.length then
      modify fun later => { later with defaultStart := later.length }
    else if output.statementStart == output.length then
      modify fun later => { later with statementStart := later.length }
    callee.print (.ofLevel Level.update)
    if optional then printText "?."
    printArguments closing arguments

/-- Prints `new`. Minified, empty parentheses are left out where nothing can follow them. -/
def printConstruct (pure : Bool) (closing : Nat) (callee : Piece) (arguments : List Piece)
    (surroundings : Surroundings) : Printer := do
  let wrap := Level.call ≤ surroundings.level || (pure && Level.update ≤ surroundings.level)
  parenthesizedIf wrap do
    printPure pure
    printWord "new"
    softSpace
    callee.print ⟨Level.construct, false, true⟩
    if !(← minifying) || !arguments.isEmpty || Level.update ≤ surroundings.level then
      printArguments closing arguments

/-- Prints an argument of an import behind what comes before it: with comments around, each argument
stands on a line of its own. -/
def printImportArgument (commented : Bool) (space : Printer) (argument : Piece) : Printer := do
  if ← printCommentLinesAt argument.start then printIndent
  else if commented then
    softBreak
    printIndent
  else space
  argument.printElement

/-- Prints a module loaded by an expression. -/
def printImportCall (phase : Option String) (closing : Nat) (arguments : List Piece)
    (surroundings : Surroundings) : Printer :=
  parenthesizedIf (Level.construct ≤ surroundings.level || surroundings.forbidCall) do
    let output ← get
    let commented := (closing :: arguments.map Piece.start).any fun offset =>
      output.comments.any fun entry => entry.1 == offset
    printWord "import"
    printAll (phase.toList.map fun name => printText ("." ++ name))
    printChar '('
    let body : Printer := do
      match arguments with
      | [] => pure ()
      | module :: options =>
          printImportArgument commented (pure ()) module
          printAll (options.map fun option => do
            printChar ','
            printImportArgument commented softSpace option)
    if commented then
      indented do
        body
        unless ← printCommentLinesAt closing do softBreak
      printIndent
    else body
    printChar ')'

/-- Prints the object of an access. -/
def printAccessed (object : Piece) (surroundings : Surroundings) : Printer :=
  object.print ⟨Level.update, false, surroundings.forbidCall⟩

/-- Prints an access to a named property. -/
def printMemberAccess (name : String) (optional : Bool) (object : Piece)
    (surroundings : Surroundings) : Printer := do
  printAccessed object surroundings
  if optional then printChar '?'
  else
    let output ← get
    if output.numberEnd == output.length then printChar ' '
  printChar '.'
  printText name

/-- Prints an access to a private member. -/
def printPrivateAccess (name : String) (optional : Bool) (object : Piece)
    (surroundings : Surroundings) : Printer := do
  printAccessed object surroundings
  if optional then printChar '?'
  printText (".#" ++ name)

/-- Whether a piece is the variable `let`, which a bracket would make a declaration. -/
def isLet (piece : Piece) : Bool :=
  match piece.withoutParentheses.form with
  | .reference name => name == "let"
  | _ => false

/-- Prints an access by a key. -/
def printIndexAccess (optional : Bool) (object key : Piece) (surroundings : Surroundings) :
    Printer := do
  parenthesizedIf (isLet object) (printAccessed object surroundings)
  if optional then printText "?."
  printChar '['
  key.printFree
  printChar ']'

/-! ## Operators -/

/-- Whether an operand, looking through parentheses, is joined by `&&` or `||`. -/
def isLogicalPiece (piece : Piece) : Bool :=
  match piece.withoutParentheses.form with
  | .binary .logicalOr | .binary .logicalAnd => true
  | _ => false

/-- Whether an operand, looking through parentheses, has an operator before it or is a number. -/
def isSignedPiece (piece : Piece) : Bool :=
  match piece.withoutParentheses.form with
  | .unary _ | .await => true
  | _ => false

/-- The level that surrounds the left operand. -/
def leftLevel (operator : BinaryOperator) (left : Piece) : Level :=
  match operator with
  | .coalesce => if isLogicalPiece left then Level.unary else operator.level - 1
  | .power => if isSignedPiece left then Level.call else operator.level
  | _ => operator.level - 1

/-- The level that surrounds the right operand. How operands of `&&`, `||` and `??` are grouped
makes no difference. -/
def rightLevel (operator : BinaryOperator) (right : Piece) : Level :=
  match operator with
  | .coalesce => if isLogicalPiece right then Level.unary else operator.level - 1
  | .logicalOr | .logicalAnd | .power => operator.level - 1
  | _ => operator.level

/-- Prints two operands with an operator between them. -/
def printBinary (operator : BinaryOperator) (left right : Piece) (surroundings : Surroundings) :
    Printer := do
  let wrap := operator.level ≤ surroundings.level || (operator == .isIn && surroundings.forbidIn)
  let inside := { surroundings with forbidIn := surroundings.forbidIn && !wrap }
  parenthesizedIf wrap do
    left.print (inside.withLevel (leftLevel operator left))
    softSpace
    if operator.isWord then printWord operator.text else printOperator operator.text
    softSpace
    right.print (inside.withLevel (rightLevel operator right))

/-- Prints the test for a private member. -/
def printPrivateTest (name : String) (object : Piece) (surroundings : Surroundings) : Printer :=
  parenthesizedIf (Level.comparison ≤ surroundings.level) do
    printText ("#" ++ name ++ " in ")
    object.print ⟨Level.equality, true, false⟩

/-- Prints an operator and the operand behind it. Where a name stands for a number, it must not be
taken for the variable that is deleted. -/
def printUnary (operator : UnaryOperator) (operand : Piece) (surroundings : Surroundings) :
    Printer :=
  parenthesizedIf (Level.unary ≤ surroundings.level) do
    if operator.isWord then
      printWord operator.text
      softSpace
    else printOperator operator.text
    if operator == .delete && isInfinite operand && !(← minifying) then
      printText "(0, "
      operand.print (surroundings.withLevel Level.power)
      printChar ')'
    else operand.print (surroundings.withLevel Level.power)

/-- Prints a change of a variable by one. -/
def printUpdate (operator : UpdateOperator) (before : Bool) (operand : Piece)
    (surroundings : Surroundings) : Printer :=
  if before then
    parenthesizedIf (Level.unary ≤ surroundings.level) do
      printOperator operator.text
      operand.print (surroundings.withLevel Level.unary)
  else
    parenthesizedIf (Level.update ≤ surroundings.level) do
      separateOperator operator.text
      operand.print (surroundings.withLevel Level.update)
      printText operator.text
      modify fun output =>
        { output with lastOperator := operator.text, operatorEnd := output.length }

/-- Prints a conditional. -/
def printConditional (condition yes no : Piece) (surroundings : Surroundings) : Printer := do
  let wrap := Level.conditional ≤ surroundings.level
  let forbidIn := surroundings.forbidIn && !wrap
  parenthesizedIf wrap do
    condition.print ⟨Level.conditional, forbidIn, false⟩
    softSpace
    printChar '?'
    softSpace
    yes.print (.ofLevel Level.yielding)
    softSpace
    printChar ':'
    softSpace
    no.print ⟨Level.yielding, forbidIn, false⟩

/-- Whether a piece is an object pattern. -/
def isObjectPattern (piece : Piece) : Bool :=
  match piece.form with
  | .objectPattern _ => true
  | _ => false

/-- Prints an assignment. -/
def printAssignment (operator : String) (target value : Piece) (surroundings : Surroundings) :
    Printer := do
  let hidden := (← atInnerStart) && isObjectPattern target
  parenthesizedIf (hidden || Level.assignment ≤ surroundings.level) do
    target.printValue surroundings
    softSpace
    printText operator
    softSpace
    value.printValue surroundings

/-- Prints `yield` and the value behind it. -/
def printYield (delegate : Bool) (value : List Piece) (surroundings : Surroundings) : Printer :=
  parenthesizedIf (Level.assignment ≤ surroundings.level) do
    printWord (if delegate then "yield*" else "yield")
    printAll (value.map fun piece => do
      softSpace
      piece.print (.ofLevel Level.yielding))

/-- Prints `await` and the value behind it. -/
def printAwait (value : Piece) (surroundings : Surroundings) : Printer :=
  parenthesizedIf (Level.unary ≤ surroundings.level) do
    printWord "await"
    softSpace
    value.print (surroundings.withLevel Level.power)

/-! ## All expressions -/

/-- The printer of a form that is an expression without operators. -/
def printOperand? (start : Nat) (form : Form) (parts : List Piece) :
    Option (Surroundings → Printer) :=
  match form, parts with
  | .reference name, _ => some fun _ => printWord name
  | .word text, _ => some fun _ => printWord text
  | .privateName text, _ => some fun _ => printText ("#" ++ text)
  | .string value, _ => some fun _ => printString value true
  | .number value, _ => some (printNumber value)
  | .bigInteger value, _ => some fun _ => printWord (toString value ++ "n")
  | .regex pattern flags, _ => some fun _ => printRegex pattern flags
  | .boolean value, _ => some fun _ => printWord (if value then "true" else "false")
  | .null, _ => some fun _ => printWord "null"
  | .this, _ => some fun _ => printWord "this"
  | .parent, _ => some fun _ => printWord "super"
  | .metaProperty object property, _ => some fun _ => printWord (object ++ "." ++ property)
  | .template pieces, values => some fun _ => printTemplate pieces values
  | .taggedTemplate, [tag, template] => some fun _ => do
      tag.print (.ofLevel Level.update)
      template.printFree
  | .array, elements => some fun _ => printArray elements
  | .object, properties => some (printObject start properties)
  | .property kind method computed shorthand, [key, value] =>
      some (printProperty kind method computed shorthand key value)
  | .spread, [value] => some fun _ => do
      printText "..."
      value.printElement
  | .member name optional, [object] => some (printMemberAccess name optional object)
  | .privateMember name optional, [object] => some (printPrivateAccess name optional object)
  | .index optional, [object, key] => some (printIndexAccess optional object key)
  | .call optional pure closing, callee :: arguments =>
      some (printCall optional pure closing callee arguments)
  | .construct pure closing, callee :: arguments =>
      some (printConstruct pure closing callee arguments)
  | .importCall phase closing, arguments => some (printImportCall phase closing arguments)
  | .chain, [inner] => some fun surroundings =>
      parenthesizedIf (Level.update ≤ surroundings.level) (inner.print surroundings)
  | .parenthesized, [inner] => some inner.print
  | _, _ => none

/-- The printer of a form that is made with operators. -/
def printOperation? (form : Form) (parts : List Piece) : Option (Surroundings → Printer) :=
  match form, parts with
  | .unary operator, [operand] => some (printUnary operator operand)
  | .update operator before, [operand] => some (printUpdate operator before operand)
  | .binary operator, [left, right] =>
      match left.form with
      | .privateName name => some (printPrivateTest name right)
      | _ => some (printBinary operator left right)
  | .conditional, [condition, yes, no] => some (printConditional condition yes no)
  | .assign operator, [target, value] => some (printAssignment operator target value)
  | .sequence, items => some fun surroundings =>
      parenthesizedIf (Level.comma ≤ surroundings.level)
        (printList (items.map fun item =>
          item.print (surroundings.withCall.withLevel Level.lowest)))
  | .yield delegate, value => some (printYield delegate value)
  | .await, [value] => some (printAwait value)
  | _, _ => none

end LoopTemplate.Print
