import LoopTemplate.Print.Pattern

/-!
# Functions and classes
-/

namespace LoopTemplate.Print

open LoopTemplate.Tree (AccessorKind ArrowHead Form FunctionHead Level)

/-! ## Statements in sequence -/

/-- Prints a directive as it was written. -/
def printDirective (start : Nat) (raw : String) : Printer := do
  let quote := rawQuote raw.toList
  printCommentsAt start
  printIndent
  printChar quote
  printText raw
  printChar quote
  printChar ';'
  softBreak

/-- Whether a statement is a string, which would be taken for a directive. -/
def isStringStatement (statement : Piece) : Bool :=
  match statement.form with
  | .expressionStatement =>
      match (statement.part 0).withoutParentheses.form with
      | .string _ => true
      | _ => false
  | _ => false

/-- Prints statements one after the other. -/
def printStatements (surroundings : Surroundings) (statements : List Piece) : Printer :=
  printAll (statements.map fun statement => do
    printDueSemicolon
    statement.print surroundings)

/-- Prints directives and statements. A string that comes first and is no directive is put in
parentheses. -/
def printBodyStatements (surroundings : Surroundings) (statements : List Piece) : Printer := do
  match statements with
  | first :: others =>
      if isStringStatement first && !(← minifying) then
        printChar '('
        (first.part 0).printFree
        printChar ')'
        endStatement
        printStatements surroundings others
      else printStatements surroundings statements
  | [] => return ()

/-- Prints a block of statements in braces, without what comes before and after it. -/
def printBlock (surroundings : Surroundings) (statements : List Piece) : Printer := do
  braced statements.isEmpty (printStatements surroundings statements)
  dropSemicolon

/-- Prints the body of a function, with the comments before its closing brace. -/
def printFunctionBody (closing : Nat) (statements : List Piece) (surroundings : Surroundings) :
    Printer := do
  let comments ← takeComments closing
  let calm := comments.all fun comment => !comment.afterBreak && !comment.beforeBreak
  braced (statements.isEmpty && calm) do
    printBodyStatements surroundings statements
    unless comments.isEmpty do
      printComments comments
      leaveLine
  dropSemicolon

/-! ## Functions -/

/-- Prints parameters without their parentheses. -/
def printParameters (parameters : Piece) (surroundings : Surroundings) : Printer :=
  printList (parameters.parts.map fun parameter => parameter.print surroundings)

/-- Prints the parameters in parentheses and the body. -/
def printSignature (parameters body : Piece) (surroundings : Surroundings) : Printer := do
  printChar '('
  printParameters parameters surroundings
  printChar ')'
  softSpace
  body.print surroundings

/-- The comment that says that calling a function has no side effects. -/
def effectFreeComment : String := "/* @__NO_SIDE_EFFECTS__ */"

/-- Whether the next piece stands at the start of a statement or of a default export. -/
def atOuterStart : StateM Output Bool := do
  let output ← get
  return output.statementStart == output.length || output.defaultStart == output.length

/-- Prints the comment that says that calling a function has no side effects. It stands before the
parentheses of the function. -/
def printEffectFree (effectFree : Bool) : Printer := do
  if effectFree then printText (effectFreeComment ++ " ")

/-- Prints a function with its keyword. -/
def printFunction (head : FunctionHead) (name parameters body : Piece)
    (surroundings : Surroundings) : Printer := do
  printEffectFree (head.expression && head.effectFree)
  let wrap := head.expression && ((← atOuterStart) || head.wrapped)
  parenthesizedIf wrap do
    separateWord
    if head.async then printText "async "
    printText "function"
    if head.generator then
      printChar '*'
      softSpace
    unless name.isAbsent do name.printFree
    printSignature parameters body surroundings.withCall

/-- Whether parameters are a single name without a default value. -/
def isBareParameter (parameters : Piece) : Bool :=
  match parameters.parts with
  | [parameter] =>
      match parameter.form, parameter.parts with
      | .parameter, [pattern] =>
          match pattern.form with
          | .binding _ => true
          | _ => false
      | _, _ => false
  | _ => false

/-- Prints an arrow. -/
def printArrow (head : ArrowHead) (parameters body : Piece) (surroundings : Surroundings) :
    Printer := do
  printEffectFree head.effectFree
  parenthesizedIf (Level.assignment ≤ surroundings.level || head.wrapped) do
    if head.async then
      printWord "async"
      softSpace
    if (← minifying) && isBareParameter parameters then printParameters parameters surroundings
    else
      printChar '('
      printParameters parameters surroundings
      printChar ')'
    softSpace
    printText "=>"
    softSpace
    match body.form with
    | .body _ => body.print surroundings
    | _ =>
        modify fun output => { output with arrowStart := output.length }
        body.printValue surroundings

/-! ## Classes and methods -/

/-- Prints a word and a space that minified text does without. -/
def printModifier (word : String) : Printer := do
  printWord word
  softSpace

/-- Prints a method: its modifiers, key, parameters and body. -/
def printMethod (kind : AccessorKind) (computed : Bool) (key function : Piece)
    (surroundings : Surroundings) : Printer := do
  match kind with
  | .plain => pure ()
  | .getter => printModifier "get"
  | .setter => printModifier "set"
  match function.form with
  | .function head =>
      if head.async then printModifier "async"
      if head.generator then printChar '*'
  | _ => pure ()
  printKey key computed
  printSignature (function.part 1) (function.part 2) surroundings

/-- Whether a decorator can stand behind `@` without parentheses: a name, an access by name, or a
call of one of these. -/
def isPlainDecorator : Piece → Bool
  | .mk _ (.reference _) _ _ => true
  | .mk _ (.member _ _) _ _ => true
  | .mk _ (.privateMember _ _) _ _ => true
  | .mk _ (.call _ _ _) (callee :: _) _ => isPlainDecorator callee
  | _ => false

/-- Prints decorators, each with a space behind it. -/
def printDecorators (decorators : Piece) : Printer :=
  printAll (decorators.parts.map fun decorator => do
    printChar '@'
    parenthesizedIf (!isPlainDecorator decorator) decorator.printFree
    printChar ' ')

/-- Prints a field with its modifiers, or the pair of accessors that takes its place. -/
def printField (static accessor computed : Bool) (key : Piece) (value : List Piece) :
    Printer := do
  if static then printModifier "static"
  if accessor then
    printWord "accessor"
    if computed then softSpace else printChar ' '
  printKey key computed
  printAll (value.map (printDefault .free))
  endStatement

/-- Prints a member of a class. -/
def printMember (surroundings : Surroundings) (member : Piece) : Printer := do
  printDueSemicolon
  printCommentsAt member.start
  printIndent
  member.print surroundings

/-- Prints a class. -/
def printClass (expression : Bool) (decorators name heritage : Piece) (members : List Piece)
    (surroundings : Surroundings) : Printer := do
  let wrap := expression && (← atOuterStart)
  parenthesizedIf wrap do
    printDecorators decorators
    printWord "class"
    unless name.isAbsent do
      printChar ' '
      name.printFree
    unless heritage.isAbsent do
      printText " extends "
      heritage.print (.ofLevel Level.update)
    softSpace
    braced members.isEmpty (printAll (members.map (printMember surroundings.withCall)))
    dropSemicolon

/-- The printer of a form that belongs to functions and classes. -/
def printFunction? (start : Nat) (form : Form) (parts : List Piece) :
    Option (Surroundings → Printer) :=
  match form, parts with
  | .directive raw, _ => some fun _ => printDirective start raw
  | .body closing, statements => some (printFunctionBody closing statements)
  | .function head, [name, parameters, body] => some (printFunction head name parameters body)
  | .arrow head, [parameters, body] => some (printArrow head parameters body)
  | .parameter, [pattern] => some fun _ => pattern.printFree
  | .parameter, [pattern, value] => some fun surroundings => do
      pattern.printFree
      printDefault surroundings value
  | .restParameter, [pattern] => some fun _ => do
      printText "..."
      pattern.printFree
  | .classDefinition expression, decorators :: name :: heritage :: members =>
      some (printClass expression decorators name heritage members)
  | .method kind static computed, [decorators, key, function] => some fun surroundings => do
      printDecorators decorators
      if static then printModifier "static"
      printMethod kind computed key function surroundings
      softBreak
  | .field static accessor computed, decorators :: key :: value => some fun _ => do
      printDecorators decorators
      printField static accessor computed key value
  | .staticBlock, statements => some fun surroundings => do
      printModifier "static"
      printBlock surroundings statements
      softBreak
  | _, _ => none

end LoopTemplate.Print
