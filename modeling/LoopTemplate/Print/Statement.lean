import LoopTemplate.Print.Function

/-!
# Statements

A statement begins with the comments that lead up to it and with its indentation, and ends its line.
The single statement under another one, as in the branch of an `if`, goes on in the same line.
-/

namespace LoopTemplate.Print

open LoopTemplate.Tree (Form FunctionHead Level VariableKind)

/-! ## Frames -/

/-- What comes before a statement. -/
def beginStatement (start : Nat) : Printer := do
  printCommentsAt start
  printIndent

/-- What comes before a statement that begins with an expression or label: at the outermost level
there is no indentation, not even a space. -/
def beginBareStatement (start : Nat) : Printer := do
  printCommentsAt start
  let output ← get
  if 0 < output.indent || output.indentAsSpace then printIndent

/-- Prints the statement under another one. -/
def printUnder (spaced : Bool) (surroundings : Surroundings) (statement : Piece) : Printer := do
  match statement.form with
  | .block =>
      softSpace
      printBlock surroundings statement.parts
      softBreak
  | .emptyStatement =>
      printChar ';'
      softBreak
  | _ =>
      if spaced && (← minifying) then printChar ' '
      continueLine
      statement.print surroundings

/-- Prints an expression in parentheses behind a keyword. -/
def printHead (keyword : String) (condition : Piece) : Printer := do
  printWord keyword
  softSpace
  printChar '('
  condition.printFree
  printChar ')'

/-! ## Conditions -/

/-- Whether an `else` behind a statement would be taken for part of it. -/
def takesElse : Piece → Bool
  | .mk _ .ifStatement [_, _] _ => true
  | .mk _ .ifStatement [_, _, no] _ => takesElse no
  | .mk _ .forLoop [_, _, _, body] _ => takesElse body
  | .mk _ .forIn [_, _, body] _ => takesElse body
  | .mk _ (.forOf _) [_, _, body] _ => takesElse body
  | .mk _ .whileLoop [_, body] _ => takesElse body
  | .mk _ .withStatement [_, body] _ => takesElse body
  | .mk _ (.labeled _) [body] _ => takesElse body
  | _ => false

/-- Prints the first branch of an `if`. -/
def printBranch (branch : Piece) (hasElse : Bool) (surroundings : Surroundings) : Printer := do
  let gap : Printer := if hasElse then softSpace else softBreak
  match branch.form with
  | .block =>
      softSpace
      printBlock surroundings branch.parts
      gap
  | _ =>
      if takesElse branch then
        softSpace
        braced false (branch.print surroundings)
        dropSemicolon
        gap
      else
        printUnder false surroundings branch
        if hasElse then printIndent

/-- Prints an `if` behind its indentation. -/
def printIf (surroundings : Surroundings) : Piece → Printer
  | .mk _ .ifStatement [condition, yes] _ => do
      printHead "if" condition
      printBranch yes false surroundings
  | .mk _ .ifStatement [condition, yes, no] _ => do
      printHead "if" condition
      printBranch yes true surroundings
      printDueSemicolon
      printWord "else"
      match no.form with
      | .ifStatement =>
          printChar ' '
          printIf surroundings no
      | _ => printUnder true surroundings no
  | _ => return ()

/-! ## Loops -/

/-- Prints an expression behind a space, if it is there. -/
def printClause (clause : Piece) : Printer := do
  unless clause.isAbsent do
    softSpace
    clause.printFree

/-- Prints variables without the end of the statement. -/
def printVariables (kind : VariableKind) (declarators : List Piece)
    (surroundings : Surroundings) : Printer := do
  printWord kind.text
  softSpace
  printList (declarators.map fun declarator => declarator.print surroundings)

/-- Prints what the head of a loop begins with. -/
def printHeadStart (surroundings : Surroundings) (initial : Piece) : Printer :=
  match initial.form with
  | .variableList kind => printVariables kind initial.parts surroundings
  | _ => initial.print surroundings

/-- Prints what a loop over keys or values assigns to. The bare name `async` would be taken for the
beginning of an arrow. -/
def printLoopTarget (surroundings : Surroundings) (target : Piece) : Printer :=
  match target.form with
  | .reference name => parenthesizedIf (name == "async") target.printFree
  | _ => printHeadStart surroundings target

/-- Prints a loop that counts. Only in its first clause `in` would be taken for part of the loop. -/
def printFor (initial test step body : Piece) (surroundings : Surroundings) : Printer := do
  printWord "for"
  softSpace
  printChar '('
  printHeadStart ⟨Level.lowest, true, false⟩ initial
  printChar ';'
  printClause test
  printChar ';'
  printClause step
  printChar ')'
  printUnder false surroundings body

/-- Prints a loop over keys. -/
def printForIn (target object body : Piece) (surroundings : Surroundings) : Printer := do
  printWord "for"
  softSpace
  printChar '('
  printLoopTarget surroundings target
  softSpace
  printWord "in"
  softSpace
  object.printFree
  printChar ')'
  printUnder false surroundings body

/-- Prints a loop over values. -/
def printForOf (await : Bool) (target object body : Piece) (surroundings : Surroundings) :
    Printer := do
  printWord "for"
  if await then printText " await"
  softSpace
  printChar '('
  printLoopTarget surroundings target
  softSpace
  printWord "of"
  softSpace
  object.printElement
  printChar ')'
  printUnder false surroundings body

/-- Prints a loop that tests at its end. -/
def printDoWhile (body condition : Piece) (surroundings : Surroundings) : Printer := do
  printWord "do"
  match body.form with
  | .block =>
      softSpace
      printBlock surroundings body.parts
      softSpace
  | .emptyStatement => body.print surroundings
  | _ =>
      softBreak
      indented do
        body.print surroundings
        printDueSemicolon
      printIndent
  printHead "while" condition
  endStatement

/-! ## Other statements -/

/-- Prints a keyword and what may follow it. -/
def printKeyword (keyword : String) (value : List Piece) : Printer := do
  printWord keyword
  printAll (value.map printClause)
  endStatement

/-- Prints `break` or `continue`. -/
def printJump (keyword : String) (label : Option String) : Printer := do
  printWord keyword
  match label with
  | some name =>
      softSpace
      printWord name
  | none => pure ()
  endStatement

/-- Prints a clause of a `try`. -/
def printCatch (clause : Piece) (surroundings : Surroundings) : Printer := do
  softSpace
  printCommentsAt clause.start
  printText "catch"
  let parameter := clause.part 0
  unless parameter.isAbsent do
    softSpace
    printChar '('
    parameter.printFree
    printChar ')'
  softSpace
  printInlineCommentsAt (clause.part 1).start
  printBlock surroundings (clause.part 1).parts

/-- Prints a `try`. -/
def printTry (block handler : Piece) (finalizer : List Piece) (surroundings : Surroundings) :
    Printer := do
  printWord "try"
  softSpace
  printBlock surroundings block.parts
  unless handler.isAbsent do printCatch handler surroundings
  printAll (finalizer.map fun last => do
    softSpace
    printText "finally"
    softSpace
    printBlock surroundings last.parts)
  softBreak

/-- Prints a clause of a `switch`. -/
def printCase (start : Nat) (test : Piece) (statements : List Piece)
    (surroundings : Surroundings) : Printer := do
  printDueSemicolon
  printCommentsAt start
  printIndent
  if test.isAbsent then printWord "default"
  else
    printWord "case"
    softSpace
    test.printFree
  printChar ':'
  match statements with
  | [statement] => printUnder false surroundings statement
  | _ =>
      softBreak
      indented (printStatements surroundings statements)

/-- Prints a `switch`. -/
def printSwitch (value : Piece) (cases : List Piece) (surroundings : Surroundings) : Printer := do
  printHead "switch" value
  softSpace
  braced cases.isEmpty (printAll (cases.map fun clause => clause.print surroundings))
  softBreak
  dropSemicolon

/-- Prints one variable with its value. -/
def printDeclarator (pattern : Piece) (value : List Piece) (surroundings : Surroundings) :
    Printer := do
  pattern.printFree
  printAll (value.map (printDefault surroundings))

/-- Prints `with`. -/
def printWith (object body : Piece) (surroundings : Surroundings) : Printer := do
  printWord "with"
  printChar '('
  object.printFree
  printChar ')'
  printUnder false surroundings body

/-- Prints the line that says that calling a function has no side effects. -/
def printEffectFreeLine (head : FunctionHead) : Printer := do
  if head.effectFree then
    printText effectFreeComment
    printChar '\n'

/-- The printer of a form that is a statement, behind its comments and indentation. -/
def printPlainStatement? (form : Form) (parts : List Piece) : Option (Surroundings → Printer) :=
  match form, parts with
  | .block, statements => some fun surroundings => do
      printBlock surroundings statements
      softBreak
  | .emptyStatement, _ => some fun _ => do
      printChar ';'
      softBreak
  | .debugger, _ => some fun _ => printKeyword "debugger" []
  | .ifStatement, parts => some fun surroundings =>
      printIf surroundings (.mk 0 .ifStatement parts fun _ => return ())
  | .forLoop, [initial, test, step, body] => some (printFor initial test step body)
  | .forIn, [target, object, body] => some (printForIn target object body)
  | .forOf await, [target, object, body] => some (printForOf await target object body)
  | .whileLoop, [condition, body] => some fun surroundings => do
      printHead "while" condition
      printUnder false surroundings body
  | .doWhile, [body, condition] => some (printDoWhile body condition)
  | .returnStatement, value => some fun _ => printKeyword "return" value
  | .throwStatement, value => some fun _ => printKeyword "throw" value
  | .jump keyword label, _ => some fun _ => printJump keyword label
  | .tryStatement, block :: handler :: finalizer => some (printTry block handler finalizer)
  | .switchStatement, value :: cases => some (printSwitch value cases)
  | .withStatement, [object, body] => some (printWith object body)
  | .variableList kind, declarators => some fun surroundings => do
      printVariables kind declarators surroundings
      endStatement
  | .function ⟨false, async, generator, wrapped, effectFree⟩, [name, parameters, body] =>
      let head : FunctionHead := ⟨false, async, generator, wrapped, effectFree⟩
      some fun surroundings => do
        if effectFree then
          printEffectFreeLine head
          printIndent
        printFunction head name parameters body surroundings
        softBreak
  | .classDefinition false, decorators :: name :: heritage :: members => some fun surroundings => do
      printClass false decorators name heritage members surroundings
      softBreak
  | _, _ => none

/-- The printer of a form that is a statement or a part of one. -/
def printStatement? (start : Nat) (form : Form) (parts : List Piece) :
    Option (Surroundings → Printer) :=
  match form, parts with
  | .expressionStatement, [expression] => some fun _ => do
      beginBareStatement start
      modify fun output => { output with statementStart := output.length }
      expression.printFree
      endStatement
  | .labeled label, [body] => some fun surroundings => do
      beginBareStatement start
      printWord label
      printChar ':'
      printUnder false surroundings body
  | .switchCase, test :: statements => some (printCase start test statements)
  | .declarator, pattern :: value => some (printDeclarator pattern value)
  | form, parts => (printPlainStatement? form parts).map fun printer => fun surroundings => do
      beginStatement start
      printer surroundings

end LoopTemplate.Print
