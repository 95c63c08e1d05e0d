import LoopTemplate.Text.Identifier
import LoopTemplate.Token.Basic

/-!
# The text being printed

A printer adds to the text printed so far and remembers what the next piece needs to know: how deep
it stands, whether a semicolon is still due, and where certain pieces began or ended. When
minifying, optional spaces, line breaks and indentation are left out.
-/

namespace LoopTemplate.Print

open LoopTemplate.Token (Comment)

/-- The text printed so far and what the next piece needs to know. -/
structure Output where
  minify : Bool
  /-- The characters printed, the last first. -/
  chars : List Char
  /-- How many characters were printed. -/
  length : Nat
  /-- How many levels deep the next line stands. -/
  indent : Nat
  /-- A semicolon is due before the next statement. -/
  semicolonDue : Bool
  /-- The next indentation is a single space, since the line goes on. -/
  indentAsSpace : Bool
  /-- The last operator that was printed, and where it ended. -/
  lastOperator : String
  operatorEnd : Nat
  /-- Where the last regular expression ended. -/
  regexEnd : Nat
  /-- Where the last number ended that a point would extend. -/
  numberEnd : Nat
  /-- Where the last statement, arrow body and default export began. -/
  statementStart : Nat
  arrowStart : Nat
  defaultStart : Nat
  /-- Comments that are not yet printed, by the offset they lead up to. -/
  comments : List (Nat × List Comment)
deriving Inhabited

/-- A printer. -/
abbrev Printer := StateM Output Unit

/-- Nothing printed yet. -/
def Output.empty (minify : Bool) (comments : List (Nat × List Comment)) : Output :=
  { minify, chars := [], length := 0, indent := 0, semicolonDue := false, indentAsSpace := false,
    lastOperator := "", operatorEnd := 0, regexEnd := 0, numberEnd := 0, statementStart := 0,
    arrowStart := 0, defaultStart := 0, comments }

/-- The text printed so far. -/
def Output.text (output : Output) : String := String.ofList output.chars.reverse

/-! ## Characters and spaces -/

/-- Prints one character. -/
def printChar (c : Char) : Printer :=
  modify fun output => { output with chars := c :: output.chars, length := output.length + 1 }

/-- Prints a text. -/
def printText (text : String) : Printer :=
  modify fun output =>
    { output with
      chars := text.toList.reverse ++ output.chars
      length := output.length + text.length }

/-- The last character printed. -/
def lastChar? : StateM Output (Option Char) := do return (← get).chars.head?

/-- How much was printed. -/
def position : StateM Output Nat := do return (← get).length

/-- Whether the text is minified. -/
def minifying : StateM Output Bool := do return (← get).minify

/-- Runs a printer unless the text is minified. -/
def unlessMinified (printer : Printer) : Printer := do
  unless ← minifying do printer

/-- A space that minified text does without. -/
def softSpace : Printer := unlessMinified (printChar ' ')

/-- A line break that minified text does without. -/
def softBreak : Printer := unlessMinified (printChar '\n')

/-- The beginning of a line. -/
def printIndent : Printer := do
  let output ← get
  if output.minify then return ()
  else if output.indentAsSpace then
    set { output with indentAsSpace := false }
    printChar ' '
  else printText (String.ofList (List.replicate output.indent '\t'))

/-- Runs a printer one level deeper. -/
def indented (printer : Printer) : Printer := do
  modify fun output => { output with indent := output.indent + 1 }
  printer
  modify fun output => { output with indent := output.indent - 1 }

/-! ## Words and operators -/

/-- A space if the next word would otherwise run together with what was printed. -/
def separateWord : Printer := do
  let output ← get
  match output.chars with
  | [] => return ()
  | last :: _ =>
      if output.regexEnd == output.length || Text.isIdentifierPart last then printChar ' '

/-- Prints a word. -/
def printWord (word : String) : Printer := do
  separateWord
  printText word

/-- Whether the second operator would run together with the first. -/
def operatorsClash (first second : String) (beforeFirst : Option Char) : Bool :=
  (first == "+" && (second == "+" || second == "++"))
    || (first == "-" && (second == "-" || second == "--"))
    || (first == "--" && second == ">")
    || (first == "!" && second == "--" && beforeFirst == some '<')

/-- A space if an operator would run together with the operator right before it. -/
def separateOperator (operator : String) : Printer := do
  let output ← get
  if output.operatorEnd == output.length
      && operatorsClash output.lastOperator operator output.chars.tail.head? then
    printChar ' '

/-- Prints an operator that is no word. -/
def printOperator (operator : String) : Printer := do
  separateOperator operator
  printText operator
  modify fun output => { output with lastOperator := operator, operatorEnd := output.length }

/-! ## Statements -/

/-- The end of a statement. -/
def endStatement : Printer := do
  if ← minifying then modify fun output => { output with semicolonDue := true }
  else printText ";\n"

/-- The semicolon that is due before the next statement. -/
def printDueSemicolon : Printer := do
  if (← get).semicolonDue then
    modify fun output => { output with semicolonDue := false }
    printChar ';'

/-- No semicolon is due. -/
def dropSemicolon : Printer :=
  modify fun output => { output with semicolonDue := false }

/-- Lets the next statement go on in the same line. -/
def continueLine : Printer :=
  modify fun output => { output with indentAsSpace := true }

/-- Nothing goes on in the same line. -/
def leaveLine : Printer :=
  modify fun output => { output with indentAsSpace := false }

/-- Puts what a printer prints in parentheses where needed. -/
def parenthesizedIf (needed : Bool) (printer : Printer) : Printer := do
  if needed then
    printChar '('
    printer
    printChar ')'
  else printer

/-- Braces around what a printer prints, on one line or on lines of its own. -/
def braced (oneLine : Bool) (printer : Printer) : Printer := do
  printChar '\x7b'
  if oneLine then printer
  else
    softBreak
    indented printer
    printIndent
  printChar '\x7d'

/-- Runs printers with commas between them. -/
def printList : List Printer → Printer
  | [] => return ()
  | [printer] => printer
  | printer :: printers => do
      printer
      printChar ','
      softSpace
      printList printers

/-- Runs printers one after the other. -/
def printAll : List Printer → Printer
  | [] => return ()
  | printer :: printers => do
      printer
      printAll printers

end LoopTemplate.Print
