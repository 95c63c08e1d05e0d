import LoopTemplate.Print.Piece

/-!
# Markup

Text between tags and values of attributes are printed as they were written.
-/

namespace LoopTemplate.Print

open LoopTemplate.Tree (AttributeName Form TagName)

/-- The quote for the value of an attribute. -/
def attributeQuote (raw : String) : Char := if raw.toList.contains '"' then '\'' else '"'

/-- Prints an attribute and the space before it. -/
def printAttribute (piece : Piece) : Printer := do
  match piece.form with
  | .spreadAttribute _ => softSpace
  | _ => printChar ' '
  piece.printFree

/-- Prints an opening tag. -/
def printOpening (tag : TagName) (selfClosing : Bool) (attributes : List Piece) : Printer := do
  printChar '<'
  printText tag.text
  printAll (attributes.map printAttribute)
  if selfClosing then
    softSpace
    printChar '/'
  printChar '>'

/-- Prints an element. -/
def printElement (opening : Piece) (children : List Piece) : Printer := do
  opening.printFree
  match opening.form with
  | .opening _ true => pure ()
  | .opening tag false =>
      printAll (children.map Piece.printFree)
      printText "</"
      printText tag.text
      printChar '>'
  | _ => pure ()

/-- Prints something in braces, behind the comments that lead up to an offset. -/
def printInBraces (offset : Nat) (printer : Printer) : Printer := do
  printChar '\x7b'
  printInlineCommentsAt offset
  printer
  printChar '\x7d'

/-- The printer of a form that belongs to markup. -/
def printMarkup? (form : Form) (parts : List Piece) : Option (Surroundings → Printer) :=
  match form, parts with
  | .element, opening :: children => some fun _ => printElement opening children
  | .opening tag selfClosing, attributes => some fun _ => printOpening tag selfClosing attributes
  | .fragment, children => some fun _ => do
      printText "<>"
      printAll (children.map Piece.printFree)
      printText "</>"
  | .text raw, _ => some fun _ => printText raw
  | .container, [value] => some fun _ => printInBraces value.start value.printFree
  | .emptyContainer closing, _ => some fun _ => do
      printChar '\x7b'
      printCommentsAt closing
      leaveLine
      printChar '\x7d'
  | .spreadChild, [value] => some fun _ => do
      printText "\x7b..."
      value.printFree
      printChar '\x7d'
  | .spreadAttribute mark, [value] => some fun _ => printInBraces mark do
      printText "..."
      value.printElement
  | .attribute name, value => some fun _ => do
      printText name.text
      printAll (value.map fun piece => do
        printChar '='
        piece.printFree)
  | .quoted raw, _ => some fun _ => do
      let quote := attributeQuote raw
      printChar quote
      printText raw
      printChar quote
  | _, _ => none

end LoopTemplate.Print
