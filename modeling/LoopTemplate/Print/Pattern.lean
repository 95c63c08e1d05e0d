import LoopTemplate.Print.Piece

/-!
# Keys and patterns
-/

namespace LoopTemplate.Print

open LoopTemplate.Tree (Form Level Node PatternRole)

/-- Prints the key of a property. -/
def printKey (key : Piece) (computed : Bool) : Printer := do
  if computed then
    printChar '['
    match key.form with
    | .string value => printString value false
    | _ => key.printElement
    printChar ']'
  else match key.form with
    | .word text => printWord text
    | .privateName text =>
        printChar '#'
        printText text
    | .string value => printString value false
    | _ => key.printElement

/-- Prints what follows a name or pattern as its value. -/
def printDefault (surroundings : Surroundings) (value : Piece) : Printer := do
  softSpace
  printChar '='
  softSpace
  value.printValue surroundings

/-- The name that a pattern is, looking through its default value. -/
def patternName? (pattern : Piece) : Option String :=
  match pattern.form with
  | .binding name | .reference name => some name
  | .patternDefault =>
      match (pattern.part 0).form with
      | .binding name | .reference name => some name
      | _ => none
  | _ => none

/-- Whether a property of a pattern is printed as a bare name. -/
def patternShorthand (minify : Bool) (role : PatternRole) (shorthand computed : Bool)
    (key pattern : Piece) : Bool :=
  match key.form with
  | .word text =>
      !computed && patternName? pattern == some text
        && (role == .declaring || shorthand || minify)
  | _ => false

/-- Prints a property of a pattern. -/
def printPatternProperty (role : PatternRole) (computed shorthand : Bool) (key pattern : Piece) :
    Printer := do
  unless patternShorthand (← minifying) role shorthand computed key pattern do
    printKey key computed
    printChar ':'
    softSpace
  pattern.printElement

/-- Whether a piece is the rest of a pattern. -/
def isPatternRest (piece : Piece) : Bool :=
  match piece.form with
  | .patternRest => true
  | _ => false

/-- Whether a piece is a skipped element. -/
def isHole (piece : Piece) : Bool :=
  match piece.form with
  | .hole => true
  | _ => false

/-- Prints an array pattern. A comma follows a skipped element at the end, and one stands before
the rest. Where names are declared, a rest that stands alone has a space before it all the same. -/
def printArrayPattern (role : PatternRole) (elements : List Piece) : Printer := do
  let items := elements.filter fun element => !isPatternRest element
  let rest := elements.filter isPatternRest
  printChar '['
  printList (items.map Piece.printElement)
  match items.getLast? with
  | some last => if isHole last || !rest.isEmpty then printChar ','
  | none => pure ()
  printAll (rest.map fun piece => do
    if role == .declaring || !items.isEmpty then softSpace
    piece.printElement)
  printChar ']'

/-- Prints an object pattern, with space inside its braces where it declares names. -/
def printObjectPattern (role : PatternRole) (properties : List Piece) : Printer := do
  let spaced := role == .declaring && !properties.isEmpty
  printChar '\x7b'
  if spaced then softSpace
  printList (properties.map Piece.printElement)
  if spaced then softSpace
  printChar '\x7d'

/-- The printer of a form that stands in patterns. -/
def printPattern? (form : Form) (parts : List Piece) : Option (Surroundings → Printer) :=
  match form, parts with
  | .binding name, _ => some fun _ => printWord name
  | .arrayPattern role, elements => some fun _ => printArrayPattern role elements
  | .objectPattern role, properties => some fun _ => printObjectPattern role properties
  | .patternProperty role computed shorthand, [key, pattern] =>
      some fun _ => printPatternProperty role computed shorthand key pattern
  | .patternDefault, [pattern, value] => some fun _ => do
      pattern.printElement
      printDefault .free value
  | .patternRest, [pattern] => some fun _ => do
      printText "..."
      pattern.printElement
  | .hole, _ => some fun _ => return ()
  | _, _ => none

end LoopTemplate.Print
