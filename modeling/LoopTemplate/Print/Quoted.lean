import LoopTemplate.Print.Output
import LoopTemplate.Text.Blank

/-!
# Strings, templates and comments

How text is written between quotes. Minified text takes the quote that costs the least.
-/

namespace LoopTemplate.Print

open LoopTemplate.Token (Comment)
open LoopTemplate.Tree (StringValue)

/-! ## Closing script tags -/

/-- The characters of `script` in lower case, which together with `</` would end a script. -/
def scriptTail : List Char := "script".toList

/-- Whether a text begins with `script`, in any case. -/
def beginsScript (chars : List Char) : Bool :=
  (chars.take scriptTail.length).map Char.toLower == scriptTail

/-- Parts the `<` and `/` of a closing script tag by a backslash. -/
def guardScript : List Char → List Char
  | [] => []
  | '<' :: '/' :: chars =>
      if beginsScript chars then '<' :: '\\' :: '/' :: guardScript chars
      else '<' :: guardScript ('/' :: chars)
  | c :: chars => c :: guardScript chars

/-- Prints a text as it is, but for closing script tags. -/
def printGuarded (text : String) : Printer :=
  printText (String.ofList (guardScript text.toList))

/-! ## Strings -/

/-- The character with a code point, which is no surrogate. -/
def charOf (code : Nat) : Char := Char.ofNat code

/-- Whether a code point is a decimal digit. -/
def isDigitCode (code : Nat) : Bool := 48 ≤ code && code ≤ 57

/-- How a code point is written inside quotes, given the code points after it. -/
def escapeCode (quote : Char) (code : Nat) (later : StringValue) : List Char :=
  if code = 0 then
    match later with
    | next :: _ => if isDigitCode next then "\\x00".toList else "\\0".toList
    | [] => "\\0".toList
  else if code = 7 then "\\x07".toList
  else if code = 8 then "\\b".toList
  else if code = 10 then if quote = '\x60' then ['\n'] else "\\n".toList
  else if code = 11 then "\\v".toList
  else if code = 12 then "\\f".toList
  else if code = 13 then "\\r".toList
  else if code = 0x1B then "\\x1B".toList
  else if code = 0xA0 then "\\xA0".toList
  else if code = 0x2028 then "\\u2028".toList
  else if code = 0x2029 then "\\u2029".toList
  else if 0xD800 ≤ code ∧ code < 0xE000 then '\\' :: 'u' :: Tree.hexDigits code
  else
    let c := charOf code
    if c = '\\' ∨ c = quote then ['\\', c]
    else if c = '$' ∧ quote = '\x60' ∧ later.head? = some 0x7B then ['\\', c]
    else if c = '<' ∧ later.head? = some 0x2F ∧ beginsScript (later.tail.map charOf) then
      ['<', '\\']
    else [c]

/-- A string between its quotes. -/
def escapeString (quote : Char) : StringValue → List Char
  | [] => []
  | code :: later => escapeCode quote code later ++ escapeString quote later

/-- What double quotes, single quotes and backquotes cost. -/
structure QuoteCosts where
  double : Int
  single : Int
  back : Int

/-- How much longer a string gets with each quote. A line break is shorter in backquotes. -/
def quoteCosts : StringValue → QuoteCosts
  | [] => ⟨0, 0, 0⟩
  | code :: later =>
      let costs := quoteCosts later
      if code = 10 then { costs with back := costs.back - 1 }
      else if code = 0x27 then { costs with single := costs.single + 1 }
      else if code = 0x22 then { costs with double := costs.double + 1 }
      else if code = 0x60 then { costs with back := costs.back + 1 }
      else if code = 0x24 ∧ later.head? = some 0x7B then { costs with back := costs.back + 1 }
      else costs

/-- The quote for a string. Only minified text chooses, and backquotes only stand in
expressions. -/
def chooseQuote (minify allowBack : Bool) (value : StringValue) : Char :=
  let costs := quoteCosts value
  if !minify then '"'
  else if allowBack && costs.back ≤ costs.double && costs.back ≤ costs.single then '\x60'
  else if costs.double ≤ costs.single then '"'
  else '\''

/-- Prints a string. -/
def printString (value : StringValue) (allowBack : Bool) : Printer := do
  let quote := chooseQuote (← minifying) allowBack value
  printChar quote
  printText (String.ofList (escapeString quote value))
  printChar quote

/-- The quote for a text that is printed as written: the other one than it uses first. -/
def rawQuote : List Char → Char
  | [] => '"'
  | '"' :: _ => '\''
  | '\'' :: _ => '"'
  | '\\' :: _ :: chars => rawQuote chars
  | _ :: chars => rawQuote chars

/-! ## Comments -/

/-- The lines of a text. -/
def splitLines : List Char → List (List Char)
  | [] => [[]]
  | c :: chars =>
      let later := splitLines chars
      if Text.isLineBreak c then [] :: later
      else match later with
        | line :: lines => (c :: line) :: lines
        | [] => [[c]]

/-- Whether a line begins with the mark of a comment. -/
def beginsComment (line : List Char) : Bool := ['/', '*'].isPrefixOf line

/-- Whether a line ends with the mark of a comment. -/
def endsComment (line : List Char) : Bool := ['*', '/'].isSuffixOf line

/-- Prints one line of a comment at the current depth, and the line break after it. The line that
opens the comment stands where it stands. -/
def printCommentLine (line : List Char) : Printer := do
  unless beginsComment line do printIndent
  printGuarded (String.ofList (line.dropWhile Text.isBlank))
  unless endsComment line do printChar '\n'

/-- A carriage return and a line feed are one line break. -/
def joinBreaks : List Char → List Char
  | [] => []
  | '\r' :: '\n' :: chars => '\n' :: joinBreaks chars
  | c :: chars => c :: joinBreaks chars

/-- Prints one comment. -/
def printComment (comment : Comment) : Printer := do
  if comment.broken then
    printAll ((splitLines (joinBreaks comment.text.toList)).map printCommentLine)
  else printGuarded comment.text

/-- Whether what follows a comment stands on a line of its own. -/
def endsLine (comment : Comment) : Bool := comment.line || comment.beforeBreak

/-- Prints the comments that follow one, and what comes after the last. -/
def printMoreComments : Comment → List Comment → Printer
  | last, [] => do
      if endsLine last then printChar '\n' else continueLine
  | before, comment :: others => do
      if endsLine before then
        printChar '\n'
        printIndent
      else softSpace
      printComment comment
      printMoreComments comment others

/-- Prints comments before what they lead up to. -/
def printComments : List Comment → Printer
  | [] => return ()
  | first :: others => do
      if first.afterBreak then
        match ← lastChar? with
        | none | some '\t' => pure ()
        | some '\n' => printIndent
        | some _ =>
            printChar '\n'
            printIndent
      else printIndent
      printComment first
      printMoreComments first others

/-- Takes the comments that lead up to an offset. -/
def takeComments (offset : Nat) : StateM Output (List Comment) := do
  let output ← get
  match output.comments.find? fun entry => entry.1 == offset with
  | some (_, comments) =>
      set { output with comments := output.comments.filter fun entry => entry.1 != offset }
      return comments
  | none => return []

/-- Whether comments lead up to an offset. -/
def hasComments (offset : Nat) : StateM Output Bool := do
  return (← get).comments.any fun entry => entry.1 == offset

/-- Prints the comments that lead up to an offset. -/
def printCommentsAt (offset : Nat) : Printer := do
  printComments (← takeComments offset)

/-- Prints the comments that lead up to an offset inside a line, and a space or indentation behind
them. -/
def printInlineCommentsAt (offset : Nat) : Printer := do
  if ← hasComments offset then
    printCommentsAt offset
    printIndent

/-- Prints the comments that lead up to an offset, each on a line of its own. Tells whether there
were any. -/
def printCommentLinesAt (offset : Nat) : StateM Output Bool := do
  let comments ← takeComments offset
  printAll (comments.map fun comment => do
    printChar '\n'
    printIndent
    printComment comment)
  if comments.isEmpty then return false
  else
    printChar '\n'
    return true

end LoopTemplate.Print
