import LoopTemplate.Grammar.Module
import LoopTemplate.Text.Position

/-!
# Programs

The rules for all phrases, tied together, and the two ways to read a text: as a module, and as one
expression. Of several faults the first decides: those met while reading tokens come first, then
those noted on the way, then the one that stopped the reading.
-/

namespace LoopTemplate.Grammar

open LoopTemplate.Token (Comment Rest)
open LoopTemplate.Tree (Form Node)

/-- The rules for all phrases, given those for the phrases inside. -/
def rules (self : Rules) : Rules
  | .assignment, context => parseAssignment self context
  | .operands level, context => parseOperands self context level
  | .operand, context => parseOperand self context
  | .access calls, context => parseAccess self context ⟨calls, true⟩ none
  | .decorator, context => parseAccess self context ⟨true, false⟩ none
  | .pattern, context => parsePattern self context
  | .markup inChild, context => parseMarkup self context inChild
  | .statement nested, context => parseStatement self context nested

/-- The rules for phrases nested at most as deep as given. -/
def grammar : Nat → Rules
  | 0, _, _ => do failAt (← here) .tooDeep
  | depth + 1, phrase, context => rules (grammar depth) phrase context

/-- No text nests deeper than its length allows. -/
def depthBound (source : List Char) : Nat := 4 * source.length + 16

/-- A module that was read: its tree, and its comments by the offset they lead up to. -/
structure Module where
  tree : Node
  comments : List (Nat × List Comment)

/-- The line that names an interpreter, at the very beginning of a text. -/
def splitHashbang (source : List Char) : Option String × Rest :=
  match source with
  | '#' :: '!' :: _ =>
      let (line, rest) := (Rest.ofChars source).takeWhile fun c => !Text.isLineBreak c
      (some (String.ofList (line.drop 2)), rest)
  | _ => (none, Rest.ofChars source)

/-- The fault that decides among all that were met. -/
def firstFault? (cursor : Cursor) : Option Fault :=
  (cursor.scanFaults ++ cursor.noted
    ++ cursor.shorthandValues.map (fun offset => Fault.mk offset .shorthandInitializer)).head?

/-- The fault of a name that is exported again: where it was exported before. The names read so far
come last first. -/
def exportFault? (seen : List (String × Nat)) : List (String × Nat) → Option Fault
  | [] => none
  | (name, offset) :: later =>
      match seen.lookup name with
      | some earlier => some ⟨earlier, .severalExports name⟩
      | none => exportFault? ((name, offset) :: seen) later

/-- The fault of more than one default export. -/
def defaultFault? (cursor : Cursor) : Option Fault :=
  match cursor.defaults with
  | first :: _ :: _ => some ⟨first, .severalDefaults⟩
  | _ => none

/-- Reads a text as a module. -/
def readModule (source : List Char) : Except Fault Module :=
  let (hashbang, rest) := splitHashbang source
  let stop := Text.byteLength source
  match parseStatements (grammar (depthBound source)) .module false (.first rest) with
  | .error failure =>
      .error ((failure.scanFaults ++ failure.noted).head?.getD failure.fatal)
  | .ok (statements, cursor) =>
      let exported := (exportFault? [] cursor.exports).or (defaultFault? cursor)
      match (firstFault? cursor).or exported with
      | some fault => .error fault
      | none => .ok ⟨.mk 0 (.module hashbang stop) statements, cursor.comments⟩

/-- Reads the expression at the beginning of a text, and ignores what follows it. A fault that
stops the reading decides over all others. -/
def readExpression (source : List Char) : Except Fault Node :=
  match parseExpression (grammar (depthBound source)) .module (.first (.ofChars source)) with
  | .error failure => .error failure.fatal
  | .ok (expression, cursor) =>
      match firstFault? cursor with
      | some fault => .error fault
      | none => .ok expression

end LoopTemplate.Grammar
