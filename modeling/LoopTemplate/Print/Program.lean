import LoopTemplate.Grammar.Program
import LoopTemplate.Print.Expression
import LoopTemplate.Print.Markup
import LoopTemplate.Print.Module

/-!
# Printing programs

Every node is turned into a piece, from the leaves up. A whole program is then printed by the
printer of its root.
-/

namespace LoopTemplate.Print

open LoopTemplate.Tree (Form Node)

/-- The printer of a form. -/
def printForm (start : Nat) (form : Form) (parts : List Piece) : Surroundings → Printer :=
  ((printStatement? start form parts)
    |>.or (printPattern? form parts)
    |>.or (printFunction? start form parts)
    |>.or (printMarkup? form parts)
    |>.or (printOperand? start form parts)
    |>.or (printOperation? form parts)
    |>.or (printModule? start form parts)).getD fun _ => return ()

mutual

/-- The piece of a node. -/
def piece : Node → Piece
  | .mk start form parts =>
      let pieces := piecesOf parts
      .mk start form pieces (printForm start form pieces)

/-- The pieces of nodes. -/
def piecesOf : List Node → List Piece
  | [] => []
  | node :: nodes => piece node :: piecesOf nodes

end

/-- Prints a module with its comments. -/
def printModule (minify : Bool) (module : Grammar.Module) : String :=
  let output := Output.empty minify module.comments
  (((piece module.tree).printFree).run output).2.text

/-- Prints an expression on its own. -/
def printExpression (minify : Bool) (expression : Node) : String :=
  (((piece expression).printFree).run (Output.empty minify [])).2.text

end LoopTemplate.Print
