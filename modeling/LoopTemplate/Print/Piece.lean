import LoopTemplate.Print.Quoted
import LoopTemplate.Tree.Node

/-!
# Printable pieces

A piece is a node together with the printer of that node. Its parts are pieces too, so that a form
can print its parts in ways of its own.
-/

namespace LoopTemplate.Print

open LoopTemplate.Tree (Form Level)

/-- What is around an expression. -/
structure Surroundings where
  /-- How tightly the surroundings bind: an expression of this level or a looser one needs
  parentheses. -/
  level : Level
  /-- The operator `in` would be taken for part of a loop. -/
  forbidIn : Bool
  /-- A call would be taken for part of a `new`. -/
  forbidCall : Bool
deriving DecidableEq

namespace Surroundings

/-- Surroundings that ask for nothing but a level. -/
def ofLevel (level : Level) : Surroundings := ⟨level, false, false⟩

/-- Surroundings that ask for nothing. -/
def free : Surroundings := .ofLevel Level.lowest

/-- The same with another level. -/
def withLevel (surroundings : Surroundings) (level : Level) : Surroundings :=
  { surroundings with level }

/-- The same where a call is welcome. -/
def withCall (surroundings : Surroundings) : Surroundings :=
  { surroundings with forbidCall := false }

end Surroundings

/-- A node with its printer. -/
inductive Piece where
  | mk (start : Nat) (form : Form) (parts : List Piece) (print : Surroundings → Printer)

namespace Piece

/-- Byte offset at which the node starts. -/
def start : Piece → Nat
  | mk start _ _ _ => start

/-- What piece of a program the node is. -/
def form : Piece → Form
  | mk _ form _ _ => form

/-- What the node is made of. -/
def parts : Piece → List Piece
  | mk _ _ parts _ => parts

/-- The printer of the node. -/
def print : Piece → Surroundings → Printer
  | mk _ _ _ print => print

/-- A part that is missing. -/
def none : Piece := mk 0 .absent [] fun _ => return ()

/-- Whether the piece stands for a missing part. -/
def isAbsent (piece : Piece) : Bool :=
  match piece.form with
  | .absent => true
  | _ => false

/-- The part at a position, or `none`. -/
def part (piece : Piece) (index : Nat) : Piece := piece.parts.getD index none

/-- The piece inside any number of parentheses. -/
def withoutParentheses : Piece → Piece
  | mk _ .parenthesized [inner] _ => inner.withoutParentheses
  | piece => piece

/-- Prints the node where a comma would end it, in the given surroundings. -/
def printValue (piece : Piece) (surroundings : Surroundings) : Printer :=
  piece.print (surroundings.withLevel Level.comma)

/-- Prints the node where nothing is asked of it. -/
def printFree (piece : Piece) : Printer := piece.print .free

/-- Prints the node where a comma would end it. -/
def printElement (piece : Piece) : Printer := piece.print (.ofLevel Level.comma)

end Piece

end LoopTemplate.Print
