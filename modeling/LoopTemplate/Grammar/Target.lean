import LoopTemplate.Grammar.Cursor

/-!
# Targets of assignments

What stands left of `=` is read as an expression first. `toTarget` turns it into the place or
pattern it means there, and stops at what names no place.
-/

namespace LoopTemplate.Grammar

open LoopTemplate.Tree (Form Node)

/-- Where inside a pattern an expression stands. -/
inductive TargetSlot where
  /-- Left of `=`, or behind `...`. -/
  | whole
  /-- Where a default value may follow. -/
  | element
  /-- Between the braces of an object. -/
  | property
deriving DecidableEq

/-- Forgets a shorthand property with a value, since it turned out to stand in a pattern. -/
def settleShorthand (offset : Nat) : Parser Unit :=
  modify fun cursor =>
    { cursor with shorthandValues := cursor.shorthandValues.filter (· != offset) }

/-- Whether a node is an array or an object. -/
def isCollectionLiteral (node : Node) : Bool :=
  match node.form with
  | .array | .object => true
  | _ => false

/-- Whether a node is a spread. -/
def isSpread (node : Node) : Bool :=
  match node.form with
  | .spread => true
  | _ => false

mutual

/-- The place or pattern that an expression means left of `=`. -/
def toTarget (slot : TargetSlot) : Node → Parser Node
  | .mk start (.reference name) parts => return .mk start (.reference name) parts
  | .mk start (.member property false) parts => return .mk start (.member property false) parts
  | .mk start (.privateMember property false) parts =>
      return .mk start (.privateMember property false) parts
  | .mk start (.index false) parts => return .mk start (.index false) parts
  | .mk start .parenthesized [inner] =>
      if isCollectionLiteral inner then failAt start .invalidAssignment
      else toTarget .whole inner
  | .mk start .array elements =>
      return .mk start (.arrayPattern .assigning) (← toTargets .element elements)
  | .mk start .object properties =>
      return .mk start (.objectPattern .assigning) (← toTargets .property properties)
  | .mk start .hole parts => return .mk start .hole parts
  | .mk start .spread [inner] =>
      return .mk start .patternRest [← toTarget .whole inner]
  | .mk start (.assign operator) [target, value] =>
      if slot == .element && operator == "=" then
        return .mk start .patternDefault [target, value]
      else failAt start .invalidAssignment
  | .mk start (.property .plain false computed true) [key, value] => do
      settleShorthand start
      return .mk start (.patternProperty .assigning computed true) [key, value]
  | .mk start (.property _ _ computed _) [key, value] => do
      let target ← toTarget .element value
      return .mk start (.patternProperty .assigning computed false) [key, target]
  | .mk start _ _ => failAt start .invalidAssignment

/-- The targets that a list of elements or properties means. A spread ends the list. -/
def toTargets (slot : TargetSlot) : List Node → Parser (List Node)
  | [] => return []
  | node :: nodes => do
      if isSpread node && !nodes.isEmpty then failAt node.start .spreadNotLast
      let target ← toTarget slot node
      return target :: (← toTargets slot nodes)

end

/-- The variable or property that an expression names, where no pattern may stand. -/
def toPlace : Node → Parser Node
  | .mk start (.reference name) parts => return .mk start (.reference name) parts
  | .mk start (.member property false) parts => return .mk start (.member property false) parts
  | .mk start (.privateMember property false) parts =>
      return .mk start (.privateMember property false) parts
  | .mk start (.index false) parts => return .mk start (.index false) parts
  | .mk start .parenthesized [inner] =>
      if isCollectionLiteral inner then failAt start .invalidAssignment
      else toPlace inner
  | .mk start _ _ => failAt start .invalidAssignment

end LoopTemplate.Grammar
