import Mathlib
import LoopTemplate.Proofs.Parsing.Operands

/-!
# Expressions are regular

What stands in parentheses may be read twice, as an expression and as the parameters of an arrow. A
reading that is given up leaves nothing but the cursor it started from, so both readings ensure what
they would ensure alone.
-/

namespace LoopTemplate.Grammar

open LoopTemplate.Token (worded_scanToken)
open LoopTemplate.Tree (Form Level Node)
open Std.Do

set_option mvcgen.warning false

section Rules

variable {self : Rules} (inside : ∀ phrase context, Ensures (self phrase context) Regular)
  (context : Context)
include inside

/-! ## Operators between operands -/

omit inside in
@[spec]
theorem ensures_widenAngle : Ensures widenAngle fun _ => True := by
  mvcgen [widenAngle]

@[spec]
theorem ensures_parseBinaryStep (level : Level) (start : Nat) (left : Node)
    (regular : Regular left) :
    Ensures (parseBinaryStep self context level start left) (Sum.elim Regular Regular) := by
  mvcgen [parseBinaryStep, inside] with grind

@[spec]
theorem ensures_parseBinaryRest (level : Level) (left : Node) (regular : Regular left) :
    Ensures (parseBinaryRest self context level left) Regular :=
  ensures_repeatStep (ensures_parseBinaryStep inside context level left.start) regular

@[spec]
theorem ensures_parseOperands (level : Level) :
    Ensures (parseOperands self context level) Regular := by
  mvcgen [parseOperands, inside] with grind [regular_markPure]

/-! ## Assignments and conditionals -/

@[spec]
theorem ensures_parseAssignmentRest (left : Node) (regular : Regular left) :
    Ensures (parseAssignmentRest self context left) Regular := by
  mvcgen [parseAssignmentRest, inside] with
    grind [isName_of_reference, regular_bareParameter, bareParameter]

/-! ## Arrows -/

@[spec]
theorem ensures_arrowHead? :
    Ensures (arrowHead? self context) fun found =>
      ∀ node ∈ found, Regular node ∧ node.form = .parameters := by
  have parameters := ensures_attempt (ensures_parseParameters inside context)
  mvcgen [arrowHead?, parameters] with grind

@[spec]
theorem ensures_parseArrowOrExpression : Ensures (parseArrowOrExpression self context) Regular := by
  have parenthesized := ensures_attempt (ensures_parseParenthesized inside context)
  mvcgen [parseArrowOrExpression, parenthesized, inside, -Spec.throw_Except] with
    grind [regular_markPure]

@[spec]
theorem ensures_asyncArrow? :
    Ensures (asyncArrow? self context) fun found => ∀ node ∈ found, Regular node := by
  mvcgen [asyncArrow?, inside] with
    grind [isName_of_worded, worded_scanToken, regular_bareParameter, bareParameter]

/-! ## Expressions without commas -/

@[spec]
theorem ensures_parseYield : Ensures (parseYield self context) Regular := by
  mvcgen [parseYield, inside] with grind

attribute [spec] atYield

@[spec]
theorem ensures_parsePlainAssignment : Ensures (parsePlainAssignment self context) Regular := by
  mvcgen [parsePlainAssignment, inside] with grind

@[spec]
theorem ensures_parseAssignment : Ensures (parseAssignment self context) Regular := by
  mvcgen [parseAssignment, inside] with grind [regular_markEffectFree]

end Rules

end LoopTemplate.Grammar
