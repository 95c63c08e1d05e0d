import Mathlib
import LoopTemplate.Proofs.Parsing.Expressions

/-!
# Statements and modules are regular

Statements, imports and exports, and with them the rules for all phrases. The rules for phrases of a
given depth use those of one depth less, so what a phrase ensures follows by induction on the depth.
A tree that is read from a text is therefore regular, whatever the text is.
-/

namespace LoopTemplate.Grammar

open LoopTemplate.Tree (Form Node VariableKind)
open Std.Do

set_option mvcgen.warning false

section Rules

variable {self : Rules} (inside : ∀ phrase context, Ensures (self phrase context) Regular)
  (context : Context)
include inside

/-! ## Declarations -/

@[spec]
theorem ensures_parseFunctionStatement (nested : Bool) :
    Ensures (parseFunctionStatement self context nested) Regular := by
  mvcgen [parseFunctionStatement, inside] with grind

@[spec]
theorem ensures_parseClassStatement (decorators : Node) (nested : Bool)
    (regular : Regular decorators) :
    Ensures (parseClassStatement self context decorators nested) Regular := by
  mvcgen [parseClassStatement, inside] with grind

@[spec]
theorem ensures_parseDeclarator (kind : VariableKind) (inHead : Bool) :
    Ensures (parseDeclarator self context kind inHead) Regular := by
  mvcgen [parseDeclarator, inside] with grind

@[spec]
theorem ensures_parseVariables (kind : VariableKind) (inHead : Bool) :
    Ensures (parseVariables self context kind inHead) Regular := by
  mvcgen [parseVariables, inside] with grind

@[spec]
theorem ensures_parseVariableStatement (kind : VariableKind) (nested : Bool) :
    Ensures (parseVariableStatement self context kind nested) Regular := by
  mvcgen [parseVariableStatement, inside] with grind

omit inside in
@[spec]
theorem ensures_resourceKind? (inHead : Bool) : Ensures (resourceKind? inHead) fun _ => True := by
  mvcgen [resourceKind?]

/-! ## Expressions, labels and blocks -/

@[spec]
theorem ensures_parseExpressionStatement :
    Ensures (parseExpressionStatement self context) Regular := by
  mvcgen [parseExpressionStatement, inside] with grind

@[spec]
theorem ensures_parseBlock : Ensures (parseBlock self context) Regular := by
  mvcgen [parseBlock, inside] with grind

@[spec]
theorem ensures_parseCondition : Ensures (parseCondition self context) Regular := by
  mvcgen [parseCondition, inside] with grind

@[spec]
theorem ensures_parseIf : Ensures (parseIf self context) Regular := by
  mvcgen [parseIf, inside] with grind

/-! ## Loops -/

@[spec]
theorem ensures_parseForRest (start : Nat) (initial : Node) (regular : Regular initial) :
    Ensures (parseForRest self context start initial) Regular := by
  mvcgen [parseForRest, inside] with grind

@[spec]
theorem ensures_parseForInRest (start : Nat) (target : Node) (regular : Regular target) :
    Ensures (parseForInRest self context start target) Regular := by
  mvcgen [parseForInRest, inside] with grind

@[spec]
theorem ensures_parseForOfRest (start : Nat) (await : Bool) (target : Node)
    (regular : Regular target) :
    Ensures (parseForOfRest self context start await target) Regular := by
  mvcgen [parseForOfRest, inside] with grind

omit inside in
@[spec]
theorem ensures_headKind? : Ensures headKind? fun _ => True := by
  mvcgen [headKind?]

@[spec]
theorem ensures_parseFor : Ensures (parseFor self context) Regular := by
  mvcgen [parseFor, inside] with grind

@[spec]
theorem ensures_parseWhile : Ensures (parseWhile self context) Regular := by
  mvcgen [parseWhile, inside] with grind

@[spec]
theorem ensures_parseDoWhile : Ensures (parseDoWhile self context) Regular := by
  mvcgen [parseDoWhile, inside] with grind

/-! ## Jumps -/

@[spec]
theorem ensures_parseReturn : Ensures (parseReturn self context) Regular := by
  mvcgen [parseReturn, inside] with grind

omit inside in
@[spec]
theorem ensures_parseJump (keyword : String) : Ensures (parseJump context keyword) Regular := by
  mvcgen [parseJump] with grind

@[spec]
theorem ensures_parseThrow : Ensures (parseThrow self context) Regular := by
  mvcgen [parseThrow, inside] with grind

/-! ## Other compound statements -/

@[spec]
theorem ensures_parseTry : Ensures (parseTry self context) Regular := by
  mvcgen [parseTry, inside] with grind

@[spec]
theorem ensures_parseCase : Ensures (parseCase self context) Regular := by
  -- Whatever ends the statements of a clause, those before it are regular.
  have step : ∀ ends : Bool, Ensures
      (if ends then pure none else do return some (← self (.statement false) context))
      fun found => ∀ node ∈ found, Regular node := by
    intro ends
    mvcgen [inside] with grind
  mvcgen [parseCase, inside] with first | exact step _ _ ‹_› | grind

@[spec]
theorem ensures_parseSwitch : Ensures (parseSwitch self context) Regular := by
  mvcgen [parseSwitch, inside] with grind

@[spec]
theorem ensures_parseWith : Ensures (parseWith self context) Regular := by
  mvcgen [parseWith, inside] with grind

omit inside in
@[spec]
theorem ensures_parseDebugger : Ensures parseDebugger Regular := by
  mvcgen [parseDebugger] with grind

theorem ensures_keywordStatement? {nested : Bool} {keyword : String} {statement : Parser Node}
    (found : keywordStatement? self context nested keyword = some statement) :
    Ensures statement Regular := by
  unfold keywordStatement? at found
  split at found <;> cases found
  all_goals mvcgen [inside]

@[spec]
theorem ensures_parsePlainStatement (nested : Bool) :
    Ensures (parsePlainStatement self context nested) Regular := by
  mvcgen [parsePlainStatement, inside] with
    first | exact ensures_keywordStatement? inside context ‹_› | grind

/-! ## Imports and exports -/

omit inside in
@[spec]
theorem ensures_parseModuleName : Ensures parseModuleName fun _ => True := by
  mvcgen [parseModuleName]

omit inside in
@[spec]
theorem ensures_parseLocalName : Ensures (parseLocalName context) fun _ => True := by
  mvcgen [parseLocalName] with grind

omit inside in
@[spec]
theorem ensures_parseModuleString : Ensures parseModuleString fun _ => True := by
  mvcgen [parseModuleString] with grind

omit inside in
@[spec]
theorem ensures_bracedList {α : Type} {element : Parser α}
    (ensured : Ensures element fun _ => True) : Ensures (bracedList element) fun _ => True := by
  mvcgen [bracedList, ensures_repeatStep_any, ensured] with grind

omit inside in
@[spec]
theorem ensures_parseModuleSource : Ensures parseModuleSource fun _ => True := by
  mvcgen [parseModuleSource] with grind

omit inside in
@[spec]
theorem ensures_parseImportName : Ensures (parseImportName context) fun _ => True := by
  mvcgen [parseImportName] with grind

omit inside in
@[spec]
theorem ensures_parseImportGroup : Ensures (parseImportGroup context) fun _ => True := by
  mvcgen [parseImportGroup] with grind

omit inside in
@[spec]
theorem ensures_parseImportSpecifiers :
    Ensures (parseImportSpecifiers context) fun _ => True := by
  mvcgen [parseImportSpecifiers] with grind

omit inside in
@[spec]
theorem ensures_parseImportPhase : Ensures parseImportPhase fun _ => True := by
  mvcgen [parseImportPhase]

omit inside in
@[spec]
theorem ensures_parseImport : Ensures (parseImport context) Regular := by
  mvcgen [parseImport] with grind

omit inside in
@[spec]
theorem ensures_recordDefault (offset : Nat) : Ensures (recordDefault offset) fun _ => True := by
  mvcgen [recordDefault]

omit inside in
@[spec]
theorem ensures_recordExports (names : List (String × Nat)) :
    Ensures (recordExports names) fun _ => True := by
  mvcgen [recordExports]

omit inside in
@[spec]
theorem ensures_exportDeclaration (start : Nat) (declaration : Node)
    (regular : Regular declaration) :
    Ensures (exportDeclaration start declaration) Regular := by
  mvcgen [exportDeclaration] with grind

omit inside in
@[spec]
theorem ensures_parseExportName : Ensures parseExportName fun _ => True := by
  mvcgen [parseExportName] with grind

omit inside in
@[spec]
theorem ensures_parseExportNames (start : Nat) : Ensures (parseExportNames start) Regular := by
  mvcgen [parseExportNames] with grind

omit inside in
@[spec]
theorem ensures_parseExportAll (start : Nat) : Ensures (parseExportAll start) Regular := by
  mvcgen [parseExportAll] with grind

@[spec]
theorem ensures_joinDecorators (before : Node) (regular : Regular before) :
    Ensures (joinDecorators self context before) Regular := by
  mvcgen [joinDecorators, inside] with grind [allRegular_parts]

@[spec]
theorem ensures_parseExportDefault (start : Nat) (decorators : Node)
    (regular : Regular decorators) :
    Ensures (parseExportDefault self context start decorators) Regular := by
  mvcgen [parseExportDefault, inside] with grind

omit inside in
@[spec]
theorem ensures_atDeclaration : Ensures atDeclaration fun _ => True := by
  mvcgen [atDeclaration]

@[spec]
theorem ensures_parseExport (start : Nat) (decorators : Node) (regular : Regular decorators) :
    Ensures (parseExport self context start decorators) Regular := by
  mvcgen [parseExport, inside] with grind

/-! ## All statements -/

@[spec]
theorem ensures_parseBareStatement (nested : Bool) :
    Ensures (parseBareStatement self context nested) Regular := by
  mvcgen [parseBareStatement, inside] with grind

@[spec]
theorem ensures_parseStatement (nested : Bool) :
    Ensures (parseStatement self context nested) Regular := by
  mvcgen [parseStatement, inside] with grind [regular_markStatement]

/-- What the rules for the phrases inside a phrase ensure, the rule for the phrase ensures. -/
theorem ensures_rules (phrase : Phrase) : Ensures (rules self phrase context) Regular := by
  cases phrase with
  | assignment => exact ensures_parseAssignment inside context
  | operands level => exact ensures_parseOperands inside context level
  | operand => exact ensures_parseOperand inside context
  | access calls => exact ensures_parseAccess inside context _ none (by simp)
  | decorator => exact ensures_parseAccess inside context _ none (by simp)
  | pattern => exact ensures_parsePattern inside context
  | markup inChild => exact ensures_parseMarkup inside context inChild
  | statement nested => exact ensures_parseStatement inside context nested

end Rules

theorem ensures_grammar (depth : Nat) (phrase : Phrase) (context : Context) :
    Ensures (grammar depth phrase context) Regular := by
  induction depth generalizing phrase context with
  | zero =>
      mvcgen [grammar]
      grind
  | succ depth ih => exact ensures_rules ih context phrase

/-! ## Trees that are read -/

/-- The first token of a text is as good as any other. -/
theorem worded_first (rest : Token.Rest) : (Cursor.first rest).Worded :=
  Token.worded_scanToken _ _ _

theorem regular_of_readExpression {source : List Char} {tree : Node}
    (read : readExpression source = .ok tree) : Regular tree := by
  unfold readExpression at read
  split at read
  case h_1 => cases read
  case h_2 expression cursor done =>
    have reader := ensures_iff.1
      (ensures_parseExpression (ensures_grammar (depthBound source)) .module)
    split at read
    case h_1 => cases read
    case h_2 =>
      cases read
      exact (reader _ (worded_first _) _ _ done).2

theorem regular_of_readModule {source : List Char} {module : Module}
    (read : readModule source = .ok module) : Regular module.tree := by
  unfold readModule at read
  dsimp only at read
  split at read
  case h_1 => cases read
  case h_2 statements cursor done =>
    have reader := ensures_iff.1
      (ensures_parseStatements (ensures_grammar (depthBound source)) .module false)
    split at read
    case h_1 => cases read
    case h_2 =>
      cases read
      simpa using (reader _ (worded_first _) _ _ done).2

end LoopTemplate.Grammar
