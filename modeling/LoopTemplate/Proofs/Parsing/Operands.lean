import Mathlib
import LoopTemplate.Proofs.Parsing.Functions

/-!
# Operands are regular

Literals, markup, and expressions with accesses and calls behind them. The name of a tag is the one
token that is not kept as it was read: dashes join it to the words behind it. It is passed at once,
so no reader of variables ever stands on it.
-/

namespace LoopTemplate.Grammar

open LoopTemplate.Loop (isOpening)
open LoopTemplate.Token (worded_readTemplatePiece worded_scanToken)
open LoopTemplate.Tree (Form Node)
open Std.Do

set_option mvcgen.warning false

/-! ## Targets of assignments -/

@[spec]
theorem ensures_settleShorthand (offset : Nat) :
    Ensures (settleShorthand offset) fun _ => True := by
  mvcgen [settleShorthand]

/-- What expressions mean left of `=` is regular as well. -/
theorem ensures_targets :
    (∀ slot node, Regular node → Ensures (toTarget slot node) Regular) ∧
      ∀ slot nodes, AllRegular nodes → Ensures (toTargets slot nodes) AllRegular := by
  apply toTarget.mutual_induct
    (fun slot node => Regular node → Ensures (toTarget slot node) Regular)
    fun slot nodes => AllRegular nodes → Ensures (toTargets slot nodes) AllRegular
  case case6 =>
    intro slot start inner notLiteral ih regular
    mvcgen [toTarget, ih] with grind
  case case10 =>
    intro slot start inner ih regular
    mvcgen [toTarget, ih] with grind
  case case7 | case8 =>
    intro slot start parts ih regular
    mvcgen [toTarget, ih] with grind
  case case14 =>
    intro slot start kind method computed shorthand key value other ih regular
    rw [toTarget]
    · mvcgen [ih] with grind
    · exact other
  case case15 =>
    intros
    rw [toTarget]
    · mvcgen with grind
    all_goals assumption
  case case17 | case18 =>
    intro slot node nodes spread headIh tailIh regular
    mvcgen [toTargets, headIh, tailIh] with grind
  all_goals
    intros
    mvcgen [toTarget, toTargets, *] with grind

@[spec]
theorem ensures_toTarget (slot : TargetSlot) (node : Node) (regular : Regular node) :
    Ensures (toTarget slot node) Regular :=
  ensures_targets.1 slot node regular

@[spec]
theorem ensures_toPlace (node : Node) (regular : Regular node) :
    Ensures (toPlace node) Regular := by
  fun_induction toPlace node with
  | case6 start inner notLiteral ih => exact ih (by simpa using regular)
  | case1 | case2 | case3 | case4 | case5 | case7 => mvcgen with grind

section Rules

variable {self : Rules} (inside : ∀ phrase context, Ensures (self phrase context) Regular)
  (context : Context)
include inside

/-! ## Arrays and objects -/

@[spec]
theorem ensures_parseSpread : Ensures (parseSpread self context) Regular := by
  mvcgen [parseSpread, inside] with grind

@[spec]
theorem ensures_parseArray : Ensures (parseArray self context) Regular := by
  mvcgen [parseArray, inside] with grind

@[spec]
theorem ensures_parseShorthand (start : Nat) (key : Node) (name : String) (regular : Regular key)
    (valid : IsName name) : Ensures (parseShorthand self context start key name) Regular := by
  mvcgen [parseShorthand, inside] with grind [Cursor.Worded]

@[spec]
theorem ensures_parseProperty : Ensures (parseProperty self context) Regular := by
  mvcgen [parseProperty, inside] with grind [isName_of_mayBind, mayBind_of_mayRefer]

@[spec]
theorem ensures_parseObject : Ensures (parseObject self context) Regular := by
  mvcgen [parseObject, inside] with grind

/-! ## Templates and regular expressions -/

omit inside in
@[spec]
theorem ensures_passTemplatePiece (tagged : Bool) :
    Ensures (passTemplatePiece tagged) fun _ => True := by
  mvcgen [passTemplatePiece] with grind

omit inside in
@[spec]
theorem ensures_resumeTemplate (tagged : Bool) :
    Ensures (resumeTemplate tagged) fun _ => True := by
  mvcgen [resumeTemplate]
  exact worded_readTemplatePiece _ _

@[spec]
theorem ensures_parseTemplateRest (tagged : Bool) :
    Ensures (parseTemplateRest self context tagged) fun found => AllRegular found.2 := by
  refine ensures_repeatStep
    (fun (state : List String × List Node) (regular : AllRegular state.2) => ?_) allRegular_nil
  mvcgen [inside] with grind

@[spec]
theorem ensures_parseTemplate (tagged : Bool) :
    Ensures (parseTemplate self context tagged) Regular := by
  mvcgen [parseTemplate, inside] with grind

omit inside in
@[spec]
theorem ensures_parseRegex : Ensures parseRegex Regular := by
  mvcgen [parseRegex] with grind

/-! ## Markup -/

omit inside in
/-- The name of a tag may have dashes, but it is passed at once. -/
@[spec]
theorem ensures_parseTagWord : Ensures parseTagWord fun _ => True := by
  mvcgen [parseTagWord, advance] with grind [worded_scanToken, Cursor.Worded, Cursor.move]

omit inside in
@[spec]
theorem ensures_parseTagName : Ensures parseTagName fun _ => True := by
  mvcgen [parseTagName, ensures_repeatStep_any] with grind

omit inside in
@[spec]
theorem ensures_parseAttributeName : Ensures parseAttributeName fun _ => True := by
  mvcgen [parseAttributeName] with grind

@[spec]
theorem ensures_parseAttributeValue : Ensures (parseAttributeValue self context) Regular := by
  mvcgen [parseAttributeValue, inside] with grind

@[spec]
theorem ensures_parseAttribute : Ensures (parseAttribute self context) Regular := by
  mvcgen [parseAttribute, inside] with grind

@[spec]
theorem ensures_parseAttributes : Ensures (parseAttributes self context) AllRegular := by
  mvcgen [parseAttributes, inside] with grind

@[spec]
theorem ensures_parseChildContainer : Ensures (parseChildContainer self context) Regular := by
  mvcgen [parseChildContainer, inside] with grind

@[spec]
theorem ensures_parseChild :
    Ensures (parseChild self context) fun found => ∀ node ∈ found, Regular node := by
  mvcgen [parseChild, inside] with grind

@[spec]
theorem ensures_parseChildren : Ensures (parseChildren self context) AllRegular := by
  mvcgen [parseChildren, inside]

omit inside in
@[spec]
theorem ensures_parseClosing (inChild : Bool) : Ensures (parseClosing inChild) fun _ => True := by
  mvcgen [parseClosing] with grind

@[spec]
theorem ensures_parseFragment (start : Nat) (inChild : Bool) :
    Ensures (parseFragment self context start inChild) Regular := by
  mvcgen [parseFragment, inside] with grind

@[spec]
theorem ensures_parseElement (start : Nat) (inChild : Bool) :
    Ensures (parseElement self context start inChild) Regular := by
  mvcgen [parseElement, inside] with grind [isOpening]

@[spec]
theorem ensures_parseMarkup (inChild : Bool) :
    Ensures (parseMarkup self context inChild) Regular := by
  mvcgen [parseMarkup, inside] with grind

/-! ## Primary expressions -/

@[spec]
theorem ensures_parseParenthesized : Ensures (parseParenthesized self context) Regular := by
  mvcgen [parseParenthesized, inside] with grind [regular_markWrapped]

@[spec]
theorem ensures_parseImportCall (start : Nat) (phase : Option String) :
    Ensures (parseImportCall self context start phase) Regular := by
  mvcgen [parseImportCall, inside] with grind

@[spec]
theorem ensures_parseImportExpression : Ensures (parseImportExpression self context) Regular := by
  mvcgen [parseImportExpression, inside] with grind

omit inside in
/-- A word that is a literal or keyword has no parts. -/
theorem admits_of_wordForm? {text : String} {form : Form} (found : wordForm? text = some form) :
    Admits form [] := by
  unfold wordForm? at found
  split at found <;> cases found <;> trivial

@[spec]
theorem ensures_parsePrimary : Ensures (parsePrimary self context) Regular := by
  mvcgen [parsePrimary, inside] with grind [→ admits_of_wordForm?]

/-! ## Accesses and calls -/

@[spec]
theorem ensures_parseArguments :
    Ensures (parseArguments self context) fun found => AllRegular found.1 := by
  mvcgen [parseArguments, inside] with grind

section Access

variable {object : Node} (regular : Regular object)
include regular

omit inside in
@[spec]
theorem ensures_parseNamedAccess (start : Nat) (optional : Bool) :
    Ensures (parseNamedAccess start object optional) Regular := by
  mvcgen [parseNamedAccess] with grind

@[spec]
theorem ensures_parseKeyedAccess (start : Nat) (optional : Bool) :
    Ensures (parseKeyedAccess self context start object optional) Regular := by
  mvcgen [parseKeyedAccess, inside] with grind

@[spec]
theorem ensures_parseCall (start : Nat) (optional : Bool) :
    Ensures (parseCall self context start object optional) Regular := by
  mvcgen [parseCall, inside] with grind

@[spec]
theorem ensures_parseAccessStep (mode : AccessMode) (start : Nat) (optional : Bool) :
    Ensures (parseAccessStep self context mode start (object, optional))
      (Sum.elim (fun chain => Regular chain.1) fun chain => Regular chain.1) := by
  mvcgen [parseAccessStep, inside] with grind

end Access

@[spec]
theorem ensures_parseConstruct : Ensures (parseConstruct self context) Regular := by
  mvcgen [parseConstruct, inside] with grind

@[spec]
theorem ensures_parseAccess (mode : AccessMode) (read : Option Node)
    (regular : ∀ node ∈ read, Regular node) :
    Ensures (parseAccess self context mode read) Regular := by
  have chain : ∀ (head : Node) (start : Nat), Regular head →
      Ensures (repeatStep (head, false) (parseAccessStep self context mode start))
        fun found => Regular found.1 := by
    intro head start headRegular
    refine ensures_repeatStep (fun (state : AccessChain) (stateRegular : Regular state.1) => ?_)
      headRegular
    exact ensures_parseAccessStep inside context stateRegular mode start state.2
  mvcgen [parseAccess, chain, inside] with grind

/-! ## Operators before and after an operand -/

attribute [spec] continuesOnLine atAwait

@[spec]
theorem ensures_parsePostfix (read : Option Node) (regular : ∀ node ∈ read, Regular node) :
    Ensures (parsePostfix self context read) Regular := by
  mvcgen [parsePostfix, inside] with grind

@[spec]
theorem ensures_parseOperand : Ensures (parseOperand self context) Regular := by
  mvcgen [parseOperand, inside] with grind

end Rules

end LoopTemplate.Grammar
