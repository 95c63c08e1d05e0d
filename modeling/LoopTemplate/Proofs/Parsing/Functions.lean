import Mathlib
import LoopTemplate.Proofs.Parsing.Readers

/-!
# Names, patterns and functions are regular

A word that is declared or looked up has the characters of a word, since it was a token, and is no
keyword, since that was asked before. The readers of patterns, functions and classes put such names
together with what the rules for the phrases inside them ensure.
-/

namespace LoopTemplate.Grammar

open LoopTemplate.Loop (isOptionalName)
open LoopTemplate.Token (Kind)
open LoopTemplate.Tree (Form Node)
open Std.Do

set_option mvcgen.warning false

/-! ## Names -/

/-- A word that may be declared is a name if it has the characters of one. -/
theorem isName_of_worded {kind : Kind} {text : String} (worded : kind.Worded)
    (word : kind = .word text) (free : mayBind text = true) : IsName text := by
  rw [word] at worded
  exact ⟨worded, by simpa [mayBind] using free⟩

theorem isName_of_mayBind {cursor : Cursor} {text : String} (worded : cursor.Worded)
    (word : cursor.token.kind = .word text) (free : mayBind text = true) : IsName text :=
  isName_of_worded worded word free

theorem mayBind_of_mayRefer {context : Context} {text : String}
    (free : mayRefer context text = true) : mayBind text = true := by
  simp_all [mayRefer, mayBind]

attribute [spec] atBinding

@[spec]
theorem ensures_noteReserved (context : Context) (text : String) :
    Ensures (noteReserved context text) fun _ => True := by
  mvcgen [noteReserved] with grind

@[spec]
theorem ensures_parseReference (context : Context) :
    Ensures (parseReference context) Regular := by
  mvcgen [parseReference] with grind [isName_of_mayBind, mayBind_of_mayRefer]

@[spec]
theorem ensures_parseBinding (context : Context) :
    Ensures (parseBinding context) fun node => Regular node ∧ isOptionalName node = true := by
  mvcgen [parseBinding] with grind [isName_of_mayBind, isOptionalName]

@[spec]
theorem ensures_parseAnyWord : Ensures parseAnyWord fun _ => True := by
  mvcgen [parseAnyWord] with grind

@[spec]
theorem ensures_eatModifier (text : String) (follows : Token → Bool) :
    Ensures (eatModifier text follows) fun _ => True := by
  mvcgen [eatModifier]

@[spec]
theorem ensures_parseModifiers : Ensures parseModifiers fun _ => True := by
  mvcgen [parseModifiers] with grind

section Rules

variable {self : Rules} (inside : ∀ phrase context, Ensures (self phrase context) Regular)
  (context : Context)
include inside

/-- A key that is a word is spelled like its token. -/
theorem parseKey_spells (kind : Kind) :
    ⦃fun cursor => ⌜cursor.Worded ∧ cursor.token.kind = kind⌝⦄ parseKey self context
    ⦃post⟨fun key after => ⌜after.Worded ∧ Regular key.1 ∧
      ∀ text, kind = .word text → key.1.form = .word text⌝, fun _ => ⌜True⌝⟩⦄ := by
  mvcgen [parseKey, parseAnyWord, inside] with grind

/-! ## Patterns -/

@[spec]
theorem ensures_parsePatternElement : Ensures (parsePatternElement self context) Regular := by
  mvcgen [parsePatternElement, inside] with grind

@[spec]
theorem ensures_parsePatternRest (closing : String) :
    Ensures (parsePatternRest self context closing) Regular := by
  mvcgen [parsePatternRest, inside] with grind

@[spec]
theorem ensures_parseArrayPattern : Ensures (parseArrayPattern self context) Regular := by
  mvcgen [parseArrayPattern, inside] with grind

@[spec]
theorem ensures_parsePatternProperty : Ensures (parsePatternProperty self context) Regular := by
  mvcgen [parsePatternProperty, parseKey_spells, inside] with grind [isName_of_mayBind]

@[spec]
theorem ensures_parseObjectPattern : Ensures (parseObjectPattern self context) Regular := by
  mvcgen [parseObjectPattern, inside] with grind

theorem ensures_parsePattern : Ensures (parsePattern self context) Regular := by
  mvcgen [parsePattern, inside] with grind

-- Outside patterns it does not matter how a key is spelled.
@[spec]
theorem ensures_parseKey : Ensures (parseKey self context) fun key => Regular key.1 := by
  mvcgen [parseKey, inside] with grind

/-! ## Functions -/

@[spec]
theorem ensures_parseExpression : Ensures (parseExpression self context) Regular := by
  mvcgen [parseExpression, inside] with grind

@[spec]
theorem ensures_parseParameter : Ensures (parseParameter self context) Regular := by
  mvcgen [parseParameter, inside] with grind

@[spec]
theorem ensures_parseParameters :
    Ensures (parseParameters self context) fun node => Regular node ∧ node.form = .parameters := by
  mvcgen [parseParameters, inside] with grind

@[spec]
theorem ensures_parseStatements (braced : Bool) :
    Ensures (parseStatements self context braced) AllRegular := by
  refine ensures_repeatStep (fun (state : List Node × Bool) (regular : AllRegular state.1) => ?_)
    allRegular_nil
  mvcgen [currentRaw?, inside] with grind [regular_of_directive?]

@[spec]
theorem ensures_parseBody : Ensures (parseBody self context) Regular := by
  mvcgen [parseBody, inside] with grind

@[spec]
theorem ensures_parseFunction (start : Nat) (async expression : Bool) :
    Ensures (parseFunction self context start async expression) Regular := by
  mvcgen [parseFunction, inside] with grind [isOptionalName, Node.none]

@[spec]
theorem ensures_parseMethod (async generator : Bool) :
    Ensures (parseMethod self async generator) Regular := by
  mvcgen [parseMethod, inside] with grind [isOptionalName, Node.none]

attribute [spec] atFunction

@[spec]
theorem ensures_parseArrowRest (start : Nat) (async : Bool) (parameters : Node)
    (regular : Regular parameters) (listed : parameters.form = .parameters) :
    Ensures (parseArrowRest self context start async parameters) Regular := by
  mvcgen [parseArrowRest, inside] with grind

/-! ## Classes -/

@[spec]
theorem ensures_parseDecorators : Ensures (parseDecorators self context) Regular := by
  mvcgen [parseDecorators, inside] with grind

@[spec]
theorem ensures_parseField (start : Nat) (static accessor computed : Bool) (decorators key : Node)
    (decoratorsRegular : Regular decorators) (keyRegular : Regular key) :
    Ensures (parseField self start static accessor computed decorators key) Regular := by
  mvcgen [parseField, inside] with grind

@[spec]
theorem ensures_parseMember : Ensures (parseMember self context) Regular := by
  mvcgen [parseMember, inside] with grind

@[spec]
theorem ensures_parseClass (decorators : Node) (expression : Bool) (regular : Regular decorators) :
    Ensures (parseClass self context decorators expression) Regular := by
  mvcgen [parseClass, inside] with grind

end Rules

end LoopTemplate.Grammar
