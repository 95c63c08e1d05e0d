import Mathlib
import LoopTemplate.Proofs.Parsing.Regular

/-!
# What readers yield

A reader that starts on a token with the characters of a word, if it is one, ends on such a token.
`Ensures` adds what holds of its result. A reader built from others inherits what they promise,
and a loop of readers keeps what each step keeps.
-/

namespace LoopTemplate.Grammar

open LoopTemplate.Token (worded_scanChild worded_scanMarkupValue worded_scanToken)
open LoopTemplate.Tree (Node)
open Std.Do

set_option mvcgen.warning false

/-- Whether the current token has the characters of a word if it is one. -/
def Cursor.Worded (cursor : Cursor) : Prop := cursor.token.kind.Worded

/-- A reader whose results are of the given kind. -/
abbrev Ensures {α : Type} (reader : Parser α) (Holds : α → Prop) : Prop :=
  ⦃fun cursor => ⌜cursor.Worded⌝⦄ reader
    ⦃post⟨fun value after => ⌜after.Worded ∧ Holds value⌝, fun _ => ⌜True⌝⟩⦄

/-- What a reader ensures, as a statement about its runs. -/
theorem ensures_iff {α : Type} {reader : Parser α} {Holds : α → Prop} :
    Ensures reader Holds ↔ ∀ cursor, cursor.Worded → ∀ value after,
      reader cursor = .ok (value, after) → after.Worded ∧ Holds value := by
  have outcome : ∀ cursor,
      (wp⟦reader⟧ (fun value after => ⌜after.Worded ∧ Holds value⌝, fun _ => ⌜True⌝, ⟨⟩)
          cursor).down ↔
        ∀ value after, reader cursor = .ok (value, after) → after.Worded ∧ Holds value := by
    intro cursor
    simp only [WP.wp, PredTrans.pushArg, StateT.run, PredTrans.apply]
    cases reader cursor with
    | ok result =>
        constructor
        · intro holds value after done
          cases done
          exact holds
        · intro holds
          exact holds result.1 result.2 rfl
    | error failure =>
        constructor
        · intro _ value after done
          cases done
        · intro _
          trivial
  constructor
  · intro ensured cursor worded
    exact (outcome cursor).1 (ensured cursor worded)
  · intro ensured cursor worded
    exact (outcome cursor).2 (ensured cursor worded)

-- These leave the cursor where it is, so what they say about it is worth more than a promise.
attribute [spec] current kind here atMark atWord peek peekTwo peekThree stepBound mayEndStatement

/-! ## Failing -/

section Failing

variable {α : Type}

@[spec]
theorem ensures_failAt (offset : Nat) (cause : Cause) :
    Ensures (failAt offset cause : Parser α) fun _ => False := by
  rw [ensures_iff]
  intro cursor worded value after done
  cases done

@[spec]
theorem ensures_unexpected : Ensures (unexpected : Parser α) fun _ => False := by
  mvcgen [unexpected]

@[spec]
theorem ensures_failExpected (wanted : String) :
    Ensures (failExpected wanted : Parser α) fun _ => False := by
  mvcgen [failExpected]

theorem ensures_attempt {reader : Parser α} {Holds : α → Prop} (ensured : Ensures reader Holds) :
    Ensures (attempt reader) fun result => ∀ value, result = .ok value → Holds value := by
  rw [ensures_iff] at ensured ⊢
  intro cursor worded result after done
  unfold attempt at done
  split at done
  case h_1 value _ read =>
    cases done
    obtain ⟨afterWorded, holds⟩ := ensured cursor worded value _ read
    refine ⟨afterWorded, fun other same => ?_⟩
    cases same
    exact holds
  case h_2 =>
    cases done
    exact ⟨worded, by simp⟩

end Failing

@[spec]
theorem ensures_note (offset : Nat) (cause : Cause) :
    Ensures (note offset cause) fun _ => True := by
  mvcgen [note]

/-! ## Moving -/

@[spec]
theorem ensures_advance : Ensures advance fun _ => True := by
  mvcgen [advance]
  exact worded_scanToken _ _ _

@[spec]
theorem ensures_advanceInChild : Ensures advanceInChild fun _ => True := by
  mvcgen [advanceInChild]
  exact worded_scanChild _

@[spec]
theorem ensures_advanceToValue : Ensures advanceToValue fun _ => True := by
  mvcgen [advanceToValue]
  exact worded_scanMarkupValue _ _

section Marks

variable (text : String)

@[spec]
theorem ensures_eatMark : Ensures (eatMark text) fun _ => True := by
  mvcgen [eatMark]

@[spec]
theorem ensures_eatWord : Ensures (eatWord text) fun _ => True := by
  mvcgen [eatWord]

@[spec]
theorem ensures_expectMark : Ensures (expectMark text) fun _ => True := by
  mvcgen [expectMark] with grind

@[spec]
theorem ensures_expectWord : Ensures (expectWord text) fun _ => True := by
  mvcgen [expectWord] with grind

@[spec]
theorem ensures_expectMarkBeforeChild : Ensures (expectMarkBeforeChild text) fun _ => True := by
  mvcgen [expectMarkBeforeChild] with grind

@[spec]
theorem ensures_expectMarkupEnd (inChild : Bool) :
    Ensures (expectMarkupEnd inChild text) fun _ => True := by
  mvcgen [expectMarkupEnd]

@[spec]
theorem ensures_endStatement : Ensures endStatement fun _ => True := by
  mvcgen [endStatement] with grind

end Marks

/-! ## Repeating -/

section Loops

variable {σ β : Type} {Invariant : σ → Prop} {Holds : β → Prop} {step : σ → Parser (σ ⊕ β)}
  (steps : ∀ state, Invariant state → Ensures (step state) (Sum.elim Invariant Holds))
include steps

theorem ensures_loop (bound : Nat) (state : σ) (initial : Invariant state) :
    Ensures (loop step bound state) Holds := by
  induction bound generalizing state with
  | zero =>
      mvcgen [loop]
      grind
  | succ bound ih => mvcgen [loop, steps, ih] with grind

/-- A loop keeps what each of its steps keeps. -/
theorem ensures_repeatStep {state : σ} (initial : Invariant state) :
    Ensures (repeatStep state step) Holds := by
  have runs := ensures_loop steps
  mvcgen [repeatStep, runs]

end Loops

theorem ensures_repeatStep_any {σ β : Type} {step : σ → Parser (σ ⊕ β)} {state : σ}
    (steps : ∀ state, Ensures (step state) fun _ => True) :
    Ensures (repeatStep state step) fun _ => True := by
  refine ensures_repeatStep (fun (state : σ) (_ : True) => ?_) trivial
  mvcgen [steps] with grind

@[spec]
theorem ensures_collect {step : Parser (Option Node)}
    (ensured : Ensures step fun found => ∀ node ∈ found, Regular node) :
    Ensures (collect step) AllRegular := by
  refine ensures_repeatStep (fun found regular => ?_) allRegular_nil
  mvcgen [ensured] with grind

@[spec]
theorem ensures_commaList {closing : String} {element : Parser Node}
    (ensured : Ensures element Regular) :
    Ensures (commaList closing element) fun found => AllRegular found.1 := by
  -- What was found behind the first element is kept the last first, as in any other loop.
  have rest : ∀ (head : Node) (step : List Node → Parser (List Node ⊕ List Node × Option Nat)),
      Regular head →
        (∀ found, AllRegular found →
          Ensures (step found) (Sum.elim AllRegular fun found => AllRegular found.1)) →
        Ensures (repeatStep [head] step) fun found => AllRegular found.1 :=
    fun head step regular steps => ensures_repeatStep steps (by simpa using regular)
  mvcgen [commaList, ensured, rest] with grind

end LoopTemplate.Grammar
