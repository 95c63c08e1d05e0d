import LoopTemplate.Loop.Snippet
import LoopTemplate.Proofs.Reading.Name

/-!
# Reading parameters

The text of an arrow with two plain parameters is read as that arrow. Its head may also be read as
a parenthesized expression, so both readings are followed: where the names are variables the second
one succeeds up to the arrow, and where one of them is an operator it fails; the parameters are
read either way.
-/

namespace LoopTemplate.Grammar

open LoopTemplate.Token (Begins Kind begins_mark begins_name begins_stop endsWord_cons)
open LoopTemplate.Tree (Node)

/-- A parameter that is a plain name. -/
def plainParameter (start : Nat) (name : String) : Node :=
  .mk start .parameter [.mk start (.binding name) []]

/-- A plain name before a comma or a closing parenthesis is read as a parameter. -/
theorem run_parseParameter {name : String} {cursor : Cursor} (valid : IsName name)
    (shown : cursor.token.kind = .word name) (ends : Ends cursor.next.token.kind)
    (context : Context) (depth : Nat) :
    ∃ noted, parseParameter (grammar (depth + 1)) context cursor =
        .ok (plainParameter cursor.token.start name, cursor.next.noting noted) ∧
      (noted = [] ↔ cursor.noted = [] ∧ ¬IsOperator context name) := by
  obtain ⟨noted, pattern, clear⟩ := run_pattern context valid shown depth
  have noDefault : cursor.next.token.kind.isMark "=" = false := by
    rcases ends with kind_eq | kind_eq | kind_eq | kind_eq <;> rw [kind_eq] <;> rfl
  have noSpread : cursor.token.kind.isMark "..." = false := by rw [shown]; rfl
  refine ⟨noted, ?_, clear⟩
  simp [parseParameter, noSpread, pattern, noDefault, plainParameter]

/-! ## Two readings of a head -/

/-- Where parameters with an arrow behind them stand, an arrow is read: what stands in the
parentheses is no expression, or it is one that the arrow follows. -/
theorem run_parseArrowOrExpression {self : Rules} {context : Context} {cursor after : Cursor}
    {parameters : Node} (head : parseParameters self context cursor = .ok (parameters, after))
    (arrow : after.token.kind = .mark "=>")
    (other : ∀ node later, parseParenthesized self context cursor = .ok (node, later) →
      later.token.kind = .mark "=>") :
    parseArrowOrExpression self context cursor =
      parseArrowRest self context cursor.token.start false parameters after := by
  have arrowHead : arrowHead? self context cursor = .ok (some parameters, after) := by
    simp [arrowHead?, attempt, head, arrow, Kind.isMark]
  cases read : parseParenthesized self context cursor with
  | error failure => simp [parseArrowOrExpression, attempt, read, arrowHead]
  | ok result =>
      obtain ⟨node, later⟩ := result
      have follows := other node later read
      simp [parseArrowOrExpression, attempt, read, arrowHead, follows, Kind.isMark]

/-- What may be an arrow is read as an arrow or an expression. -/
theorem run_parseAssignment_of_guess {self : Rules} {context : Context} {cursor : Cursor}
    (opens : cursor.Plain (.mark "("))
    (guess : guessArrow cursor.next.token cursor.next.next.token = .possible) :
    parseAssignment self context cursor = parseArrowOrExpression self context cursor := by
  have noYield : cursor.token.kind.isWord "yield" = false := by rw [opens.kind_eq]; rfl
  have isOpen : cursor.token.kind.isMark "(" = true := by rw [opens.kind_eq]; rfl
  cases read : parseArrowOrExpression self context cursor <;>
    simp [parseAssignment, parsePlainAssignment, atYield, noYield, isOpen, guess, read, promised,
      opens.promises]

/-- An expression with no comma behind it is the whole. -/
theorem run_parseExpression {self : Rules} {context : Context} {cursor after : Cursor} {node : Node}
    (read : self .assignment context cursor = .ok (node, after))
    (noComma : after.token.kind.isMark "," = false) :
    parseExpression self context cursor = .ok (node, after) := by
  simp [parseExpression, read, noComma]

/-- An arrow with an empty body. -/
theorem run_parseArrowRest {cursor : Cursor} {chars : List Char}
    (arrow : cursor.At (.mark "=>") (' ' :: '\x7b' :: '\x7d' :: chars)) (self : Rules)
    (context : Context) (start : Nat) (parameters : Node) :
    parseArrowRest self context start false parameters cursor =
      .ok (.mk start (.arrow ⟨false, false, false⟩)
        [parameters, .mk cursor.next.token.start (.body cursor.next.next.token.start) []],
        cursor.next.next.next) := by
  have opens : cursor.next.At (.mark "\x7b") ('\x7d' :: chars) :=
    arrow.next (begins_mark "\x7b" _ (by decide)).space
  have closes := opens.next (begins_mark "\x7d" chars (by decide))
  have empty : parseStatements self
      { context with
        allowAwait := false, allowYield := false, allowIn := true, allowReturn := true }
      true cursor.next.next = .ok ([], cursor.next.next) := by
    refine run_repeatStep_done ?_
    simp [closes.kind_eq, Kind.isMark]
  simp [parseArrowRest, arrow.kind_eq, arrow.afterBreak, opens.kind_eq, closes.kind_eq, Kind.isMark,
    parseBody, empty]

/-! ## Two parameters -/

section Two

variable {item index : String} {cursor : Cursor} {chars : List Char}

/-- The text of two names in parentheses, from the first name on. -/
def twoNames (item index : String) (chars : List Char) : List Char :=
  item.toList ++ ',' :: ' ' :: (index.toList ++ ')' :: chars)

/-- A cursor on an opening parenthesis before two names. -/
structure OpensTwo (cursor : Cursor) (item index : String) (chars : List Char) : Prop where
  opens : cursor.At (.mark "(") (twoNames item index chars)
  item_valid : IsName item
  index_valid : IsName index

namespace OpensTwo

variable (two : OpensTwo cursor item index chars)
include two

theorem first : cursor.next.At (.word item) (',' :: ' ' :: (index.toList ++ ')' :: chars)) :=
  two.opens.next (begins_name item _ two.item_valid.word (endsWord_cons _ (by decide)))

theorem comma : cursor.next.next.At (.mark ",") (' ' :: (index.toList ++ ')' :: chars)) :=
  two.first.next (begins_mark "," _ (by decide))

theorem second : cursor.next.next.next.At (.word index) (')' :: chars) :=
  two.comma.next (begins_name index _ two.index_valid.word (endsWord_cons _ (by decide))).space

theorem closes : cursor.next.next.next.next.At (.mark ")") chars :=
  two.second.next (begins_mark ")" _ (by decide))

/-- The text has no fault up to what follows the closing parenthesis. -/
theorem sound_after (sound : cursor.Sound) {kind : Kind} {rest : List Char}
    (begins : Begins chars kind rest) : cursor.next.next.next.next.next.Sound := by
  have onItem := sound.next two.opens
    (begins_name item _ two.item_valid.word (endsWord_cons _ (by decide)))
  have onComma := onItem.next two.first (begins_mark "," _ (by decide))
  have onIndex := onComma.next two.comma
    (begins_name index _ two.index_valid.word (endsWord_cons _ (by decide))).space
  exact (onIndex.next two.second (begins_mark ")" _ (by decide))).next two.closes begins

/-- Two names are read as parameters. Where they are operators, that is noted. -/
theorem run_parseParameters (context : Context) (depth : Nat) :
    ∃ noted, parseParameters (grammar (depth + 1)) context cursor =
        .ok (.mk cursor.token.start .parameters
          [plainParameter cursor.next.token.start item,
            plainParameter cursor.next.next.next.token.start index],
          cursor.next.next.next.next.next.noting noted) ∧
      (noted = [] ↔
        cursor.noted = [] ∧ ¬IsOperator context item ∧ ¬IsOperator context index) := by
  obtain ⟨noted, first, firstClear⟩ := run_parseParameter two.item_valid two.first.kind_eq
    (.inl two.comma.kind_eq) context depth
  -- Faults noted on the way change no token, which is shown by rewriting and not by computing.
  have divides : (cursor.next.next.noting noted).token.kind = .mark "," := by
    rw [Cursor.token_noting, two.comma.kind_eq]
  have secondShown : (cursor.next.next.next.noting noted).token.kind = .word index := by
    rw [Cursor.token_noting, two.second.kind_eq]
  have secondEnds : Ends (cursor.next.next.next.noting noted).next.token.kind := by
    rw [Cursor.next_noting, Cursor.token_noting, two.closes.kind_eq]
    exact .inr (.inl rfl)
  obtain ⟨later, second, secondClear⟩ :=
    run_parseParameter two.index_valid secondShown secondEnds context depth
  rw [Cursor.next_noting, Cursor.noting_noting, Cursor.token_noting] at second
  have last : Listed ")" (parseParameter (grammar (depth + 1)) context)
      (cursor.next.next.noting noted).next [plainParameter cursor.next.next.next.token.start index]
      (cursor.next.next.next.next.noting later) := by
    rw [Cursor.next_noting]
    exact .last second (by rw [Cursor.token_noting, two.closes.kind_eq])
  have goesOn : (cursor.next.next.noting noted).next.token.kind.isMark ")" = false := by
    rw [Cursor.next_noting, Cursor.token_noting, two.second.kind_eq]; rfl
  have list := (Listed.more first divides goesOn last).run_commaList (by decide)
    (by rw [two.first.kind_eq]; rfl) (by simp)
  refine ⟨later, ?_, ?_⟩
  · simp [Grammar.parseParameters, two.opens.kind_eq, Kind.isMark, list, two.closes.kind_eq]
  · have firstNoted : (cursor.next.next.next.noting noted).noted = [] ↔ _ := firstClear
    rw [secondClear, firstNoted, and_assoc]
    rfl

/-- Two names are read as an expression in parentheses, or not at all. -/
theorem run_parseParenthesized {context : Context} (yields : context.allowYield = false)
    (awaits : context.allowAwait = true) (depth : Nat) {node : Node} {after : Cursor}
    (read : parseParenthesized (grammar (depth + 2)) context cursor = .ok (node, after)) :
    after = cursor.next.next.next.next.next := by
  have begins : (cursor.next.token.kind.isMark ")" || cursor.next.token.kind.isEnd) = false := by
    rw [two.first.kind_eq]; rfl
  have goesOn : cursor.next.next.next.token.kind.isMark ")" = false := by
    rw [two.second.kind_eq]; rfl
  have secondEnds : Ends cursor.next.next.next.next.token.kind := .inr (.inl two.closes.kind_eq)
  have refers : ∀ name, IsName name → name ≠ "await" → Refers context.withIn name :=
    fun name valid other =>
      ⟨valid, fun allowed => absurd (yields.symm.trans allowed) (by decide), fun _ => other⟩
  -- A list that stops for good makes the whole reading stop.
  have readable : ¬ListStops ")" (grammar (depth + 2) .assignment context.withIn) cursor.next := by
    intro stops
    obtain ⟨failure, failed⟩ := stops.run_commaList (by decide) begins
    simp [parseParenthesized, two.opens.kind_eq, Kind.isMark, failed] at read
  have itemOther : item ≠ "await" := by
    intro same
    have shown := two.first.toPlain
    rw [same] at shown
    obtain ⟨failure, failed⟩ :=
      run_parseAssignment_await (show context.withIn.allowAwait = true from awaits) shown
        (.inl two.comma.kind_eq) depth
    exact readable (.here failed)
  have itemRead := run_parseAssignment_reference (grammar (depth + 1))
    (refers item two.item_valid itemOther) two.first.toPlain two.comma.afterBreak
    (.inl two.comma.kind_eq)
  have indexOther : index ≠ "await" := by
    intro same
    have shown := two.second.toPlain
    rw [same] at shown
    obtain ⟨failure, failed⟩ :=
      run_parseAssignment_await (show context.withIn.allowAwait = true from awaits) shown
        secondEnds depth
    exact readable (.later itemRead two.comma.kind_eq goesOn (.here failed))
  have indexRead := run_parseAssignment_reference (grammar (depth + 1))
    (refers index two.index_valid indexOther) two.second.toPlain two.closes.afterBreak secondEnds
  have listed : Listed ")" (grammar (depth + 2) .assignment context.withIn) cursor.next _ _ :=
    .more itemRead two.comma.kind_eq goesOn (.last indexRead two.closes.kind_eq)
  have list := listed.run_commaList (by decide) begins (by simp)
  simp [parseParenthesized, two.opens.kind_eq, Kind.isMark, list, two.closes.kind_eq] at read
  exact read.2.symm

/-- Two names before an arrow with an empty body are read as that arrow, with no fault if neither is
the operator `await`. -/
theorem run_parseExpression (sound : cursor.Sound) (depth : Nat)
    (text : chars = [' ', '=', '>', ' ', '\x7b', '\x7d']) :
    ∃ body after, parseExpression (grammar (depth + 3)) .module cursor =
        .ok (.mk cursor.token.start (.arrow ⟨false, false, false⟩)
          [.mk cursor.token.start .parameters
            [plainParameter cursor.next.token.start item,
              plainParameter cursor.next.next.next.token.start index], body], after) ∧
      (after.Sound ↔ item ≠ "await" ∧ index ≠ "await") := by
  subst text
  have beginsArrow := (begins_mark "=>" [' ', '\x7b', '\x7d'] (by decide)).space
  have beginsBrace := (begins_mark "\x7b" ['\x7d'] (by decide)).space
  have beginsClosing := begins_mark "\x7d" [] (by decide)
  have arrow := two.closes.next beginsArrow
  have brace := arrow.next beginsBrace
  have closing := brace.next beginsClosing
  obtain ⟨noted, head, clear⟩ := two.run_parseParameters .module (depth + 1)
  have arrowNoting := arrow.noting noted
  have guess : guessArrow cursor.next.token cursor.next.next.token = .possible := by
    simp [guessArrow, two.first.kind_eq, two.comma.kind_eq, two.item_valid.mayBind, Kind.isMark]
  have read :=
    run_parseArrowOrExpression head arrowNoting.kind_eq fun node later parenthesized => by
    rw [two.run_parseParenthesized rfl rfl depth parenthesized]
    exact arrow.kind_eq
  rw [run_parseArrowRest arrowNoting, Cursor.next_noting, Cursor.next_noting, Cursor.next_noting]
    at read
  refine ⟨_, _, Grammar.run_parseExpression
    ((run_parseAssignment_of_guess two.opens.toPlain guess).trans read) ?_, ?_⟩
  · rw [Cursor.token_noting, (closing.next begins_stop).kind_eq]
    rfl
  · have onClosing := ((two.sound_after sound beginsArrow).next arrow beginsBrace).next brace
      beginsClosing
    rw [(onClosing.next closing begins_stop).noting_iff, clear]
    simp [IsOperator, Context.module, (Cursor.sound_iff.1 sound).2.1]

end OpensTwo

end Two

end LoopTemplate.Grammar
