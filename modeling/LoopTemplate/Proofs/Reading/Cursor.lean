import LoopTemplate.Grammar.Program
import LoopTemplate.Proofs.Reading.Word

/-!
# Readers on known tokens

What a reader does is decided by the tokens before it. `Cursor.next` is the cursor one token on, and
`Shows` says which tokens a cursor has before it. The lemmas here run the basic readers, so that
a larger one is run by rewriting with the tokens that its cursor shows.
-/

namespace LoopTemplate.Grammar

open LoopTemplate.Token (Begins Kind Rest Scanned scanToken)
open LoopTemplate.Tree (Node)

/-! ## Running readers -/

namespace Parser

@[simp] theorem run_pure {α : Type} (value : α) (cursor : Cursor) :
    (pure value : Parser α) cursor = .ok (value, cursor) := rfl

@[simp] theorem run_bind {α β : Type} (reader : Parser α) (later : α → Parser β) (cursor : Cursor) :
    (reader >>= later) cursor =
      match reader cursor with
      | .ok (value, after) => later value after
      | .error failure => .error failure := by
  change Except.bind (reader cursor) _ = _
  cases reader cursor <;> rfl

@[simp] theorem run_map {α β : Type} (reader : Parser α) (change : α → β) (cursor : Cursor) :
    (change <$> reader) cursor =
      match reader cursor with
      | .ok (value, after) => .ok (change value, after)
      | .error failure => .error failure := by
  change Except.bind (reader cursor) _ = _
  cases reader cursor <;> rfl

/-- Of two readers one after the other, both succeed if the whole does. -/
theorem bind_eq_ok {α β : Type} {reader : Parser α} {later : α → Parser β} {cursor after : Cursor}
    {result : β} (read : (reader >>= later) cursor = .ok (result, after)) :
    ∃ value middle, reader cursor = .ok (value, middle) ∧
      later value middle = .ok (result, after) := by
  rw [run_bind] at read
  cases first : reader cursor with
  | error failure => simp [first] at read
  | ok both =>
      obtain ⟨value, middle⟩ := both
      rw [first] at read
      exact ⟨value, middle, rfl, read⟩

end Parser

namespace Cursor

/-- The cursor one token on. -/
def next (cursor : Cursor) : Cursor :=
  cursor.move (scanToken false cursor.token.kind cursor.rest)

/-- The cursor with other faults noted on the way to it. -/
def noting (cursor : Cursor) (noted : List Fault) : Cursor := { cursor with noted }

@[simp] theorem next_noting (cursor : Cursor) (noted : List Fault) :
    (cursor.noting noted).next = cursor.next.noting noted := rfl

@[simp] theorem token_noting (cursor : Cursor) (noted : List Fault) :
    (cursor.noting noted).token = cursor.token := rfl

@[simp] theorem noting_noting (cursor : Cursor) (noted later : List Fault) :
    (cursor.noting noted).noting later = cursor.noting later := rfl

end Cursor

@[simp] theorem run_get (cursor : Cursor) : (get : Parser Cursor) cursor = .ok (cursor, cursor) :=
  rfl

@[simp] theorem run_set (after cursor : Cursor) :
    (set after : Parser Unit) cursor = .ok ((), after) := rfl

@[simp] theorem run_current (cursor : Cursor) : current cursor = .ok (cursor.token, cursor) := rfl

@[simp] theorem run_kind (cursor : Cursor) : kind cursor = .ok (cursor.token.kind, cursor) := rfl

@[simp] theorem run_here (cursor : Cursor) : here cursor = .ok (cursor.token.start, cursor) := rfl

@[simp] theorem run_advance (cursor : Cursor) : advance cursor = .ok ((), cursor.next) := rfl

@[simp] theorem run_note (offset : Nat) (cause : Cause) (cursor : Cursor) :
    note offset cause cursor =
      .ok ((), { cursor with noted := cursor.noted ++ [⟨offset, cause⟩] }) := rfl

@[simp] theorem run_peek (cursor : Cursor) : peek cursor = .ok (cursor.next.token, cursor) := rfl

@[simp] theorem run_peekTwo (cursor : Cursor) :
    peekTwo cursor = .ok ((cursor.next.token, cursor.next.next.token), cursor) := rfl

@[simp] theorem run_atMark (text : String) (cursor : Cursor) :
    atMark text cursor = .ok (cursor.token.kind.isMark text, cursor) := rfl

@[simp] theorem run_atWord (text : String) (cursor : Cursor) :
    atWord text cursor =
      .ok (cursor.token.kind.isWord text && !cursor.token.escaped, cursor) := rfl

@[simp] theorem run_eatMark (text : String) (cursor : Cursor) :
    eatMark text cursor =
      if cursor.token.kind.isMark text then .ok (true, cursor.next) else .ok (false, cursor) := by
  simp only [eatMark, Parser.run_bind, run_atMark]
  split <;> rfl

@[simp] theorem run_expectMark (text : String) (cursor : Cursor) :
    expectMark text cursor =
      if cursor.token.kind.isMark text then .ok ((), cursor.next)
      else failExpected text cursor := by
  simp only [expectMark, Parser.run_bind, run_atMark]
  split <;> rfl

theorem run_unexpected (α : Type) (cursor : Cursor) :
    ∃ failure, (unexpected : Parser α) cursor = .error failure := by
  simp only [unexpected, Parser.run_bind, run_get]
  cases cursor.token.kind.isEnd <;> cases cursor.scanFaults.getLast? <;> exact ⟨_, rfl⟩

/-! ## Tokens before a cursor -/

/-- The current token is of the given kind, on the same line as the one before it, and no comment
before it promises anything. -/
structure Cursor.Plain (cursor : Cursor) (kind : Kind) : Prop where
  kind_eq : cursor.token.kind = kind
  afterBreak : cursor.token.afterBreak = false
  promises : cursor.token.promises = []

/-- The cursor stands on a plain token with the given text behind it. -/
structure Cursor.At (cursor : Cursor) (kind : Kind) (chars : List Char) : Prop
    extends cursor.Plain kind where
  chars_eq : cursor.rest.chars = chars

/-- No fault was met up to here. -/
def Cursor.Sound (cursor : Cursor) : Prop := firstFault? cursor = none

namespace Cursor

variable {cursor : Cursor} {kind after : Kind} {chars rest : List Char}

/-- A plain token is stood on. -/
theorem at_move (cursor : Cursor) {scanned : Scanned} (plain : scanned.Plain kind chars) :
    (cursor.move scanned).At kind chars :=
  ⟨⟨plain.kind_eq, plain.afterBreak, plain.promises⟩, plain.chars_eq⟩

/-- What stands behind a cursor is scanned as its text is anywhere. -/
theorem At.scanned (stands : cursor.At kind chars) {scan : Rest → Scanned}
    (plain : ∀ offset, (scan ⟨chars, offset⟩).Plain after rest) :
    (scan cursor.rest).Plain after rest := by
  have source : cursor.rest = ⟨chars, cursor.rest.offset⟩ := by rw [← stands.chars_eq]
  rw [source]
  exact plain _

/-- The next token is the one that the text begins with. -/
theorem At.next (stands : cursor.At kind chars) (begins : Begins chars after rest) :
    cursor.next.At after rest :=
  at_move cursor (stands.scanned (begins false cursor.token.kind))

/-- Noted faults change no token. -/
theorem At.noting (stands : cursor.At kind chars) (noted : List Fault) :
    (cursor.noting noted).At kind chars :=
  ⟨⟨stands.kind_eq, stands.afterBreak, stands.promises⟩, stands.chars_eq⟩

theorem sound_iff : cursor.Sound ↔
    cursor.scanFaults = [] ∧ cursor.noted = [] ∧ cursor.shorthandValues = [] := by
  simp [Sound, firstFault?]

theorem Sound.noting_iff (sound : cursor.Sound) {noted : List Fault} :
    (cursor.noting noted).Sound ↔ noted = [] := by
  rw [sound_iff] at sound ⊢
  simp [Cursor.noting, sound.1, sound.2.2]

/-- A plain token has no fault. -/
theorem Sound.move (sound : cursor.Sound) {scanned : Scanned} (plain : scanned.Plain kind chars) :
    (cursor.move scanned).Sound := by
  rw [sound_iff] at sound ⊢
  exact ⟨by simp [Cursor.move, sound.1, plain.faults], sound.2⟩

theorem Sound.next (sound : cursor.Sound) (stands : cursor.At kind chars)
    (begins : Begins chars after rest) : cursor.next.Sound :=
  sound.move (stands.scanned (begins false cursor.token.kind))

/-- The first token of a text. -/
theorem at_first (begins : Begins chars kind rest) : (first (.ofChars chars)).At kind rest :=
  have plain := begins true .stop 0
  ⟨⟨plain.kind_eq, plain.afterBreak, plain.promises⟩, plain.chars_eq⟩

theorem sound_first (begins : Begins chars kind rest) : (first (.ofChars chars)).Sound := by
  have plain := begins true .stop 0
  rw [sound_iff]
  exact ⟨plain.faults, rfl, rfl⟩

end Cursor

/-! ## What readers yield -/

/-- Whatever a reader yields, if it does, is as said. -/
def Yields {α : Type} (reader : Parser α) (Good : α → Prop) : Prop :=
  ∀ cursor value after, reader cursor = .ok (value, after) → Good value

namespace Yields

variable {α β σ : Type} {Good : β → Prop}

theorem pure {value : β} (good : Good value) : Yields (Pure.pure value) Good := by
  intro cursor result after read
  cases read
  exact good

theorem bind {reader : Parser α} {later : α → Parser β}
    (each : ∀ value, Yields (later value) Good) : Yields (reader >>= later) Good := by
  intro cursor result after read
  obtain ⟨value, middle, _, rest⟩ := Parser.bind_eq_ok read
  exact each value _ _ _ rest

theorem ite {condition : Prop} [Decidable condition] {yes no : Parser β}
    (ifSo : condition → Yields yes Good) (ifNot : ¬condition → Yields no Good) :
    Yields (if condition then yes else no) Good := by
  by_cases holds : condition
  · rw [if_pos holds]
    exact ifSo holds
  · rw [if_neg holds]
    exact ifNot holds

/-- What every step of a repetition keeps is true of its result. -/
theorem loop {step : σ → Parser (σ ⊕ β)} (Kept : σ → Prop)
    (steps : ∀ state, Kept state → Yields (step state) (Sum.elim Kept Good))
    {bound : Nat} {state : σ} (kept : Kept state) :
    Yields (Grammar.loop step bound state) Good := by
  intro cursor result after read
  induction bound generalizing state cursor with
  | zero => cases read
  | succ bound ih =>
      obtain ⟨outcome, middle, stepped, rest⟩ := Parser.bind_eq_ok read
      cases outcome with
      | inl next => exact ih (steps state kept _ _ _ stepped) _ rest
      | inr final =>
          cases rest
          exact steps state kept _ _ _ stepped

theorem repeatStep {step : σ → Parser (σ ⊕ β)} (Kept : σ → Prop)
    (steps : ∀ state, Kept state → Yields (step state) (Sum.elim Kept Good))
    {state : σ} (kept : Kept state) : Yields (Grammar.repeatStep state step) Good :=
  bind fun _ => loop Kept steps kept

end Yields

/-! ## Lists with commas -/

/-- Elements with commas between them stand before a closing mark: from one cursor on, the given
nodes are read, up to another cursor. -/
inductive Listed (closing : String) (element : Parser Node) :
    Cursor → List Node → Cursor → Prop where
  | last {cursor after : Cursor} {node : Node} :
      element cursor = .ok (node, after) → after.token.kind = .mark closing →
        Listed closing element cursor [node] after
  | more {cursor comma after : Cursor} {node : Node} {nodes : List Node} :
      element cursor = .ok (node, comma) → comma.token.kind = .mark "," →
        comma.next.token.kind.isMark closing = false →
        Listed closing element comma.next nodes after →
        Listed closing element cursor (node :: nodes) after

/-- The reading of elements with commas between them stops for good at one of them. -/
inductive ListStops (closing : String) (element : Parser Node) : Cursor → Prop where
  | here {cursor : Cursor} {failure : Failure} :
      element cursor = .error failure → ListStops closing element cursor
  | later {cursor comma : Cursor} {node : Node} :
      element cursor = .ok (node, comma) → comma.token.kind = .mark "," →
        comma.next.token.kind.isMark closing = false →
        ListStops closing element comma.next → ListStops closing element cursor

/-- The part of `commaList` that is repeated: an element more, or the end. -/
def commaStep (closing : String) (element : Parser Node) (found : List Node) :
    Parser (List Node ⊕ (List Node × Option Nat)) := do
  let kind ← kind
  if kind.isMark closing || kind.isEnd then return .inr (found.reverse, none)
  let token ← current
  unless token.kind.isMark "," do
    failAt token.start (.expectedSeparator "," closing token.kind.label)
  advance
  if ← atMark closing then return .inr (found.reverse, some token.start)
  return .inl ((← element) :: found)

theorem run_commaList {closing : String} {element : Parser Node} {cursor first : Cursor}
    {node : Node} (begins : (cursor.token.kind.isMark closing || cursor.token.kind.isEnd) = false)
    (read : element cursor = .ok (node, first)) :
    commaList closing element cursor =
      loop (commaStep closing element) (first.rest.chars.length + 2) [node] first := by
  have bound : stepBound first = .ok (first.rest.chars.length + 2, first) := rfl
  simp only [commaList, Parser.run_bind, run_kind, Parser.run_pure, begins, Bool.false_eq_true,
    if_false, read, repeatStep, bound]
  rfl

/-- At the closing mark the list ends. -/
theorem run_commaStep_last {closing : String} {element : Parser Node} {cursor : Cursor}
    (closes : cursor.token.kind = .mark closing) (found : List Node) :
    commaStep closing element found cursor = .ok (.inr (found.reverse, none), cursor) := by
  simp [commaStep, closes, Kind.isMark]

/-- Behind a comma an element more is read. -/
theorem run_commaStep_more {closing : String} {element : Parser Node} {comma : Cursor}
    (other : closing ≠ ",") (divides : comma.token.kind = .mark ",")
    (goesOn : comma.next.token.kind.isMark closing = false) (found : List Node) :
    commaStep closing element found comma =
      match element comma.next with
      | .ok (node, after) => .ok (.inl (node :: found), after)
      | .error failure => .error failure := by
  have open_ : (Kind.mark ",").isMark closing = false := by simpa [Kind.isMark] using other.symm
  have comma_ : (Kind.mark ",").isMark "," = true := rfl
  have inside : (Kind.mark ",").isEnd = false := rfl
  cases read : element comma.next <;>
    simp [commaStep, divides, open_, comma_, inside, goesOn, read]

/-- Listed elements are collected, if the bound lets them be. -/
theorem Listed.run_loop {closing : String} {element : Parser Node} {cursor after : Cursor}
    {nodes : List Node} (listed : Listed closing element cursor nodes after)
    (other : closing ≠ ",") :
    ∃ node first, element cursor = .ok (node, first) ∧
      ∀ found bound, nodes.length ≤ bound →
        loop (commaStep closing element) bound (node :: found) first =
          .ok ((found.reverse ++ nodes, none), after) := by
  induction listed with
  | @last cursor after node read closes =>
      refine ⟨node, after, read, ?_⟩
      intro found bound enough
      cases bound with
      | zero => simp at enough
      | succ bound => simp [loop, run_commaStep_last closes]
  | @more cursor comma after node nodes read divides goesOn later ih =>
      refine ⟨node, comma, read, ?_⟩
      intro found bound enough
      obtain ⟨next, first, nextRead, rest⟩ := ih
      cases bound with
      | zero => simp at enough
      | succ bound =>
          have more := rest (node :: found) bound (by simpa using enough)
          simp [loop, run_commaStep_more other divides goesOn, nextRead, more]

/-- Listed elements are read as a list with commas. -/
theorem Listed.run_commaList {closing : String} {element : Parser Node} {cursor after : Cursor}
    {nodes : List Node} (listed : Listed closing element cursor nodes after)
    (other : closing ≠ ",")
    (begins : (cursor.token.kind.isMark closing || cursor.token.kind.isEnd) = false)
    (enough : ∀ node first, element cursor = .ok (node, first) →
      nodes.length ≤ first.rest.chars.length + 2) :
    commaList closing element cursor = .ok ((nodes, none), after) := by
  obtain ⟨node, first, read, rest⟩ := listed.run_loop other
  rw [Grammar.run_commaList begins read]
  exact rest [] _ (enough node first read)

/-- A list with commas cannot be read if one of its elements cannot. -/
theorem ListStops.run_loop {closing : String} {element : Parser Node} {cursor : Cursor}
    (stops : ListStops closing element cursor) (other : closing ≠ ",") {node : Node}
    {first : Cursor}
    (read : element cursor = .ok (node, first)) (found : List Node) (bound : Nat) :
    ∃ failure, loop (commaStep closing element) bound (node :: found) first = .error failure := by
  induction stops generalizing node first found bound with
  | here failed =>
      rw [failed] at read
      cases read
  | later headRead divides goesOn later ih =>
      rw [headRead] at read
      cases read
      cases bound with
      | zero => exact ⟨_, rfl⟩
      | succ bound =>
          rw [loop, Parser.run_bind, run_commaStep_more other divides goesOn]
          cases nextRead : element _ with
          | error failure => exact ⟨failure, rfl⟩
          | ok result =>
              obtain ⟨next, second⟩ := result
              exact ih nextRead _ bound

theorem ListStops.run_commaList {closing : String} {element : Parser Node} {cursor : Cursor}
    (stops : ListStops closing element cursor) (other : closing ≠ ",")
    (begins : (cursor.token.kind.isMark closing || cursor.token.kind.isEnd) = false) :
    ∃ failure, commaList closing element cursor = .error failure := by
  cases read : element cursor with
  | error failure =>
      refine ⟨failure, ?_⟩
      simp only [commaList, Parser.run_bind, run_kind, Parser.run_pure, begins, Bool.false_eq_true,
        if_false, read]
  | ok result =>
      obtain ⟨node, first⟩ := result
      rw [Grammar.run_commaList begins read]
      exact stops.run_loop other read [] _

end LoopTemplate.Grammar
