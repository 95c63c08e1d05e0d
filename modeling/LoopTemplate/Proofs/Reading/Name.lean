import LoopTemplate.Proofs.Reading.Cursor

/-!
# Reading names

A name before a comma or a closing bracket is read as a variable where an expression may stand, and
as a declared name where a pattern may stand. The words that are only sometimes keywords are names
here; `await` is none where it is an operator.
-/

namespace LoopTemplate.Grammar

open LoopTemplate.Token
  (Begins Kind begins_word endsWord isWordText reservedWords word? word?_of_isWordText)
open LoopTemplate.Tree (Level Node UnaryOperator)

/-- A name: a word that is never a keyword. -/
structure IsName (name : String) : Prop where
  word : isWordText name.toList = true
  free : name ∉ reservedWords

instance (name : String) : Decidable (IsName name) :=
  decidable_of_iff (isWordText name.toList = true ∧ name ∉ reservedWords)
    ⟨fun ⟨word, free⟩ => ⟨word, free⟩, fun valid => ⟨valid.word, valid.free⟩⟩

namespace IsName

variable {name : String}

theorem ne {word : String} (valid : IsName name) (reserved : word ∈ reservedWords) :
    name ≠ word :=
  fun same => valid.free (same ▸ reserved)

theorem wordForm?_eq_none (valid : IsName name) : wordForm? name = none := by
  unfold wordForm?
  split <;> first | rfl | exact absurd (by decide) valid.free

theorem unaryOperator?_eq_none (valid : IsName name) : UnaryOperator.ofText? name = none := by
  rw [UnaryOperator.ofText?, List.find?_eq_none]
  intro operator _ same
  have same : operator.text = name := by simpa using same
  subst same
  cases operator with
  | plus | minus | not | bitNot => exact absurd valid.word (by decide)
  | typeOf | void | delete => exact absurd (by decide) valid.free

theorem mayBind (valid : IsName name) : mayBind name = true := by
  simpa [Grammar.mayBind] using valid.free

end IsName

/-- A text that is one word, which stands for a name. Escapes may be in it. -/
structure IsSpelling (text name : String) : Prop where
  word : ∃ escaped, word? text.toList = some (name, escaped)
  valid : IsName name

/-- A name is a spelling of itself. -/
theorem IsName.isSpelling {name : String} (valid : IsName name) : IsSpelling name name :=
  ⟨⟨false, word?_of_isWordText valid.word⟩, valid⟩

theorem IsSpelling.begins {text name : String} (spelling : IsSpelling text name) {chars : List Char}
    (ends : endsWord chars = true) : Begins (text.toList ++ chars) (.word name) chars :=
  spelling.word.elim fun _ whole => begins_word whole ends

/-! ## Where an expression ends -/

/-- A token that goes on with no expression before it. -/
def Ends (kind : Kind) : Prop :=
  kind = .mark "," ∨ kind = .mark ")" ∨ kind = .mark "\x7d" ∨ kind = .stop

theorem run_repeatStep_done {σ β : Type} {step : σ → Parser (σ ⊕ β)} {state : σ} {result : β}
    {cursor after : Cursor} (done : step state cursor = .ok (.inr result, after)) :
    repeatStep state step cursor = .ok (result, after) := by
  have bound : stepBound cursor = .ok (cursor.rest.chars.length + 2, cursor) := rfl
  simp [repeatStep, bound, loop, done]

section Ends

variable {cursor : Cursor} (ends : Ends cursor.token.kind) (self : Rules) (context : Context)
include ends

theorem run_parseAccess_end (node : Node) (mode : AccessMode) :
    parseAccess self context mode (some node) cursor = .ok (node, cursor) := by
  have stops : parseAccessStep self context mode node.start (node, false) cursor =
      .ok (.inr (node, false), cursor) := by
    rcases ends with kind_eq | kind_eq | kind_eq | kind_eq <;> simp [parseAccessStep, kind_eq]
  simp [parseAccess, run_repeatStep_done stops]

theorem run_parsePostfix_end (node : Node) :
    parsePostfix self context (some node) cursor = .ok (node, cursor) := by
  have noUpdate : updateOperator? cursor.token.kind = none := by
    rcases ends with kind_eq | kind_eq | kind_eq | kind_eq <;> rw [kind_eq] <;> decide
  simp [parsePostfix, run_parseAccess_end ends self context node, noUpdate]

theorem run_parseBinaryRest_end (level : Level) (left : Node) :
    parseBinaryRest self context level left cursor = .ok (left, cursor) := by
  have stops : parseBinaryStep self context level left.start left cursor =
      .ok (.inr left, cursor) := by
    have narrow : widenAngle cursor = .ok ((), cursor) := by
      rcases ends with kind_eq | kind_eq | kind_eq | kind_eq <;>
        simp [widenAngle, kind_eq, Kind.isMark]
    have noOperator : binaryOperator? cursor.token = none := by
      rcases ends with kind_eq | kind_eq | kind_eq | kind_eq <;>
        simp only [binaryOperator?, kind_eq] <;> decide
    simp [parseBinaryStep, narrow, noOperator]
  exact run_repeatStep_done stops

theorem run_parseAssignmentRest_end (left : Node) :
    parseAssignmentRest self context left cursor = .ok (left, cursor) := by
  have noOperator : assignmentOperator? cursor.token.kind = none := by
    rcases ends with kind_eq | kind_eq | kind_eq | kind_eq <;> rw [kind_eq] <;> decide
  have noQuestion : cursor.token.kind.isMark "?" = false := by
    rcases ends with kind_eq | kind_eq | kind_eq | kind_eq <;> rw [kind_eq] <;> decide
  have noArrow : cursor.token.kind ≠ .mark "=>" := by
    rcases ends with kind_eq | kind_eq | kind_eq | kind_eq <;> rw [kind_eq] <;> decide
  simp [parseAssignmentRest, noOperator, noArrow, noQuestion]

end Ends

/-- A token that begins no more than a primary expression: no operator, parenthesis, tag or arrow
begins with it. -/
structure BeginsPrimary (inside : Rules) (context : Context) (cursor : Cursor) : Prop where
  notYield : atYield context cursor = .ok (false, cursor)
  notAwait : atAwait context cursor = .ok (false, cursor)
  noArrow : asyncArrow? inside context cursor = .ok (none, cursor)
  notNew : (cursor.token.kind.isWord "new" && !cursor.token.escaped) = false
  noUnary : unaryOperator? cursor.token = none
  noUpdate : updateOperator? cursor.token.kind = none
  notOpen : cursor.token.kind.isMark "(" = false
  notTag : cursor.token.kind.isMark "<" = false
  notPrivate : ∀ name, cursor.token.kind ≠ .privateName name
  promises : cursor.token.promises = []

/-- No test for a private member begins with the token. -/
theorem BeginsPrimary.otherwise {inside : Rules} {context : Context} {cursor : Cursor}
    (begins : BeginsPrimary inside context cursor) (test : String → Parser Node)
    (other : Parser Node) :
    (match cursor.token.kind, context.allowIn with
      | .privateName name, true => test name
      | _, _ => other) = other := by
  split
  · next private_eq _ => exact absurd private_eq (begins.notPrivate _)
  · rfl

/-- A primary expression with nothing behind it is a whole expression. -/
theorem run_parseAssignment_of_primary {self : Rules} {context : Context} {cursor after : Cursor}
    {node : Node} (begins : BeginsPrimary self context cursor)
    (primary : parsePrimary self context cursor = .ok (node, after))
    (ends : Ends after.token.kind) :
    parseAssignment self context cursor = .ok (node, after) := by
  have operand : parseOperand self context cursor = .ok (node, after) := by
    have access : parseAccess self context ⟨true, true⟩ none cursor = .ok (node, after) := by
      have rest := run_parseAccess_end ends self context node ⟨true, true⟩
      simp only [parseAccess, Parser.run_bind, Parser.run_pure] at rest
      simpa [parseAccess, begins.notNew, primary] using rest
    have noUpdate : updateOperator? after.token.kind = none := by
      rcases ends with kind_eq | kind_eq | kind_eq | kind_eq <;> rw [kind_eq] <;> decide
    simp [parseOperand, parsePostfix, begins.noUnary, begins.noUpdate, begins.notTag,
      begins.notAwait, access, noUpdate]
  have operands : parseOperands self context Level.lowest cursor = .ok (node, after) := by
    simp only [parseOperands, Parser.run_bind, run_current]
    refine (congrFun (begins.otherwise _ _) cursor).trans ?_
    simp [operand, promised, begins.promises, run_parseBinaryRest_end ends]
  have plain : parsePlainAssignment self context cursor = .ok (node, after) := by
    simp [parsePlainAssignment, begins.notYield, begins.notOpen, begins.noArrow, operands,
      run_parseAssignmentRest_end ends]
  simp [parseAssignment, plain, promised, begins.promises]

/-- What begins as a primary expression and is none is no expression. -/
theorem run_parseAssignment_of_error {self : Rules} {context : Context} {cursor : Cursor}
    {failure : Failure} (begins : BeginsPrimary self context cursor)
    (primary : parsePrimary self context cursor = .error failure) :
    parseAssignment self context cursor = .error failure := by
  have operand : parseOperand self context cursor = .error failure := by
    simp [parseOperand, parsePostfix, parseAccess, begins.noUnary, begins.noUpdate, begins.notTag,
      begins.notAwait, begins.notNew, primary]
  have operands : parseOperands self context Level.lowest cursor = .error failure := by
    simp only [parseOperands, Parser.run_bind, run_current]
    refine (congrFun (begins.otherwise _ _) cursor).trans ?_
    simp [operand]
  simp [parseAssignment, parsePlainAssignment, begins.notYield, begins.notOpen, begins.noArrow,
    operands]

/-! ## Variables -/

section Reference

variable {name : String} {context : Context} {cursor : Cursor}

/-- A name that is no operator where it stands. -/
structure Refers (context : Context) (name : String) : Prop where
  valid : IsName name
  notYield : context.allowYield = true → name ≠ "yield"
  notAwait : context.allowAwait = true → name ≠ "await"

theorem Refers.mayRefer (refers : Refers context name) : mayRefer context name = true := by
  have free := refers.valid.free
  have notYield := refers.notYield
  have notAwait := refers.notAwait
  cases yields : context.allowYield <;> cases awaits : context.allowAwait <;>
    simp_all [Grammar.mayRefer]

theorem Refers.run_parseReference (refers : Refers context name)
    (shown : cursor.Plain (.word name)) :
    parseReference context cursor =
      .ok (.mk cursor.token.start (.reference name) [], cursor.next) := by
  simp [parseReference, shown.kind_eq, refers.mayRefer]

/-- A word that is spelled with escapes begins no more than a primary expression. -/
theorem beginsPrimary_escaped (shown : cursor.Plain (.word name))
    (escaped : cursor.token.escaped = true) (self : Rules) (context : Context) :
    BeginsPrimary self context cursor where
  notYield := by simp [atYield, escaped]
  notAwait := by simp [atAwait, escaped]
  noArrow := by simp [asyncArrow?, escaped]
  notNew := by simp [escaped]
  noUnary := by simp [unaryOperator?, shown.kind_eq, escaped]
  noUpdate := by simp [updateOperator?, shown.kind_eq]
  notOpen := by simp [shown.kind_eq, Kind.isMark]
  notTag := by simp [shown.kind_eq, Kind.isMark]
  notPrivate := by simp [shown.kind_eq]
  promises := shown.promises

/-- Such a word is a variable or nothing. -/
theorem run_parsePrimary_escaped (shown : cursor.Plain (.word name))
    (escaped : cursor.token.escaped = true) (self : Rules) (context : Context) :
    parsePrimary self context cursor = parseReference context cursor := by
  simp [parsePrimary, shown.kind_eq, escaped]

variable (self : Rules) (refers : Refers context name) (shown : cursor.Plain (.word name))
  (unescaped : cursor.token.escaped = false) (sameLine : cursor.next.token.afterBreak = false)
  (ends : Ends cursor.next.token.kind)

include ends in
/-- No word or literal follows a name before the end of its expression. -/
theorem run_continuesOnLine_end : continuesOnLine cursor = .ok (false, cursor) := by
  rcases ends with kind_eq | kind_eq | kind_eq | kind_eq <;> simp [continuesOnLine, kind_eq]

include refers shown unescaped ends in
theorem run_atYield : atYield context cursor = .ok (false, cursor) := by
  by_cases word : name = "yield"
  · have disallowed : context.allowYield = false := by
      cases allowed : context.allowYield with
      | false => rfl
      | true => exact absurd word (refers.notYield allowed)
    simp [atYield, shown.kind_eq, unescaped, Kind.isWord, word, disallowed,
      run_continuesOnLine_end ends]
  · simp [atYield, shown.kind_eq, Kind.isWord, word]

include refers shown unescaped ends in
theorem run_atAwait : atAwait context cursor = .ok (false, cursor) := by
  by_cases word : name = "await"
  · have disallowed : context.allowAwait = false := by
      cases allowed : context.allowAwait with
      | false => rfl
      | true => exact absurd word (refers.notAwait allowed)
    simp [atAwait, shown.kind_eq, unescaped, Kind.isWord, word, disallowed,
      run_continuesOnLine_end ends]
  · simp [atAwait, shown.kind_eq, Kind.isWord, word]

include shown unescaped sameLine ends in
theorem run_asyncArrow? : asyncArrow? self context cursor = .ok (none, cursor) := by
  by_cases word : name = "async"
  · rcases ends with kind_eq | kind_eq | kind_eq | kind_eq <;>
      simp [asyncArrow?, shown.kind_eq, unescaped, Kind.isWord, word, sameLine, kind_eq]
  · simp [asyncArrow?, shown.kind_eq, Kind.isWord, word]

include refers shown unescaped ends in
theorem run_atFunction : atFunction cursor = .ok (false, cursor) := by
  have notFunction : name ≠ "function" := refers.valid.ne (by decide)
  by_cases word : name = "async"
  · rcases ends with kind_eq | kind_eq | kind_eq | kind_eq <;>
      simp [atFunction, shown.kind_eq, unescaped, Kind.isWord, word, kind_eq]
  · simp [atFunction, shown.kind_eq, Kind.isWord, word, notFunction]

include refers shown unescaped ends in
theorem run_parsePrimary_unescaped :
    parsePrimary self context cursor = parseReference context cursor := by
  have notClass : name ≠ "class" := refers.valid.ne (by decide)
  have notImport : name ≠ "import" := refers.valid.ne (by decide)
  simp [parsePrimary, shown.kind_eq, unescaped, notClass, notImport,
    run_atFunction refers shown unescaped ends, refers.valid.wordForm?_eq_none]

include refers shown unescaped sameLine ends in
theorem beginsPrimary_unescaped : BeginsPrimary self context cursor := by
  have notNew : name ≠ "new" := refers.valid.ne (by decide)
  exact
    { notYield := run_atYield refers shown unescaped ends
      notAwait := run_atAwait refers shown unescaped ends
      noArrow := run_asyncArrow? self shown unescaped sameLine ends
      notNew := by simp [shown.kind_eq, Kind.isWord, notNew]
      noUnary := by
        simp [unaryOperator?, shown.kind_eq, unescaped, refers.valid.unaryOperator?_eq_none]
      noUpdate := by simp [updateOperator?, shown.kind_eq]
      notOpen := by simp [shown.kind_eq, Kind.isMark]
      notTag := by simp [shown.kind_eq, Kind.isMark]
      notPrivate := by simp [shown.kind_eq]
      promises := shown.promises }

include refers shown sameLine ends in
/-- A name that an expression ends with is a variable, however it is spelled. -/
theorem run_parseAssignment_reference :
    parseAssignment self context cursor =
      .ok (.mk cursor.token.start (.reference name) [], cursor.next) := by
  cases escaped : cursor.token.escaped with
  | true =>
      refine run_parseAssignment_of_primary (beginsPrimary_escaped shown escaped self context) ?_
        ends
      rw [run_parsePrimary_escaped shown escaped, refers.run_parseReference shown]
  | false =>
      refine run_parseAssignment_of_primary
        (beginsPrimary_unescaped self refers shown escaped sameLine ends) ?_ ends
      rw [run_parsePrimary_unescaped self refers shown escaped ends,
        refers.run_parseReference shown]

/-- A keyword that is spelled with escapes is no expression. -/
theorem run_parseAssignment_escaped (shown : cursor.Plain (.word name))
    (escaped : cursor.token.escaped = true) (self : Rules)
    (refused : mayRefer context name = false) :
    ∃ failure, parseAssignment self context cursor = .error failure := by
  obtain ⟨failure, stopped⟩ := run_unexpected Node cursor
  refine ⟨failure,
    run_parseAssignment_of_error (beginsPrimary_escaped shown escaped self context) ?_⟩
  rw [run_parsePrimary_escaped shown escaped]
  simp [parseReference, shown.kind_eq, refused, stopped]

end Reference

/-! ## A word that waits for nothing -/

/-- Where an expression ends, none begins. -/
theorem run_parseOperand_end {cursor : Cursor} (ends : Ends cursor.token.kind) (self : Rules)
    (context : Context) : ∃ failure, parseOperand self context cursor = .error failure := by
  obtain ⟨failure, stopped⟩ := run_unexpected Node cursor
  have primary : parsePrimary self context cursor = .error failure := by
    rcases ends with kind_eq | kind_eq | kind_eq | kind_eq <;>
      simp [parsePrimary, kind_eq, stopped]
  have noUnary : unaryOperator? cursor.token = none := by
    rcases ends with kind_eq | kind_eq | kind_eq | kind_eq <;>
      simp only [unaryOperator?, kind_eq] <;> decide
  have noUpdate : updateOperator? cursor.token.kind = none := by
    rcases ends with kind_eq | kind_eq | kind_eq | kind_eq <;> rw [kind_eq] <;> decide
  have notTag : cursor.token.kind.isMark "<" = false := by
    rcases ends with kind_eq | kind_eq | kind_eq | kind_eq <;> rw [kind_eq] <;> rfl
  have noWord : ∀ word, cursor.token.kind.isWord word = false := by
    rcases ends with kind_eq | kind_eq | kind_eq | kind_eq <;> rw [kind_eq] <;> exact fun _ => rfl
  refine ⟨failure, ?_⟩
  simp [parseOperand, noUnary, noUpdate, notTag, atAwait, noWord, parsePostfix, parseAccess,
    primary]

/-- Where `await` is an operator, it is no expression of its own. -/
theorem run_parseAssignment_await {context : Context} {cursor : Cursor}
    (awaits : context.allowAwait = true) (shown : cursor.Plain (.word "await"))
    (ends : Ends cursor.next.token.kind) (depth : Nat) :
    ∃ failure, parseAssignment (grammar (depth + 1)) context cursor = .error failure := by
  cases escaped : cursor.token.escaped with
  | true => exact run_parseAssignment_escaped shown escaped _ (by simp [mayRefer, awaits])
  | false =>
      obtain ⟨failure, stopped⟩ :=
        run_parseOperand_end ends (grammar depth) { context with allowAwait := true }
      have inside : grammar (depth + 1) .operand { context with allowAwait := true } cursor.next =
          .error failure := stopped
      have operators : UnaryOperator.ofText? "await" = none := by decide
      refine ⟨failure, ?_⟩
      simp [parseAssignment, parsePlainAssignment, atYield, asyncArrow?, parseOperands,
        parseOperand, unaryOperator?, updateOperator?, atAwait, shown.kind_eq, escaped, Kind.isWord,
        Kind.isMark, awaits, operators, inside]

/-! ## Declared names -/

/-- Whether a name is an operator where it stands. -/
def IsOperator (context : Context) (name : String) : Prop :=
  context.allowAwait = true ∧ name = "await" ∨ context.allowYield = true ∧ name = "yield"

section Binding

variable {name : String} {cursor : Cursor} (context : Context)

/-- A name that is an operator is noted. -/
theorem run_noteReserved (name : String) (cursor : Cursor) :
    ∃ noted, noteReserved context name cursor = .ok ((), cursor.noting noted) ∧
      (noted = [] ↔ cursor.noted = [] ∧ ¬IsOperator context name) := by
  have operator_iff : IsOperator context name ↔ (context.allowAwait && name == "await") = true ∨
      (context.allowYield && name == "yield") = true := by
    simp [IsOperator]
  rw [operator_iff]
  by_cases awaits : (context.allowAwait && name == "await") = true <;>
    by_cases yields : (context.allowYield && name == "yield") = true <;>
    simp only [noteReserved, awaits, yields, Parser.run_bind, run_here, if_true] <;>
    exact ⟨_, rfl, by simp⟩

/-- A declared name is read. Where it is an operator, that is noted. -/
theorem run_parseBinding (valid : IsName name) (shown : cursor.token.kind = .word name) :
    ∃ noted, parseBinding context cursor =
        .ok (.mk cursor.token.start (.binding name) [], cursor.next.noting noted) ∧
      (noted = [] ↔ cursor.noted = [] ∧ ¬IsOperator context name) := by
  obtain ⟨noted, reserved, clear⟩ := run_noteReserved context name cursor
  refine ⟨noted, ?_, clear⟩
  simp [parseBinding, shown, valid.mayBind, reserved]

/-- A declared name is a pattern. -/
theorem run_pattern (valid : IsName name) (shown : cursor.token.kind = .word name) (depth : Nat) :
    ∃ noted, grammar (depth + 1) .pattern context cursor =
        .ok (.mk cursor.token.start (.binding name) [], cursor.next.noting noted) ∧
      (noted = [] ↔ cursor.noted = [] ∧ ¬IsOperator context name) := by
  obtain ⟨noted, read, clear⟩ := run_parseBinding context valid shown
  exact ⟨noted, by simp [grammar, rules, parsePattern, shown, read], clear⟩

end Binding

end LoopTemplate.Grammar
