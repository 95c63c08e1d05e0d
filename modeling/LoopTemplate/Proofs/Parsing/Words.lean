import LoopTemplate.Proofs.Reading.Word

/-!
# Tokens that are words

Whatever stands in a text, a token that is a word has the characters of one: the first may begin
an identifier and the others may follow. Characters spelled by their code points are no exception,
since each is looked at when its escape ends.
-/

namespace LoopTemplate.Token

open LoopTemplate.Text (isIdentifierPart isIdentifierStart)

/-- Whether a token has the characters of a word if it is one. -/
def Kind.Worded : Kind → Prop
  | .word text => isWordText text.toList = true
  | _ => True

/-! ## Reading words -/

/-- A word being read behind its first character. Outside an escape something was read. -/
structure WordState.Valid (state : WordState) : Prop where
  spelled : state.chars = [] ∨ isWordText state.chars.reverse = true
  begun : state.mode = .plain → state.chars ≠ []

/-- A character that may stand behind those of a word makes a word with them. -/
theorem isWordText_push {c : Char} {chars : List Char}
    (spelled : chars = [] ∨ isWordText chars.reverse = true)
    (fits : (if chars.isEmpty then isIdentifierStart c else isIdentifierPart c) = true) :
    isWordText (c :: chars).reverse = true := by
  rcases spelled with rfl | word
  · simpa [isWordText] using fits
  · cases read : chars.reverse with
    | nil => simp [read, isWordText] at word
    | cons first rest =>
        have someRead : chars.isEmpty = false := by
          cases chars with
          | nil => cases read
          | cons => rfl
        rw [read] at word
        rw [someRead] at fits
        simp_all [isWordText]

namespace WordState

variable {state : WordState}

/-- What one more character does to a word: it goes on with the word, ends it before the
character, or makes it none. -/
inductive StepsTo (state : WordState) : Step WordState → Prop where
  | next {next : WordState} (valid : next.Valid) : StepsTo state (.next next)
  | stop : StepsTo state (.stop state)
  | refuse : StepsTo state .refuse

theorem stepsTo_pushCode (spelled : state.chars = [] ∨ isWordText state.chars.reverse = true)
    (code : Nat) : StepsTo state (state.pushCode code) := by
  by_cases valid : code.isValidChar
  · rw [pushCode, dif_pos valid]
    dsimp only
    generalize fits : (if state.chars.isEmpty then isIdentifierStart (Char.ofNatAux code valid)
      else isIdentifierPart (Char.ofNatAux code valid)) = accepted
    cases accepted with
    | false => exact .refuse
    | true => exact .next ⟨.inr (isWordText_push spelled fits), fun _ => List.cons_ne_nil _ _⟩
  · rw [pushCode, dif_neg valid]
    exact .refuse

theorem stepsTo_step (valid : state.Valid) (c : Char) : StepsTo state (state.step c) := by
  have escaping : ∀ mode, mode ≠ .plain → StepsTo state (.next { state with mode }) :=
    fun mode inEscape => .next ⟨valid.spelled, fun plain => absurd plain inEscape⟩
  fun_cases WordState.step state c with
  | case2 plain notEscape fits =>
      exact .next ⟨.inr (isWordText_push valid.spelled fits), fun _ => List.cons_ne_nil _ _⟩
  | case3 => exact .stop
  | case1 | case4 | case6 | case7 | case11 | case16 => exact escaping _ (by simp)
  | case10 | case12 => exact stepsTo_pushCode valid.spelled _
  | case5 | case8 | case9 | case13 | case14 | case15 => exact .refuse

/-- A word stays a word up to where it ends. -/
theorem valid_of_run {chars : List Char} {offset : Nat} {last : WordState} {after : Rest}
    (valid : state.Valid)
    (read : run WordState.step state chars offset = .done last after ∨
      run WordState.step state chars offset = .ended last after) : last.Valid := by
  induction chars generalizing state offset with
  | nil =>
      rcases read with read | read <;> cases read
      exact valid
  | cons c chars ih =>
      have steps := stepsTo_step valid c
      rw [run] at read
      generalize state.step c = outcome at steps read
      cases steps with
      | next nextValid => exact ih nextValid read
      | stop =>
          rcases read with read | read <;> cases read
          exact valid
      | refuse => rcases read with read | read <;> cases read

/-- The first character of a word, if it is one. -/
theorem stepsTo_start {c : Char} (begins : isIdentifierStart c = true ∨ c = '\\') :
    ∃ next, WordState.start.step c = .next next ∧ next.Valid := by
  by_cases backslash : c = '\\'
  · refine ⟨⟨.escape, [], false⟩, by simp [WordState.step, WordState.start, backslash], .inl rfl,
      ?_⟩
    simp
  · have start := begins.resolve_right backslash
    refine ⟨⟨.plain, [c], false⟩, by simp [WordState.step, WordState.start, backslash, start], ?_,
      ?_⟩
    · exact .inr (by simp [isWordText, start])
    · simp

end WordState

/-- A word that is read has the characters of one. -/
theorem isWordText_of_readWord {rest after : Rest} {c : Char} {chars : List Char} {text : String}
    {escaped : Bool} (shown : rest.chars = c :: chars)
    (begins : isIdentifierStart c = true ∨ c = '\\')
    (read : readWord rest = some (text, escaped, after)) : isWordText text.toList = true := by
  obtain ⟨first, stepped, valid⟩ := WordState.stepsTo_start begins
  have begun : rest.run WordState.step .start =
      run WordState.step first chars (rest.offset + c.utf8Size) := by
    rw [Rest.run, shown, run, stepped]
  have finished : ∀ (last : WordState) (found : Rest), last.Valid →
      last.finish?.map (fun word => (word.1, word.2, found)) = some (text, escaped, after) →
        isWordText text.toList = true := by
    intro last found lastValid taken
    unfold WordState.finish? at taken
    split at taken
    case h_1 plain =>
      cases taken
      rw [String.toList_ofList]
      exact lastValid.spelled.resolve_left (lastValid.begun plain)
    case h_2 => cases taken
  unfold readWord at read
  rw [begun] at read
  split at read
  case h_1 last found ended =>
    exact finished last found (WordState.valid_of_run valid (.inl ended)) read
  case h_2 last found ended =>
    exact finished last found (WordState.valid_of_run valid (.inr ended)) read
  case h_3 => cases read

/-! ## Reading tokens -/

theorem worded_integerKind (value : Nat) (style : String) (rest : Rest) :
    (integerKind value style rest).1.Worded := by
  unfold integerKind
  split <;> trivial

theorem worded_decimalKind (whole : List Char) (rest : Rest) :
    (decimalKind whole rest).1.Worded := by
  unfold decimalKind
  split
  split
  · exact worded_integerKind _ _ _
  · trivial

theorem worded_readNumeral (rest : Rest) : (readNumeral rest).1.Worded := by
  have radix : ∀ (base : Nat) (style : String) (digits : List Char) (after : Rest),
      (if digits.isEmpty then (Kind.bad, after)
        else integerKind (digitsValue base digits) style after).1.Worded := by
    intro base style digits after
    split
    · trivial
    · exact worded_integerKind _ _ _
  unfold readNumeral
  dsimp only
  split
  · exact radix 16 "hex" _ _
  · exact radix 16 "hex" _ _
  · exact radix 8 "octal" _ _
  · exact radix 8 "octal" _ _
  · exact radix 2 "binary" _ _
  · exact radix 2 "binary" _ _
  · split
    · split
      · trivial
      · exact worded_decimalKind _ _
    · exact worded_decimalKind _ _

theorem worded_readNumber (rest : Rest) : (readNumber rest).kind.Worded := by
  have worded := worded_readNumeral rest
  unfold readNumber
  dsimp only
  split
  · split
    · trivial
    · split
      · trivial
      · exact worded
  · split
    · trivial
    · exact worded

theorem worded_readTemplatePiece (opened : Nat) (rest : Rest) :
    (readTemplatePiece opened rest).kind.Worded := by
  unfold readTemplatePiece
  split <;> trivial

theorem worded_readQuoted (quote : Char) (opened : Nat) (rest : Rest) :
    (readQuoted quote opened rest).kind.Worded := by
  unfold readQuoted
  split
  · trivial
  · split <;> trivial
  · trivial

theorem worded_readToken (rest : Rest) : (readToken rest).kind.Worded := by
  fun_cases readToken rest with
  | case2 c next shown begins text escaped after read =>
      exact isWordText_of_readWord shown (by simpa using begins) read
  | case4 | case5 => exact worded_readNumber rest
  | case6 => exact worded_readQuoted _ _ _
  | case7 => exact worded_readTemplatePiece _ _
  | case1 | case3 | case8 | case9 | case10 | case11 | case12 | case13 => trivial

theorem worded_scanToken (beginning : Bool) (previous : Kind) (rest : Rest) :
    (scanToken beginning previous rest).token.kind.Worded :=
  worded_readToken _

theorem worded_scanChild (rest : Rest) : (scanChild rest).token.kind.Worded := by
  unfold scanChild
  dsimp only
  split
  · trivial
  · split
    · trivial
    · split
      · trivial
      · dsimp only [Reading.place, Reading.plain]
        split <;> trivial

theorem worded_readMarkupValue (rest : Rest) : (readMarkupValue rest).kind.Worded := by
  unfold readMarkupValue
  dsimp only
  split
  · trivial
  · split
    · split <;> trivial
    · exact worded_readToken rest

theorem worded_scanMarkupValue (previous : Kind) (rest : Rest) :
    (scanMarkupValue previous rest).token.kind.Worded :=
  worded_readMarkupValue _

end LoopTemplate.Token
