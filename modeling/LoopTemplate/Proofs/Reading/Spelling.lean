import LoopTemplate.Proofs.Parsing.Words
import LoopTemplate.Proofs.Reading.Snippet

/-!
# Objects made of identifiers

A text that is one word, and that is read as a variable where it stands alone, is a spelling of
that variable. So an object made of such texts is read, and hands over the variables that they
spell, one after the other. No keyword is among them: spelled plainly it is read as something else
or not at all, and with an escape in it it is not read.
-/

/-! ## Words without escapes -/

namespace LoopTemplate.Token

open LoopTemplate.Text (isIdentifierPart isIdentifierStart)

namespace WordState

/-- Outside an escape, a word in which none was met has the characters that were read. -/
def Copied (state : WordState) (read : List Char) : Prop :=
  state.mode = .plain → state.escaped = false → state.chars.reverse = read

theorem escaped_pushCode {state next : WordState} {code : Nat}
    (pushed : state.pushCode code = .next next) : next.escaped = true := by
  by_cases valid : code.isValidChar
  · rw [pushCode, dif_pos valid] at pushed
    dsimp only at pushed
    generalize (if state.chars.isEmpty then isIdentifierStart (Char.ofNatAux code valid)
      else isIdentifierPart (Char.ofNatAux code valid)) = fits at pushed
    cases fits <;> cases pushed
    rfl
  · rw [pushCode, dif_neg valid] at pushed
    cases pushed

theorem copied_step {state : WordState} {read : List Char} (copied : state.Copied read) (c : Char) :
    ∀ next, state.step c = .next next → next.Copied (read ++ [c]) := by
  fun_cases WordState.step state c with
  | case2 plain notEscape fits =>
      rintro _ ⟨⟩ _ unescaped
      rw [List.reverse_cons, copied plain unescaped]
  | case1 | case4 | case6 | case7 | case11 | case16 =>
      rintro _ ⟨⟩ plain
      cases plain
  | case10 | case12 =>
      intro next pushed _ unescaped
      rw [escaped_pushCode pushed] at unescaped
      cases unescaped
  | case3 | case5 | case8 | case9 | case13 | case14 | case15 =>
      intro next refused
      cases refused

theorem copied_run {state last : WordState} {read text : List Char} {offset : Nat} {after : Rest}
    (copied : state.Copied read)
    (ended : run WordState.step state text offset = .ended last after) :
    last.Copied (read ++ text) := by
  induction text generalizing state read offset with
  | nil =>
      cases ended
      rwa [List.append_nil]
  | cons c text ih =>
      have steps := copied_step copied c
      rw [run] at ended
      cases stepped : state.step c with
      | next next =>
          simp only [stepped] at ended
          rw [List.append_cons]
          exact ih (steps next stepped) ended
      | done | stop | refuse =>
          simp only [stepped] at ended
          cases ended

end WordState

/-- A whole word has the characters of one. -/
theorem isWordText_of_word? {text : List Char} {name : String} {escaped : Bool}
    (whole : word? text = some (name, escaped)) : isWordText name.toList = true := by
  have read := readWord_append whole (rfl : endsWord [] = true) 0
  cases text with
  | nil => exact absurd rfl (word?_cases whole).1
  | cons c text => exact isWordText_of_readWord rfl (begins_of_word? whole) read

/-- A word that is spelled without escapes is what it stands for. -/
theorem eq_of_word? {text name : String} (whole : word? text.toList = some (name, false)) :
    text = name := by
  obtain ⟨_, last, after, ended, finished⟩ := word?_cases whole
  have copied : last.Copied ([] ++ text.toList) := WordState.copied_run (fun _ _ => rfl) ended
  unfold WordState.finish? at finished
  split at finished
  case h_1 plain =>
    simp only [Option.some.injEq, Prod.mk.injEq] at finished
    rw [← finished.1, copied plain finished.2, List.nil_append, String.ofList_toList]
  case h_2 => cases finished

end LoopTemplate.Token

/-! ## Identifiers -/

namespace LoopTemplate.Loop

open LoopTemplate.Grammar (Context Cursor IsSpelling Refers grammar mayRefer)
open LoopTemplate.Token
  (begins_stop begins_word eq_of_word? isWordText isWordText_of_word? reservedWords
  scanToken_word word? word?_of_isWordText)

/-- The variable that a text is read as, if it is one. -/
def readVariable? (text : String) : Option String :=
  match Grammar.readExpression text.toList with
  | .ok (.mk _ (.reference name) []) => some name
  | _ => none

/-- A text that is one word, and that is read as a variable where it stands alone. -/
structure IsIdentifier (text name : String) : Prop where
  word : (word? text.toList).isSome = true
  read : readVariable? text = some name

instance (text name : String) : Decidable (IsIdentifier text name) :=
  decidable_of_iff ((word? text.toList).isSome = true ∧ readVariable? text = some name)
    ⟨fun ⟨word, read⟩ => ⟨word, read⟩, fun identifier => ⟨identifier.word, identifier.read⟩⟩

/-- No keyword is read as a variable. -/
theorem readVariable?_keyword :
    ∀ word ∈ "await" :: reservedWords, readVariable? word = none := by
  decide +kernel

/-- What is read as a variable is an expression. -/
theorem parseCode_of_readVariable? {text name : String} (read : readVariable? text = some name) :
    ∃ start after, parseCode text = .ok (.mk start (.reference name) [], after) := by
  unfold readVariable? at read
  split at read
  case h_1 start name' readAs =>
    cases read
    obtain ⟨after, parsed, -⟩ := parsed_of_readExpression readAs
    exact ⟨start, after, parsed⟩
  case h_2 => cases read

section Word

variable {text name : String} {escaped : Bool} (whole : word? text.toList = some (name, escaped))
include whole

theorem at_word : (Cursor.first (.ofChars text.toList)).At (.word name) [] := by
  have begins := begins_word whole (rfl : Token.endsWord [] = true)
  rw [List.append_nil] at begins
  exact Cursor.at_first begins

theorem escaped_first : (Cursor.first (.ofChars text.toList)).token.escaped = escaped := by
  have scanned := scanToken_word whole (rfl : Token.endsWord [] = true) true .stop 0
  rw [List.append_nil] at scanned
  change (Token.scanToken true .stop ⟨text.toList, 0⟩).token.escaped = escaped
  rw [scanned]
  rfl

/-- A word that may be a variable is read as one. -/
theorem parseCode_reference (refers : Refers .module name) :
    ∃ start after, parseCode text = .ok (.mk start (.reference name) [], after) := by
  have stands := at_word whole
  have stop := stands.next begins_stop
  obtain ⟨depth, bound⟩ := depthBound_eq text.toList
  have read : grammar (depth + 4) .assignment .module (.first (.ofChars text.toList)) = _ :=
    Grammar.run_parseAssignment_reference (grammar (depth + 3)) refers stands.toPlain
      stop.afterBreak (.inr (.inr (.inr stop.kind_eq)))
  have parsed := Grammar.run_parseExpression read (by rw [stop.kind_eq]; rfl)
  rw [← bound] at parsed
  exact ⟨_, _, parsed⟩

/-- A word that may be none is not read as one. -/
theorem readVariable?_eq_none (refused : mayRefer .module name = false) :
    readVariable? text = none := by
  cases escaped with
  | false =>
      -- Then the text is the keyword itself.
      have keyword : name ∈ "await" :: reservedWords := by
        rw [List.mem_cons, or_comm, or_iff_not_imp_left]
        simpa [mayRefer, Context.module] using refused
      rw [eq_of_word? whole]
      exact readVariable?_keyword name keyword
  | true =>
      -- With an escape in it a word begins no other expression.
      obtain ⟨depth, bound⟩ := depthBound_eq text.toList
      obtain ⟨failure, failed⟩ := Grammar.run_parseAssignment_escaped (at_word whole).toPlain
        (escaped_first whole) (grammar (depth + 3)) refused
      have read : grammar (depth + 4) .assignment .module (.first (.ofChars text.toList)) =
          .error failure := failed
      have parsed : parseCode text = .error failure := by
        rw [parseCode, bound]
        simp [Grammar.parseExpression, read]
      simp [readVariable?, readExpression_eq, parsed]

end Word

/-- An identifier is a spelling of the variable it is read as. -/
theorem IsIdentifier.isSpelling {text name : String} (identifier : IsIdentifier text name) :
    IsSpelling text name ∧ Refers .module name := by
  obtain ⟨⟨word, escaped⟩, whole⟩ := Option.isSome_iff_exists.1 identifier.word
  cases may : mayRefer .module word with
  | false =>
      have none := readVariable?_eq_none whole may
      rw [identifier.read] at none
      cases none
  | true =>
      have refers : Refers .module word := by
        have other : word ∉ reservedWords ∧ word ≠ "await" := by
          simpa [mayRefer, Context.module] using may
        exact ⟨⟨isWordText_of_word? whole, other.1⟩, by simp [Context.module], fun _ => other.2⟩
      obtain ⟨start, after, parsed⟩ := parseCode_reference whole refers
      obtain ⟨start', after', parsed'⟩ := parseCode_of_readVariable? identifier.read
      rw [parsed] at parsed'
      cases parsed'
      exact ⟨⟨⟨escaped, whole⟩, refers.valid⟩, refers⟩

/-- An identifier without escapes is the variable it is read as. -/
theorem IsIdentifier.eq_of_isWordText {text name : String} (identifier : IsIdentifier text name)
    (plain : isWordText text.toList = true) : text = name := by
  obtain ⟨escaped, whole⟩ := identifier.isSpelling.1.word
  rw [word?_of_isWordText plain] at whole
  cases whole
  rfl

theorem refers_of_identifiers {texts names : Names}
    (identifiers : List.Forall₂ IsIdentifier texts names) :
    ∀ name ∈ names, Refers .module name := by
  induction identifiers with
  | nil => simp
  | cons identifier _ ih => exact List.forall_mem_cons.2 ⟨identifier.isSpelling.2, ih⟩

/-- An object made of identifiers is read. Its properties are the variables that these spell, in
their order, each as a plain name with the variable of that name: the very identifiers, if no
escapes are in them. -/
theorem captureObject_of_identifiers {texts names : Names}
    (identifiers : List.Forall₂ IsIdentifier texts names) :
    ∃ object, captureObject texts = .ok object ∧ HandsOver object names ∧
      ((∀ text ∈ texts, isWordText text.toList = true) → names = texts) := by
  have spelled := identifiers.imp fun _ _ identifier => identifier.isSpelling.1
  obtain ⟨object, made, hands, _⟩ :=
    captureObject_spelled spelled (refers_of_identifiers identifiers)
  refine ⟨object, made, hands, ?_⟩
  intro plain
  have same : List.Forall₂ (· = ·) texts names :=
    ((List.forall₂_and_left texts names).2 ⟨plain, identifiers⟩).imp
      fun _ _ both => both.2.eq_of_isWordText both.1
  rw [List.forall₂_eq_eq_eq] at same
  exact same.symm

/-- Words that are sometimes keywords, and one with an escape in it, make an object. -/
theorem captureObject_of_identifiers_contextual :
    List.Forall₂ IsIdentifier ["get", "set", "async", "static", "of", "a\\u0062"]
        ["get", "set", "async", "static", "of", "ab"] ∧
      ∃ object, captureObject ["get", "set", "async", "static", "of", "a\\u0062"] = .ok object ∧
        HandsOver object ["get", "set", "async", "static", "of", "ab"] := by
  have identifiers : List.Forall₂ IsIdentifier ["get", "set", "async", "static", "of", "a\\u0062"]
      ["get", "set", "async", "static", "of", "ab"] := by
    simp only [List.forall₂_cons, List.Forall₂.nil, and_true]
    decide +kernel
  obtain ⟨object, made, hands, _⟩ := captureObject_of_identifiers identifiers
  exact ⟨identifiers, object, made, hands⟩

end LoopTemplate.Loop
