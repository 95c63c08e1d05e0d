import LoopTemplate.Token.Scan

/-!
# Scanning names

A name that stands in a text, with something behind it that cannot go on with it, is scanned as one
word without faults. So is any other spelling of a name: some of its characters may be escaped.
-/

namespace LoopTemplate.Token

open LoopTemplate.Text (byteLength isAsciiDigit isIdentifierPart isIdentifierStart
  isIdentifierPart_of_start isLineBreak isSourceBlank)

/-- The characters of a word: one that may begin an identifier, then some that may follow. -/
def isWordText : List Char → Bool
  | [] => false
  | c :: chars => isIdentifierStart c && chars.all isIdentifierPart

/-- Whether a text cannot go on with a word before it. -/
def endsWord : List Char → Bool
  | [] => true
  | c :: _ => !isIdentifierPart c && c != '\\'

/-! ## Characters of words -/

/-- Punctuation ends a word. -/
theorem endsWord_cons {c : Char} (chars : List Char)
    (mark : c ∈ [',', ':', ')', '\x7d', ' ', '=', '<', '>', '"']) :
    endsWord (c :: chars) = true := by
  have none : [',', ':', ')', '\x7d', ' ', '=', '<', '>', '"'].all
      (fun c => !isIdentifierPart c && c != '\\') = true := by decide_cbv
  exact List.all_eq_true.1 none c mark

theorem ne_of_isIdentifierStart {c d : Char} (start : isIdentifierStart c = true)
    (other : isIdentifierStart d = false) : c ≠ d := by
  intro same
  rw [same, other] at start
  cases start

/-- No word begins with a character between tokens. -/
theorem isIdentifierStart_ofNat_blank :
    (∀ code ∈ [0x0A, 0x0D, 0x2028, 0x2029, 0x20, 0x09, 0x0B, 0x0C, 0x85, 0xA0, 0x1680, 0x180E,
      0x202F, 0x205F, 0x3000, 0xFEFF], isIdentifierStart (Char.ofNat code) = false) ∧
    ∀ step < 12, isIdentifierStart (Char.ofNat (0x2000 + step)) = false := by
  decide +kernel

/-- A character that ends a line begins no word. -/
theorem isLineBreak_of_start {c : Char} (start : isIdentifierStart c = true) :
    isLineBreak c = false := by
  cases broken : isLineBreak c with
  | false => rfl
  | true =>
      have refused := isIdentifierStart_ofNat_blank.1 c.toNat (by
        simp only [isLineBreak, Bool.or_eq_true, beq_iff_eq] at broken
        rcases broken with ((rfl | rfl) | code) | code <;> simp [*])
      rw [Char.ofNat_toNat, start] at refused
      cases refused

/-- A character that separates tokens begins no word. -/
theorem isSourceBlank_of_start {c : Char} (start : isIdentifierStart c = true) :
    isSourceBlank c = false := by
  cases blank : isSourceBlank c with
  | false => rfl
  | true =>
      have refused : isIdentifierStart c = false := by
        rw [← Char.ofNat_toNat c]
        by_cases space : 0x2000 ≤ c.toNat ∧ c.toNat ≤ 0x200B
        · have shifted := isIdentifierStart_ofNat_blank.2 (c.toNat - 0x2000) (by omega)
          rwa [Nat.add_sub_cancel' space.1] at shifted
        · apply isIdentifierStart_ofNat_blank.1
          simp only [isSourceBlank, Bool.or_eq_true, Bool.and_eq_true, beq_iff_eq,
            decide_eq_true_eq] at blank
          simp only [List.mem_cons, List.not_mem_nil, or_false]
          omega
      rw [start] at refused
      cases refused

/-! ## Words -/

/-- An automaton that goes on up to the end of a text goes on behind it. -/
theorem run_append {σ : Type} {step : σ → Char → Step σ} {state last : σ} {text : List Char}
    {offset : Nat} {after : Rest} (ended : run step state text offset = .ended last after)
    (chars : List Char) (start : Nat) :
    run step state (text ++ chars) start = run step last chars (start + byteLength text) := by
  induction text generalizing state offset start with
  | nil =>
      cases ended
      rfl
  | cons c text ih =>
      rw [run] at ended
      rw [List.cons_append, run]
      cases stepped : step state c with
      | next state =>
          simp only [stepped] at ended
          simp only [ih ended (start + c.utf8Size), byteLength, Nat.add_assoc]
      | done | stop | refuse =>
          simp only [stepped] at ended
          cases ended

/-- The name that a text stands for if it is one word from its first character to its last, and
whether it is spelled with escapes. -/
def word? (text : List Char) : Option (String × Bool) :=
  match text, run WordState.step .start text 0 with
  | _ :: _, .ended last _ => last.finish?
  | _, _ => none

/-- A whole word is something, and is read to its end. -/
theorem word?_cases {text : List Char} {word : String × Bool} (whole : word? text = some word) :
    text ≠ [] ∧ ∃ last after, run WordState.step .start text 0 = .ended last after ∧
      last.finish? = some word := by
  unfold word? at whole
  split at whole
  case h_1 c rest last after ended => exact ⟨List.cons_ne_nil c rest, last, after, ended, whole⟩
  case h_2 => cases whole

/-- A whole word begins as a word does. -/
theorem begins_of_word? {c : Char} {text : List Char} {word : String × Bool}
    (whole : word? (c :: text) = some word) : isIdentifierStart c = true ∨ c = '\\' := by
  obtain ⟨_, last, after, ended, _⟩ := word?_cases whole
  by_cases escape : c = '\\'
  · exact .inr escape
  · cases start : isIdentifierStart c with
    | true => exact .inl rfl
    | false => simp [run, WordState.step, WordState.start, escape, start] at ended

/-- Characters that may follow in a word are read on. -/
theorem run_wordStep (word : List Char) (offset : Nat) (read : List Char) (escaped : Bool)
    (begun : read ≠ []) (parts : word.all isIdentifierPart = true) :
    ∃ after, run WordState.step ⟨.plain, read, escaped⟩ word offset =
      .ended ⟨.plain, word.reverse ++ read, escaped⟩ after := by
  induction word generalizing read offset with
  | nil => exact ⟨_, rfl⟩
  | cons c word ih =>
      simp only [List.all_cons, Bool.and_eq_true] at parts
      have noEscape : c ≠ '\\' := by
        intro same
        rw [same] at parts
        exact absurd parts.1 (by decide_cbv)
      have step : WordState.step ⟨.plain, read, escaped⟩ c =
          .next ⟨.plain, c :: read, escaped⟩ := by
        simp [WordState.step, noEscape, begun, parts.1]
      obtain ⟨after, ended⟩ := ih (offset + c.utf8Size) (c :: read) (by simp) parts.2
      exact ⟨after, by simp [run, step, ended]⟩

/-- The characters of a word stand for themselves. -/
theorem word?_of_isWordText {name : String} (valid : isWordText name.toList = true) :
    word? name.toList = some (name, false) := by
  obtain ⟨word, rfl⟩ : ∃ word, name = String.ofList word := ⟨name.toList, String.ofList_toList.symm⟩
  rw [String.toList_ofList] at valid ⊢
  cases word with
  | nil => cases valid
  | cons c word =>
      simp only [isWordText, Bool.and_eq_true] at valid
      have noEscape : c ≠ '\\' := ne_of_isIdentifierStart valid.1 (by decide_cbv)
      have first : WordState.step .start c = .next ⟨.plain, [c], false⟩ := by
        simp [WordState.step, WordState.start, noEscape, valid.1]
      obtain ⟨after, ended⟩ := run_wordStep word (0 + c.utf8Size) [c] false (by simp) valid.2
      have whole : run WordState.step .start (c :: word) 0 =
          .ended ⟨.plain, word.reverse ++ [c], false⟩ after := by
        rw [run, first]
        exact ended
      simp only [word?, whole, WordState.finish?, List.reverse_append, List.reverse_reverse,
        List.reverse_singleton, List.singleton_append]

/-- A word is read up to where it ends. -/
theorem readWord_append {text chars : List Char} {name : String} {escaped : Bool}
    (whole : word? text = some (name, escaped)) (ends : endsWord chars = true) (offset : Nat) :
    readWord ⟨text ++ chars, offset⟩ = some (name, escaped, ⟨chars, offset + byteLength text⟩) := by
  obtain ⟨_, last, after, ended, finished⟩ := word?_cases whole
  rw [readWord, Rest.run, run_append ended]
  cases chars with
  | nil => simp [run, finished]
  | cons d chars =>
      simp only [endsWord, Bool.and_eq_true, Bool.not_eq_true', bne_iff_ne] at ends
      have noStart : isIdentifierStart d = false := by
        cases start : isIdentifierStart d with
        | false => rfl
        | true => exact absurd (isIdentifierPart_of_start start) (by simp [ends.1])
      have stopped : last.step d = .stop last := by
        unfold WordState.finish? at finished
        split at finished
        case h_1 plain => simp [WordState.step, plain, ends.1, ends.2, noStart]
        case h_2 => cases finished
      simp [run, stopped, finished]

/-! ## Scanning -/

/-- A token of the given kind on the same line as the token before it, with no comment before it,
the given text behind it and no fault in it. -/
structure Scanned.Plain (scanned : Scanned) (kind : Kind) (chars : List Char) : Prop where
  kind_eq : scanned.token.kind = kind
  afterBreak : scanned.token.afterBreak = false
  leading : scanned.token.leading = []
  promises : scanned.token.promises = []
  chars_eq : scanned.rest.chars = chars
  faults : scanned.faults = []

/-- A text begins with a token, wherever it stands. -/
def Begins (chars : List Char) (kind : Kind) (after : List Char) : Prop :=
  ∀ beginning previous offset, (scanToken beginning previous ⟨chars, offset⟩).Plain kind after

/-- A blank before a token is passed. -/
theorem Begins.space {chars after : List Char} {kind : Kind} (begins : Begins chars kind after) :
    Begins (' ' :: chars) kind after :=
  fun beginning previous offset => begins beginning previous (offset + 1)

/-- These marks are read whatever stands behind them. -/
theorem begins_mark (text : String) (chars : List Char)
    (known : text ∈ ["(", ")", "\x7b", "\x7d", ",", ":", "=>"]) :
    Begins (text.toList ++ chars) (.mark text) chars := by
  simp only [List.mem_cons, List.not_mem_nil, or_false] at known
  rcases known with rfl | rfl | rfl | rfl | rfl | rfl | rfl <;>
    exact fun _ _ _ => ⟨rfl, rfl, rfl, rfl, rfl, rfl⟩

theorem begins_stop : Begins [] .stop [] :=
  fun _ _ _ => ⟨rfl, rfl, rfl, rfl, rfl, rfl⟩

/-- A word stands right behind a gap. -/
theorem readGap_of_start (trails : Bool) (gap : Gap) (offset : Nat) {c : Char} (chars : List Char)
    (begins : isIdentifierStart c = true ∨ c = '\\') :
    readGap trails .between gap offset (c :: chars) = ⟨gap, ⟨c :: chars, offset⟩, none⟩ := by
  have noSlash : c ≠ '/' := by
    rcases begins with start | rfl
    · exact ne_of_isIdentifierStart start (by decide_cbv)
    · decide
  have noBreak : isLineBreak c = false := by
    rcases begins with start | rfl
    · exact isLineBreak_of_start start
    · decide
  have noBlank : isSourceBlank c = false := by
    rcases begins with start | rfl
    · exact isSourceBlank_of_start start
    · decide
  rw [readGap]
  · simp [noBreak, noBlank]
  · exact fun _ same => absurd same noSlash
  · exact fun _ same => absurd same noSlash

/-- A word is scanned up to where it ends. -/
theorem scanToken_word {text chars : List Char} {name : String} {escaped : Bool}
    (whole : word? text = some (name, escaped)) (ends : endsWord chars = true) (beginning : Bool)
    (previous : Kind) (offset : Nat) :
    scanToken beginning previous ⟨text ++ chars, offset⟩ =
      Reading.place ⟨.word name, escaped, ⟨chars, offset + byteLength text⟩, []⟩ offset
        (.empty beginning) [] := by
  have read := readWord_append whole ends offset
  cases text with
  | nil => exact absurd rfl (word?_cases whole).1
  | cons c text =>
      have begins := begins_of_word? whole
      have reading : readToken ⟨c :: text ++ chars, offset⟩ =
          ⟨.word name, escaped, ⟨chars, offset + byteLength (c :: text)⟩, []⟩ := by
        rw [readToken, read]
        simp [begins]
      rw [scanToken, scanWith, List.cons_append, readGap_of_start _ _ _ _ begins]
      rw [← List.cons_append, reading]
      rfl

theorem begins_word {text chars : List Char} {name : String} {escaped : Bool}
    (whole : word? text = some (name, escaped)) (ends : endsWord chars = true) :
    Begins (text ++ chars) (.word name) chars := by
  intro beginning previous offset
  rw [scanToken_word whole ends]
  exact ⟨rfl, rfl, rfl, rfl, rfl, rfl⟩

/-- A name is scanned as a word. -/
theorem begins_name (name : String) (chars : List Char) (valid : isWordText name.toList = true)
    (ends : endsWord chars = true) : Begins (name.toList ++ chars) (.word name) chars :=
  begins_word (word?_of_isWordText valid) ends

end LoopTemplate.Token
