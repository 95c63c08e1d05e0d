import LoopTemplate.Loop.Capture
import LoopTemplate.Proofs.Reading.Cursor

/-!
# Reading attribute names

A valid attribute name is read as the attribute of that name. The first word that is scanned of a
part ends at its first dash; the reader of names goes on from there to the end of the part.
-/

namespace LoopTemplate.Grammar

open LoopTemplate.Loop (beginsAttributeName continuesAttributeName isAttributeName isAttributePart
  spells splitColon)
open LoopTemplate.Text (byteLength isAsciiDigit isAsciiLetter isIdentifierPart isIdentifierStart)
open LoopTemplate.Token (Begins Kind Rest begins_mark begins_name endsWord extendName isWordText)
open LoopTemplate.Tree (AttributeName)

/-! ## Parts of names -/

theorem toNat_lt_of_isAsciiLetter {c : Char} (letter : isAsciiLetter c = true) :
    c.toNat < 0x80 := by
  simp only [isAsciiLetter, Bool.or_eq_true, Bool.and_eq_true, decide_eq_true_eq] at letter
  rcases letter with ⟨_, upper⟩ | ⟨_, upper⟩
  · exact Nat.lt_of_le_of_lt upper (by decide)
  · exact Nat.lt_of_le_of_lt upper (by decide)

theorem isIdentifierStart_of_begins {c : Char} (begins : beginsAttributeName c = true) :
    isIdentifierStart c = true := by
  simp only [beginsAttributeName, Bool.or_eq_true, beq_iff_eq] at begins
  rcases begins with letter | rfl
  · simp [isIdentifierStart, toNat_lt_of_isAsciiLetter letter, letter]
  · decide

/-- A character of an attribute name is one of identifiers, or a dash. -/
theorem isIdentifierPart_of_continues {c : Char} (continues : continuesAttributeName c = true) :
    isIdentifierPart c = true ∨ c = '-' := by
  simp only [continuesAttributeName, Bool.or_eq_true, beq_iff_eq] at continues
  rcases continues with ((letter | digit) | rfl) | rfl
  · simp [isIdentifierPart, toNat_lt_of_isAsciiLetter letter, letter]
  · have small : c.toNat < 0x80 := by
      simp only [isAsciiDigit, Bool.and_eq_true, decide_eq_true_eq] at digit
      exact Nat.lt_of_le_of_lt digit.2 (by decide)
    simp [isIdentifierPart, small, digit]
  · exact .inl (by decide)
  · exact .inr rfl

/-- Whether a text cannot go on with a name inside a tag. -/
def endsName : List Char → Bool
  | [] => true
  | c :: chars => endsWord (c :: chars) && c != '-'

/-- A run that a predicate accepts is taken up to where it ends. -/
theorem span_append (accept : Char → Bool) (run chars : List Char) (offset : Nat)
    (accepted : run.all accept = true) (ends : ∀ c ∈ chars.head?, accept c = false) :
    Rest.span accept (run ++ chars) offset = (run, ⟨chars, offset + byteLength run⟩) := by
  induction run generalizing offset with
  | nil =>
      cases chars with
      | nil => rfl
      | cons c chars => simp [Rest.span, ends c (by simp), byteLength]
  | cons c run ih =>
      simp only [List.all_cons, Bool.and_eq_true] at accepted
      simp [Rest.span, accepted.1, ih _ accepted.2, byteLength, Nat.add_assoc]

/-- The characters that names inside tags are made of. -/
def inTagName (c : Char) : Bool := isIdentifierPart c || c == '-'

/-- A part of an attribute name begins with a word, which is read on to the end of the part. -/
theorem begins_part {part chars : List Char} (valid : isAttributePart part = true)
    (ends : endsName chars = true) :
    ∃ word more : List Char, part = word ++ more ∧ more.all inTagName = true ∧
      Begins (part ++ chars) (.word (String.ofList word)) (more ++ chars) := by
  cases part with
  | nil => cases valid
  | cons c part =>
      simp only [isAttributePart, Bool.and_eq_true, List.all_eq_true] at valid
      have split := List.takeWhile_append_dropWhile (p := isIdentifierPart) (l := part)
      have inside : ∀ d ∈ part.dropWhile isIdentifierPart, isIdentifierPart d = true ∨ d = '-' :=
        fun d member => isIdentifierPart_of_continues
          (valid.2 d ((List.dropWhile_sublist isIdentifierPart).subset member))
      refine ⟨c :: part.takeWhile isIdentifierPart, part.dropWhile isIdentifierPart, ?_, ?_, ?_⟩
      · rw [List.cons_append, split]
      · simpa [inTagName, List.all_eq_true] using inside
      · have word : isWordText (c :: part.takeWhile isIdentifierPart) = true := by
          simp [isWordText, isIdentifierStart_of_begins valid.1, List.all_takeWhile]
        have stops : endsWord (part.dropWhile isIdentifierPart ++ chars) = true := by
          cases more : part.dropWhile isIdentifierPart with
          | nil =>
              cases chars with
              | nil => rfl
              | cons d chars => exact (Bool.and_eq_true_iff.1 ends).1
          | cons d more' =>
              have refused : isIdentifierPart d = false := by
                have some : part.dropWhile isIdentifierPart ≠ [] := by simp [more]
                simpa [more] using List.head_dropWhile_not isIdentifierPart some
              have dash : d = '-' := by
                simpa [refused] using inside d (by simp [more])
              subst dash
              have ends : (!isIdentifierPart '-' && '-' != '\\') = true := by decide_cbv
              exact ends
        have begins := begins_name (String.ofList (c :: part.takeWhile isIdentifierPart))
          (part.dropWhile isIdentifierPart ++ chars) (by rwa [String.toList_ofList]) stops
        rw [String.toList_ofList, ← List.append_assoc, List.cons_append, split] at begins
        exact begins

/-- The cursor is on the first word of a part of a name, before the given text. -/
def Cursor.OnPart (cursor : Cursor) (part chars : List Char) : Prop :=
  ∃ word more : List Char, part = word ++ more ∧ more.all inTagName = true ∧
    cursor.At (.word (String.ofList word)) (more ++ chars)

/-- A part of a name is read to its end. -/
theorem run_parseTagWord {cursor : Cursor} {part chars : List Char} (on : cursor.OnPart part chars)
    (ends : endsName chars = true) :
    ∃ whole : Cursor, parseTagWord cursor = .ok (String.ofList part, whole.next) ∧
      whole.At (.word (String.ofList part)) chars ∧ (cursor.Sound → whole.Sound) := by
  obtain ⟨word, more, rfl, accepted, stands⟩ := on
  have refused : ∀ c ∈ chars.head?, inTagName c = false := by
    intro c member
    cases chars with
    | nil => cases member
    | cons d chars =>
        obtain rfl : d = c := by simpa using member
        simp only [endsName, endsWord, Bool.and_eq_true, Bool.not_eq_true', bne_iff_ne] at ends
        simp [inTagName, ends.1.1, ends.2]
  have extended : extendName (String.ofList word) cursor.rest =
      (String.ofList (word ++ more), ⟨chars, cursor.rest.offset + byteLength more⟩) := by
    have taken := span_append inTagName more chars cursor.rest.offset accepted refused
    rw [← stands.chars_eq] at taken
    simp only [extendName, Rest.takeWhile]
    change (String.ofList word ++ String.ofList (Rest.span inTagName _ _).1,
      (Rest.span inTagName _ _).2) = _
    rw [taken, String.ofList_append]
  let whole : Cursor := cursor.replace
    ⟨{ cursor.token with
        kind := .word (String.ofList (word ++ more))
        stop := cursor.rest.offset + byteLength more },
      ⟨chars, cursor.rest.offset + byteLength more⟩, []⟩
  refine ⟨whole, ?_, ⟨⟨rfl, stands.afterBreak, stands.promises⟩, rfl⟩, ?_⟩
  · simp [parseTagWord, stands.kind_eq, extended, whole]
  · intro sound
    rw [Cursor.sound_iff] at sound ⊢
    exact ⟨by simp [whole, Cursor.replace, sound.1], sound.2⟩

/-! ## Whole names -/

/-- The attribute of a given name. -/
def attributeNameOf (name : List Char) : AttributeName :=
  match splitColon name with
  | none => .plain (String.ofList name)
  | some (space, name) => .namespaced (String.ofList space) (String.ofList name)

theorem spells_attributeNameOf (name : String) :
    spells (attributeNameOf name.toList) name = true := by
  unfold attributeNameOf
  cases split : splitColon name.toList with
  | none => simp [spells]
  | some parts => simp [spells, split]

/-- A valid name is one part, or two of them with a colon between them. -/
theorem isAttributeName_cases {name : List Char} (valid : isAttributeName name = true) :
    (splitColon name = none ∧ isAttributePart name = true) ∨
      ∃ space part, splitColon name = some (space, part) ∧ name = space ++ ':' :: part ∧
        isAttributePart space = true ∧ isAttributePart part = true := by
  unfold isAttributeName at valid
  unfold splitColon
  have split := List.takeWhile_append_dropWhile (p := (· != ':')) (l := name)
  cases rest : name.dropWhile (· != ':') with
  | nil => exact .inl ⟨rfl, by simpa [rest] using valid⟩
  | cons c part =>
      have colon : c = ':' := by
        have some : name.dropWhile (· != ':') ≠ [] := by simp [rest]
        simpa [rest] using List.head_dropWhile_not (· != ':') some
      subst colon
      simp only [rest, Bool.and_eq_true] at valid
      exact .inr ⟨_, part, rfl, by rw [← rest, split], valid.1, valid.2⟩

theorem endsName_cons (c : Char) (chars : List Char) (mark : c ∈ [':', '=', ' ', '>']) :
    endsName (c :: chars) = true := by
  have none : [':', '=', ' ', '>'].all
      (fun c => !isIdentifierPart c && c != '\\' && c != '-') = true := by decide_cbv
  exact List.all_eq_true.1 none c mark

section Name

variable {cursor : Cursor} {kind : Kind} {name rest : List Char}
  (valid : isAttributeName name = true) (stands : cursor.At kind (' ' :: (name ++ '=' :: rest)))
include valid stands

/-- The token behind a blank is the first word of the name. -/
theorem next_onPart :
    ∃ part chars, cursor.next.OnPart part chars ∧ endsName chars = true ∧
      (cursor.Sound → cursor.next.Sound) ∧
      (splitColon name = none ∧ part = name ∧ chars = '=' :: rest ∨
        ∃ other, splitColon name = some (part, other) ∧ isAttributePart other = true ∧
          chars = ':' :: (other ++ '=' :: rest)) := by
  rcases isAttributeName_cases valid with
    ⟨whole, part⟩ | ⟨space, part, split, rfl, spaceValid, partValid⟩
  · obtain ⟨word, more, eq, accepted, begins⟩ :=
      begins_part part (endsName_cons '=' rest (by decide))
    exact ⟨name, '=' :: rest, ⟨word, more, eq, accepted, stands.next begins.space⟩,
      endsName_cons '=' rest (by decide), fun sound => sound.next stands begins.space,
      .inl ⟨whole, rfl, rfl⟩⟩
  · obtain ⟨word, more, eq, accepted, begins⟩ :=
      begins_part spaceValid (endsName_cons ':' (part ++ '=' :: rest) (by decide))
    rw [List.append_assoc, List.cons_append] at stands
    exact ⟨space, _, ⟨word, more, eq, accepted, stands.next begins.space⟩,
      endsName_cons ':' _ (by decide), fun sound => sound.next stands begins.space,
      .inr ⟨part, split, partValid, rfl⟩⟩

theorem next_isWord : ∃ word, cursor.next.token.kind = .word word := by
  obtain ⟨part, chars, ⟨word, more, _, _, on⟩, _⟩ := next_onPart valid stands
  exact ⟨_, on.kind_eq⟩

/-- A name before `=` is read as the attribute of that name. -/
theorem run_parseAttributeName (equals : Begins ('=' :: rest) (.mark "=") rest) :
    ∃ after, parseAttributeName cursor.next = .ok (attributeNameOf name, after) ∧
      after.At (.mark "=") rest ∧ (cursor.Sound → after.Sound) := by
  obtain ⟨part, chars, on, ends, sound, shape⟩ := next_onPart valid stands
  obtain ⟨first, read, firstAt, firstSound⟩ := run_parseTagWord on ends
  rcases shape with ⟨whole, rfl, rfl⟩ | ⟨other, split, otherValid, rfl⟩
  · have after := firstAt.next equals
    refine ⟨first.next, ?_, after, fun started => (firstSound (sound started)).next firstAt equals⟩
    simp [parseAttributeName, read, after.kind_eq, Kind.isMark, attributeNameOf, whole]
  · have colonBegins := begins_mark ":" (other ++ '=' :: rest) (by decide)
    have colon := firstAt.next colonBegins
    obtain ⟨word, more, eq, accepted, begins⟩ :=
      begins_part otherValid (endsName_cons '=' rest (by decide))
    have onOther : first.next.next.OnPart other ('=' :: rest) :=
      ⟨word, more, eq, accepted, colon.next begins⟩
    obtain ⟨second, secondRead, secondAt, secondSound⟩ :=
      run_parseTagWord onOther (endsName_cons '=' rest (by decide))
    refine ⟨second.next, ?_, secondAt.next equals, ?_⟩
    · simp [parseAttributeName, read, colon.kind_eq, Kind.isMark, attributeNameOf, split,
        secondRead]
    · intro started
      have atColon := (firstSound (sound started)).next firstAt colonBegins
      exact (secondSound (atColon.next colon begins)).next secondAt equals

end Name

end LoopTemplate.Grammar
