import LoopTemplate.Proofs.Reading.Snippet

/-!
# Reading an element with one attribute

The text of an element with a value in quotes for its only attribute and no children is read as that
element, whatever its tag is.
-/

namespace LoopTemplate.Grammar

open LoopTemplate.Loop (depthBound_eq isAttributeName isAttributePart parseCode readExpression_eq)
open LoopTemplate.Token (Begins Kind begins_stop)
open LoopTemplate.Tree (Node)

/-- The text of an element with one attribute and no children. -/
def elementText (tag name text : String) : String :=
  "<" ++ tag ++ " " ++ name ++ "=\"" ++ text ++ "\" />"

/-- An element with one attribute and no children. -/
def singleElement (outer start inner : Nat) (tag name text : String) : Node :=
  .mk outer .element [.mk outer (.opening (.plain tag) true)
    [quotedAttribute start inner name.toList text.toList]]

/-- The element is read from its tag on. -/
theorem run_parseMarkup_single {cursor : Cursor} {tag name text : List Char}
    (tagValid : isAttributePart tag = true) (valid : isAttributeName name = true)
    (bare : '"' ∉ text) (opens : cursor.At (.mark "<")
      (tag ++ ' ' :: (name ++ '=' :: '"' :: (text ++ '"' :: [' ', '/', '>']))))
    (self : Rules) (context : Context) :
    ∃ (outer start inner : Nat) (after : Cursor),
      parseMarkup self context false cursor =
        .ok (.mk outer .element [.mk outer (.opening (.plain (String.ofList tag)) true)
          [quotedAttribute start inner name text]], after) ∧
      after.At .stop [] ∧ (cursor.Sound → after.Sound) := by
  have endsTag :=
    endsName_cons ' ' (name ++ '=' :: '"' :: (text ++ '"' :: [' ', '/', '>'])) (by decide)
  obtain ⟨word, more, tag_eq, accepted, tagBegins⟩ := begins_part tagValid endsTag
  have tagAt := opens.next tagBegins
  obtain ⟨whole, read, wholeAt, wholeSound⟩ :=
    run_parseTagWord ⟨word, more, tag_eq, accepted, tagAt⟩ endsTag
  obtain ⟨first, isWord⟩ := next_isWord valid wholeAt
  have tagRead := run_parseTagName read (by rw [isWord]; rfl) (by rw [isWord]; rfl)
  obtain ⟨inner, closing, attributeRead, closes, sound⟩ :=
    run_parseAttribute_quoted valid bare wholeAt self context
  have slashBegins : Begins [' ', '/', '>'] (.mark "/") ['>'] :=
    fun _ _ _ => ⟨rfl, rfl, rfl, rfl, rfl, rfl⟩
  have slash := closes.next slashBegins
  have endBegins : Begins ['>'] (.mark ">") [] := fun _ _ _ => ⟨rfl, rfl, rfl, rfl, rfl, rfl⟩
  have ends := slash.next endBegins
  have attributes : parseAttributes self context whole.next = _ :=
    (Collected.more (run_attributeStep isWord attributeRead)
      (.done (run_attributeStep_end (by decide) slash.kind_eq self context))).run_loop []
        (whole.next.rest.chars.length + 2) (by simp)
  refine ⟨cursor.token.start, whole.next.token.start, inner, closing.next.next.next, ?_,
    ends.next begins_stop, ?_⟩
  · simp [parseMarkup, tagAt.kind_eq, parseElement, tagRead, attributes, slash.kind_eq,
      ends.kind_eq, Kind.isMark, expectMarkupEnd, quotedAttribute]
  · intro started
    have atSlash := (sound (wholeSound (started.next opens tagBegins))).next closes slashBegins
    exact (atSlash.next slash endBegins).next ends begins_stop

/-- The text of an element with one attribute is read as that element. -/
theorem readExpression_elementText {tag name text : String}
    (tagValid : isAttributePart tag.toList = true)
    (valid : isAttributeName name.toList = true) (bare : '"' ∉ text.toList) :
    ∃ outer start inner,
      readExpression (elementText tag name text).toList =
        .ok (singleElement outer start inner tag name text) := by
  have shown : (elementText tag name text).toList = '<' :: (tag.toList ++
      ' ' :: (name.toList ++ '=' :: '"' :: (text.toList ++ '"' :: [' ', '/', '>']))) := by
    simp [elementText]
  have begins : Begins (elementText tag name text).toList (.mark "<") (tag.toList ++
      ' ' :: (name.toList ++ '=' :: '"' :: (text.toList ++ '"' :: [' ', '/', '>']))) := by
    rw [shown]
    cases chars : tag.toList with
    | nil => simp [chars, isAttributePart] at tagValid
    | cons c chars' =>
        rw [chars, isAttributePart, Bool.and_eq_true] at tagValid
        exact begins_tag (isIdentifierStart_of_begins tagValid.1) _
  have opens := Cursor.at_first begins
  obtain ⟨depth, bound⟩ := depthBound_eq (elementText tag name text).toList
  obtain ⟨outer, start, inner, after, read, stops, sound⟩ :=
    run_parseMarkup_single tagValid valid bare opens (grammar (depth + 3)) .module
  have parsed := run_parseExpression_markup opens.toPlain read stops.kind_eq
  rw [← bound] at parsed
  have fault : firstFault? after = none := sound (Cursor.sound_first begins)
  refine ⟨outer, start, inner, ?_⟩
  rw [readExpression_eq, parseCode, parsed]
  simp [fault, singleElement]

end LoopTemplate.Grammar
