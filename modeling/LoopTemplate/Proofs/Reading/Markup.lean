import LoopTemplate.Proofs.Reading.AttributeName
import LoopTemplate.Proofs.Reading.Parameters

/-!
# Reading a loop element

The text of an element with a value in braces for its first attribute, values in quotes for two
more and no children is read as that element. What stands behind the first attribute does not
matter for that attribute: whatever element is read, it is the first of its attributes.
-/

namespace LoopTemplate.Grammar

open LoopTemplate.Loop (isAttributeName)
open LoopTemplate.Text (byteLength isAsciiDigit isIdentifierStart)
open LoopTemplate.Token (Begins Kind Rest Scanned begins_mark begins_name begins_stop markAt marks
  ne_of_isIdentifierStart readMarkupValue readToken scanChild scanMarkupValue scanToken)
open LoopTemplate.Tree (Level Node TagName UnaryOperator UpdateOperator)

/-! ## Tokens inside tags -/

namespace Cursor

/-- The cursor on the value behind `=`. -/
def toValue (cursor : Cursor) : Cursor :=
  cursor.move (scanMarkupValue cursor.token.kind cursor.rest)

/-- The cursor on the next token between tags. -/
def toChild (cursor : Cursor) : Cursor := cursor.move (scanChild cursor.rest)

end Cursor

@[simp] theorem run_advanceToValue (cursor : Cursor) :
    advanceToValue cursor = .ok ((), cursor.toValue) := rfl

@[simp] theorem run_advanceInChild (cursor : Cursor) :
    advanceInChild cursor = .ok ((), cursor.toChild) := rfl

/-- A brace opens a value. -/
theorem plain_braceValue (previous : Kind) (chars : List Char) (offset : Nat) :
    (scanMarkupValue previous ⟨'\x7b' :: chars, offset⟩).Plain (.mark "\x7b") chars :=
  ⟨rfl, rfl, rfl, rfl, rfl, rfl⟩

/-- A value between quotes is kept as it is written. -/
theorem plain_quotedValue (previous : Kind) (text chars : List Char) (offset : Nat)
    (bare : '"' ∉ text) :
    (scanMarkupValue previous ⟨'"' :: (text ++ '"' :: chars), offset⟩).Plain
      (.markupValue (String.ofList text)) chars := by
  have accepted : text.all (fun c => c ≠ '"') = true := by
    simp only [List.all_eq_true, decide_eq_true_eq]
    intro c member same
    exact bare (same ▸ member)
  have taken := span_append (fun c => c ≠ '"') text ('"' :: chars) (offset + '"'.utf8Size) accepted
    (by simp)
  have reading : readMarkupValue ⟨'"' :: (text ++ '"' :: chars), offset⟩ =
      .plain (.markupValue (String.ofList text))
        ⟨chars, offset + '"'.utf8Size + byteLength text + '"'.utf8Size⟩ := by
    simp only [readMarkupValue, Rest.drop, Rest.takeWhile, decide_true, Bool.true_or, if_true,
      taken]
  have scanned : scanMarkupValue previous ⟨'"' :: (text ++ '"' :: chars), offset⟩ =
      (readMarkupValue ⟨'"' :: (text ++ '"' :: chars), offset⟩).place offset (.empty false) [] :=
    rfl
  rw [scanned, reading]
  exact ⟨rfl, rfl, rfl, rfl, rfl, rfl⟩

/-- A tag opens between tags. -/
theorem plain_childTag (chars : List Char) (offset : Nat) :
    (scanChild ⟨'<' :: chars, offset⟩).Plain (.mark "<") chars :=
  ⟨rfl, rfl, rfl, rfl, rfl, rfl⟩

/-- A tag opens an expression. -/
theorem begins_tag {c : Char} (start : isIdentifierStart c = true) (chars : List Char) :
    Begins ('<' :: c :: chars) (.mark "<") (c :: chars) := by
  intro beginning previous offset
  have notShift : c ≠ '<' := ne_of_isIdentifierStart start (by decide_cbv)
  have notEqual : c ≠ '=' := ne_of_isIdentifierStart start (by decide_cbv)
  -- The longer marks that begin with this one go on as no word begins.
  have mark : markAt ⟨'<' :: c :: chars, offset⟩ = some "<" := by
    simp [markAt, marks, Rest.startsWith, List.isPrefixOf, notShift.symm, notEqual.symm]
  have reading : readToken ⟨'<' :: c :: chars, offset⟩ =
      .plain (.mark "<") (Rest.drop ⟨'<' :: c :: chars, offset⟩ "<".length) := by
    have noWord : isIdentifierStart '<' = false := by decide_cbv
    have noDigit : isAsciiDigit '<' = false := by decide_cbv
    simp [readToken, mark, noWord, noDigit]
  have scanned : scanToken beginning previous ⟨'<' :: c :: chars, offset⟩ =
      (readToken ⟨'<' :: c :: chars, offset⟩).place offset (.empty beginning) [] := rfl
  rw [scanned, reading]
  exact ⟨rfl, rfl, rfl, rfl, rfl, rfl⟩

/-! ## Attributes -/

/-- A number before the end of an expression is the whole expression. -/
theorem run_parseAssignment_number {cursor : Cursor} {value : Number.Double} {style : String}
    (shown : cursor.Plain (.number value style)) (ends : Ends cursor.next.token.kind) (self : Rules)
    (context : Context) :
    parseAssignment self context cursor =
      .ok (.mk cursor.token.start (.number value) [], cursor.next) := by
  have primary : parsePrimary self context cursor =
      .ok (.mk cursor.token.start (.number value) [], cursor.next) := by
    simp [parsePrimary, shown.kind_eq]
  refine run_parseAssignment_of_primary ?_ primary ends
  exact
    { notYield := by simp [atYield, shown.kind_eq, Kind.isWord]
      notAwait := by simp [atAwait, shown.kind_eq, Kind.isWord]
      noArrow := by simp [asyncArrow?, shown.kind_eq, Kind.isWord]
      notNew := by rw [shown.kind_eq]; rfl
      noUnary := by simp [unaryOperator?, shown.kind_eq]
      noUpdate := by simp [updateOperator?, shown.kind_eq]
      notOpen := by rw [shown.kind_eq]; rfl
      notTag := by rw [shown.kind_eq]; rfl
      notPrivate := by simp [shown.kind_eq]
      promises := shown.promises }

/-- The number that stands where the collection of a loop is put in. -/
def placeholder (start : Nat) : Node := .mk start (.number (.ofNat 0)) []

section Attribute

variable {cursor : Cursor} {kind : Kind} {name : List Char} (valid : isAttributeName name = true)
include valid

/-- A number in braces is the value of an attribute. -/
theorem run_parseAttribute_number {chars : List Char}
    (stands : cursor.At kind (' ' :: (name ++ '=' :: '\x7b' :: '0' :: '\x7d' :: ' ' :: chars)))
    (context : Context) (depth : Nat) :
    ∃ (inner place : Nat) (closing : Cursor),
      parseAttribute (grammar (depth + 1)) context cursor.next =
        .ok (.mk cursor.next.token.start (.attribute (attributeNameOf name))
          [.mk inner .container [placeholder place]], closing.next) ∧
      closing.At (.mark "\x7d") (' ' :: chars) ∧ (cursor.Sound → closing.Sound) := by
  have equals : Begins ('=' :: '\x7b' :: '0' :: '\x7d' :: ' ' :: chars) (.mark "=")
      ('\x7b' :: '0' :: '\x7d' :: ' ' :: chars) := fun _ _ _ => ⟨rfl, rfl, rfl, rfl, rfl, rfl⟩
  have number : Begins ('0' :: '\x7d' :: ' ' :: chars) (.number (.ofNat 0) "decimal")
      ('\x7d' :: ' ' :: chars) := fun _ _ _ => ⟨rfl, rfl, rfl, rfl, rfl, rfl⟩
  obtain ⟨word, isWord⟩ := next_isWord valid stands
  obtain ⟨after, nameRead, equal, sound⟩ := run_parseAttributeName valid stands equals
  have brace : after.toValue.At (.mark "\x7b") _ :=
    after.at_move (equal.scanned (plain_braceValue after.token.kind _))
  have digit := brace.next number
  have closeBegins := begins_mark "\x7d" (' ' :: chars) (by decide)
  have closes := digit.next closeBegins
  have value : grammar (depth + 1) .assignment context.withIn after.toValue.next = _ :=
    run_parseAssignment_number digit.toPlain (.inr (.inr (.inl closes.kind_eq))) (grammar depth)
      context.withIn
  have whole := run_parseExpression value (by rw [closes.kind_eq]; rfl)
  refine ⟨after.toValue.token.start, after.toValue.next.token.start, after.toValue.next.next, ?_,
    closes, ?_⟩
  · simp [parseAttribute, isWord, Kind.isMark, nameRead, equal.kind_eq, parseAttributeValue,
      brace.kind_eq, digit.kind_eq, whole, closes.kind_eq, placeholder]
  · intro started
    have atBrace : after.toValue.Sound :=
      (sound started).move (equal.scanned (plain_braceValue after.token.kind _))
    exact (atBrace.next brace number).next digit closeBegins

/-- A text in quotes is the value of an attribute. -/
theorem run_parseAttribute_quoted {text chars : List Char} (bare : '"' ∉ text)
    (stands : cursor.At kind (' ' :: (name ++ '=' :: '"' :: (text ++ '"' :: chars))))
    (self : Rules) (context : Context) :
    ∃ (inner : Nat) (closing : Cursor),
      parseAttribute self context cursor.next =
        .ok (.mk cursor.next.token.start (.attribute (attributeNameOf name))
          [.mk inner (.quoted (String.ofList text)) []], closing.next) ∧
      closing.At (.markupValue (String.ofList text)) chars ∧ (cursor.Sound → closing.Sound) := by
  have equals : Begins ('=' :: '"' :: (text ++ '"' :: chars)) (.mark "=")
      ('"' :: (text ++ '"' :: chars)) := fun _ _ _ => ⟨rfl, rfl, rfl, rfl, rfl, rfl⟩
  obtain ⟨word, isWord⟩ := next_isWord valid stands
  obtain ⟨after, nameRead, equal, sound⟩ := run_parseAttributeName valid stands equals
  have scanned := fun offset => plain_quotedValue after.token.kind text chars offset bare
  have quoted : after.toValue.At (.markupValue (String.ofList text)) chars :=
    after.at_move (equal.scanned scanned)
  refine ⟨after.toValue.token.start, after.toValue, ?_, quoted,
    fun started => (sound started).move (equal.scanned scanned)⟩
  simp [parseAttribute, isWord, Kind.isMark, nameRead, equal.kind_eq, parseAttributeValue,
    quoted.kind_eq]

end Attribute

/-! ## Collecting -/

/-- A step yields the given nodes one after the other, and then none. -/
inductive Collected (step : Parser (Option Node)) : Cursor → List Node → Cursor → Prop where
  | done {cursor after : Cursor} :
      step cursor = .ok (none, after) → Collected step cursor [] after
  | more {cursor next after : Cursor} {node : Node} {nodes : List Node} :
      step cursor = .ok (some node, next) → Collected step next nodes after →
        Collected step cursor (node :: nodes) after

/-- The part of `collect` that is repeated. -/
def collectStep (step : Parser (Option Node)) (found : List Node) :
    Parser (List Node ⊕ List Node) := do
  match ← step with
  | some node => return .inl (node :: found)
  | none => return .inr found.reverse

theorem run_collect (step : Parser (Option Node)) (cursor : Cursor) :
    collect step cursor = loop (collectStep step) (cursor.rest.chars.length + 2) [] cursor := rfl

theorem Collected.run_loop {step : Parser (Option Node)} {cursor after : Cursor} {nodes : List Node}
    (collected : Collected step cursor nodes after) (found : List Node) (bound : Nat)
    (enough : nodes.length < bound) :
    loop (collectStep step) bound found cursor = .ok (found.reverse ++ nodes, after) := by
  induction collected generalizing found bound with
  | done ended =>
      cases bound with
      | zero => cases enough
      | succ bound => simp [loop, collectStep, ended]
  | @more cursor next after node nodes read later ih =>
      cases bound with
      | zero => cases enough
      | succ bound =>
          have rest := ih (node :: found) bound (by simpa using enough)
          simp [loop, collectStep, read, rest]

/-- What was collected before stands at the head of all that is collected. -/
theorem append_of_loop {step : Parser (Option Node)} {bound : Nat} {found nodes : List Node}
    {cursor after : Cursor}
    (read : loop (collectStep step) bound found cursor = .ok (nodes, after)) :
    ∃ more, nodes = found.reverse ++ more := by
  induction bound generalizing found cursor with
  | zero => cases read
  | succ bound ih =>
      simp only [loop, collectStep, Parser.run_bind] at read
      cases stepped : step cursor with
      | error failure => simp [stepped] at read
      | ok result =>
          obtain ⟨node?, next⟩ := result
          cases node? with
          | none =>
              refine ⟨[], ?_⟩
              simp only [stepped, Parser.run_pure] at read
              cases read
              simp
          | some node =>
              simp only [stepped, Parser.run_pure] at read
              obtain ⟨more, same⟩ := ih read
              exact ⟨node :: more, by simpa using same⟩

theorem head_of_collect {step : Parser (Option Node)} {cursor next after : Cursor} {node : Node}
    {nodes : List Node} (first : step cursor = .ok (some node, next))
    (read : collect step cursor = .ok (nodes, after)) : ∃ more, nodes = node :: more := by
  have stepped : collectStep step [] cursor = .ok (.inl [node], next) := by
    simp [collectStep, first]
  rw [run_collect, loop, Parser.run_bind, stepped] at read
  exact append_of_loop read

/-- One attribute, or none where the tag ends. -/
def attributeStep (self : Rules) (context : Context) : Parser (Option Node) := do
  let kind ← kind
  if kind.isMark "<" || kind.isMark ">" || kind.isMark "/" then return none
  else return some (← parseAttribute self context)

theorem run_attributeStep {self : Rules} {context : Context} {cursor after : Cursor} {node : Node}
    {word : String} (isWord : cursor.token.kind = .word word)
    (read : parseAttribute self context cursor = .ok (node, after)) :
    attributeStep self context cursor = .ok (some node, after) := by
  simp [attributeStep, isWord, Kind.isMark, read]

theorem run_attributeStep_end {cursor : Cursor} {text : String} (known : text ∈ [">", "/"])
    (ends : cursor.token.kind = .mark text) (self : Rules) (context : Context) :
    attributeStep self context cursor = .ok (none, cursor) := by
  simp only [List.mem_cons, List.not_mem_nil, or_false] at known
  rcases known with rfl | rfl <;> simp [attributeStep, ends, Kind.isMark]

/-! ## Elements -/

/-- The name of a tag that nothing goes on with. -/
theorem run_parseTagName {cursor whole : Cursor} {name : String}
    (read : parseTagWord cursor = .ok (name, whole.next))
    (noColon : whole.next.token.kind.isMark ":" = false)
    (noDot : whole.next.token.kind.isMark "." = false) :
    parseTagName cursor = .ok (.plain name, whole.next) := by
  simp [parseTagName, read, noColon, noDot]

/-- A name that is one word is read as a whole. -/
theorem onPart_word {cursor : Cursor} {chars : List Char} (word : List Char)
    (stands : cursor.At (.word (String.ofList word)) chars) : cursor.OnPart word chars :=
  ⟨word, [], by simp, rfl, by simpa using stands⟩

/-- An element whose first attribute has the given name and a value in braces. -/
def BlockWith (name : List Char) (node : Node) : Prop :=
  ∃ (outer start inner : Nat) (selfClosing : Bool) (value : Node) (attributes children : List Node),
    node = .mk outer .element
      (.mk outer (.opening (.plain "block") selfClosing)
        (.mk start (.attribute (attributeNameOf name)) [.mk inner .container [value]] ::
          attributes) :: children)

section Element

variable {cursor : Cursor} {name chars : List Char} (valid : isAttributeName name = true)
  (opens : cursor.At (.mark "<")
    ("block".toList ++ ' ' :: (name ++ '=' :: '\x7b' :: '0' :: '\x7d' :: ' ' :: chars)))
include valid opens

/-- The head of the element: its name and its first attribute. -/
theorem run_head (context : Context) (depth : Nat) :
    ∃ (whole closing : Cursor) (start inner place : Nat),
      cursor.next.token.kind = .word "block" ∧
      parseTagName cursor.next = .ok (.plain "block", whole.next) ∧
      (∃ word, whole.next.token.kind = .word word) ∧ 2 ≤ whole.next.rest.chars.length ∧
      parseAttribute (grammar (depth + 1)) context whole.next =
        .ok (.mk start (.attribute (attributeNameOf name))
          [.mk inner .container [placeholder place]], closing.next) ∧
      closing.At (.mark "\x7d") (' ' :: chars) ∧ (cursor.Sound → closing.Sound) := by
  have tagBegins : Begins
      ("block".toList ++ ' ' :: (name ++ '=' :: '\x7b' :: '0' :: '\x7d' :: ' ' :: chars))
      (.word "block") (' ' :: (name ++ '=' :: '\x7b' :: '0' :: '\x7d' :: ' ' :: chars)) :=
    fun _ _ _ => ⟨rfl, rfl, rfl, rfl, rfl, rfl⟩
  have tag := opens.next tagBegins
  obtain ⟨whole, read, wholeAt, wholeSound⟩ :=
    run_parseTagWord (onPart_word ['b', 'l', 'o', 'c', 'k'] tag)
      (endsName_cons ' ' _ (by decide))
  obtain ⟨word, isWord⟩ := next_isWord valid wholeAt
  obtain ⟨inner, place, closing, first, closes, sound⟩ :=
    run_parseAttribute_number valid wholeAt context depth
  have long : 2 ≤ whole.next.rest.chars.length := by
    obtain ⟨part, chars, ⟨_, _, _, _, on⟩, _, _, shape⟩ := next_onPart valid wholeAt
    rw [on.chars_eq]
    rcases shape with ⟨_, _, rfl⟩ | ⟨other, _, _, rfl⟩ <;> simp <;> omega
  have noColon : whole.next.token.kind.isMark ":" = false := by rw [isWord]; rfl
  have noDot : whole.next.token.kind.isMark "." = false := by rw [isWord]; rfl
  exact ⟨whole, closing, _, inner, place, tag.kind_eq, run_parseTagName read noColon noDot,
    ⟨word, isWord⟩, long, first, closes,
    fun started => sound (wholeSound (started.next opens tagBegins))⟩

/-- Whatever element is read, its first attribute is the one that its text begins with. -/
theorem element_of_parseMarkup {context : Context} {depth : Nat} {node : Node} {after : Cursor}
    (read : parseMarkup (grammar (depth + 1)) context false cursor = .ok (node, after)) :
    BlockWith name node := by
  obtain ⟨whole, closing, start, inner, place, tagKind, tag, ⟨word, isWord⟩, -, first, -, -⟩ :=
    run_head valid opens context depth
  have elementRead : parseElement (grammar (depth + 1)) context cursor.token.start false
      cursor.next = .ok (node, after) := by
    simpa [parseMarkup, tagKind] using read
  obtain ⟨tagName, named, tagRead, elementRead⟩ := Parser.bind_eq_ok elementRead
  obtain ⟨rfl, rfl⟩ : TagName.plain "block" = tagName ∧ whole.next = named := by
    simpa [tag] using tagRead
  obtain ⟨nodes, later, attributesRead, elementRead⟩ := Parser.bind_eq_ok elementRead
  obtain ⟨more, rfl⟩ := head_of_collect (run_attributeStep isWord first) attributesRead
  refine (?_ : Yields _ (BlockWith name)) _ _ _ elementRead
  refine .bind fun slash => ?_
  refine .ite (fun _ => .bind fun _ => .pure ⟨_, _, _, _, _, _, _, rfl⟩) fun _ => ?_
  refine .bind fun _ => .bind fun children => .bind fun closing => ?_
  split
  · exact .bind fun _ => .pure ⟨_, _, _, _, _, _, _, rfl⟩
  · exact .ite (fun _ => .bind fun _ => .pure ⟨_, _, _, _, _, _, _, rfl⟩)
      fun _ => .pure ⟨_, _, _, _, _, _, _, rfl⟩

end Element

/-- The end of the element: no children and the closing tag. -/
theorem run_parseClosing {cursor : Cursor}
    (ends : cursor.At (.mark ">") ('<' :: '/' :: ("block".toList ++ ['>']))) (self : Rules)
    (context : Context) :
    ∃ (start nameStart : Nat) (after : Cursor),
      parseChildren self context cursor.toChild = .ok ([], cursor.toChild) ∧
      parseClosing false cursor.toChild = .ok ((start, some (nameStart, .plain "block")), after) ∧
      after.At .stop [] ∧ (cursor.Sound → after.Sound) := by
  have tag : cursor.toChild.At (.mark "<") _ := cursor.at_move (ends.scanned (plain_childTag _))
  have slashBegins : Begins ('/' :: ("block".toList ++ ['>'])) (.mark "/")
      ("block".toList ++ ['>']) :=
    fun _ _ _ => ⟨rfl, rfl, rfl, rfl, rfl, rfl⟩
  have slash := tag.next slashBegins
  have wordBegins : Begins ("block".toList ++ ['>']) (.word "block") ['>'] :=
    fun _ _ _ => ⟨rfl, rfl, rfl, rfl, rfl, rfl⟩
  have word := slash.next wordBegins
  obtain ⟨whole, read, wholeAt, wholeSound⟩ :=
    run_parseTagWord (onPart_word ['b', 'l', 'o', 'c', 'k'] word) (endsName_cons '>' _ (by decide))
  have closeBegins : Begins ['>'] (.mark ">") [] := fun _ _ _ => ⟨rfl, rfl, rfl, rfl, rfl, rfl⟩
  have close := wholeAt.next closeBegins
  have name := run_parseTagName read (by rw [close.kind_eq]; rfl) (by rw [close.kind_eq]; rfl)
  have noChild : parseChild self context cursor.toChild = .ok (none, cursor.toChild) := by
    simp [parseChild, tag.kind_eq, slash.kind_eq, Kind.isMark]
  refine ⟨cursor.toChild.token.start, cursor.toChild.next.next.token.start, whole.next.next, ?_, ?_,
    close.next begins_stop, ?_⟩
  · rw [parseChildren, run_collect]
    exact (Collected.done noChild).run_loop [] _ (by simp)
  · simp [parseClosing, tag.kind_eq, slash.kind_eq, word.kind_eq, close.kind_eq, Kind.isMark, name,
      expectMarkupEnd]
  · intro sound
    have atTag : cursor.toChild.Sound := sound.move (ends.scanned (plain_childTag _))
    have atWord := (atTag.next tag slashBegins).next slash wordBegins
    exact ((wholeSound atWord).next wholeAt closeBegins).next close begins_stop

/-- An attribute with a value in quotes. -/
def quotedAttribute (start inner : Nat) (name text : List Char) : Node :=
  .mk start (.attribute (attributeNameOf name)) [.mk inner (.quoted (String.ofList text)) []]

/-- The text of a loop element behind its tag name and its first attribute. -/
def quotedRest (itemName item indexName index : List Char) : List Char :=
  itemName ++ '=' :: '"' :: (item ++ '"' :: ' ' :: (indexName ++ '=' :: '"' :: (index ++ '"' ::
    '>' :: '<' :: '/' :: ("block".toList ++ ['>']))))

/-- The element is read with its three attributes and without children. -/
theorem run_parseMarkup {cursor : Cursor} {name itemName item indexName index : List Char}
    (valid : isAttributeName name = true) (itemValid : isAttributeName itemName = true)
    (indexValid : isAttributeName indexName = true)
    (itemBare : '"' ∉ item) (indexBare : '"' ∉ index)
    (opens : cursor.At (.mark "<")
      ("block".toList ++ ' ' :: (name ++ '=' :: '\x7b' :: '0' :: '\x7d' ::
      ' ' :: quotedRest itemName item indexName index)))
    (context : Context) (depth : Nat) :
    ∃ (outer first firstInner second secondInner third thirdInner place : Nat) (after : Cursor),
      parseMarkup (grammar (depth + 1)) context false cursor =
        .ok (.mk outer .element [.mk outer (.opening (.plain "block") false)
          [.mk first (.attribute (attributeNameOf name))
              [.mk firstInner .container [placeholder place]],
            quotedAttribute second secondInner itemName item,
            quotedAttribute third thirdInner indexName index]], after) ∧
      after.At .stop [] ∧ (cursor.Sound → after.Sound) := by
  obtain ⟨whole, one, first, firstInner, place, tagKind, tag, ⟨word, isWord⟩, long, firstRead,
    oneAt, oneSound⟩ := run_head valid opens context depth
  obtain ⟨secondInner, two, secondRead, twoAt, twoSound⟩ :=
    run_parseAttribute_quoted itemValid itemBare oneAt (grammar (depth + 1)) context
  obtain ⟨thirdInner, three, thirdRead, threeAt, threeSound⟩ :=
    run_parseAttribute_quoted indexValid indexBare twoAt (grammar (depth + 1)) context
  obtain ⟨_, secondWord⟩ := next_isWord itemValid oneAt
  obtain ⟨_, thirdWord⟩ := next_isWord indexValid twoAt
  have endBegins : Begins ('>' :: '<' :: '/' :: ("block".toList ++ ['>'])) (.mark ">")
      ('<' :: '/' :: ("block".toList ++ ['>'])) := fun _ _ _ => ⟨rfl, rfl, rfl, rfl, rfl, rfl⟩
  have ends := threeAt.next endBegins
  have attributes := (Collected.more (run_attributeStep isWord firstRead)
    (.more (run_attributeStep secondWord secondRead)
      (.more (run_attributeStep thirdWord thirdRead)
        (.done (run_attributeStep_end (by decide) ends.kind_eq (grammar (depth + 1))
          context))))).run_loop []
    (whole.next.rest.chars.length + 2) (by simp; omega)
  obtain ⟨closingStart, nameStart, after, children, closing, afterAt, afterSound⟩ :=
    run_parseClosing ends (grammar (depth + 1)) context
  refine ⟨cursor.token.start, first, firstInner, one.next.token.start, secondInner,
    two.next.token.start, thirdInner, place, after, ?_, afterAt, ?_⟩
  · have attributes : parseAttributes (grammar (depth + 1)) context whole.next = _ := attributes
    simp [parseMarkup, tagKind, parseElement, tag, attributes, ends.kind_eq, Kind.isMark,
      expectMarkBeforeChild, children, closing, quotedAttribute]
  · intro sound
    exact afterSound ((threeSound (twoSound (oneSound sound))).next threeAt endBegins)

/-! ## Expressions that begin with a tag -/

/-- An expression that is neither an element nor something in parentheses. -/
def Compound (node : Node) : Prop := node.form ≠ .element ∧ node.form ≠ .parenthesized

/-- Operators behind an operand make an expression of their own. -/
theorem yields_parseBinaryRest (self : Rules) (context : Context) (level : Level) (left : Node) :
    Yields (parseBinaryRest self context level left) fun node => node = left ∨ Compound node := by
  refine .repeatStep (fun state => state = left ∨ Compound state) ?_ (.inl rfl)
  intro state kept
  refine .bind fun _ => .bind fun token => ?_
  split
  · exact .pure kept
  · next operator _ =>
      refine .ite (fun _ => .pure kept) fun _ => .bind fun _ => .bind fun right => ?_
      have joined : Yields (pure (.inl (.mk left.start (.binary operator) [state, right])))
          (Sum.elim (fun node => node = left ∨ Compound node)
            fun node => node = left ∨ Compound node) :=
        .pure (.inr (by simp [Compound]))
      -- Whatever is noted, the operands are joined.
      exact .ite (fun _ => .bind fun _ => .ite (fun _ => .bind fun _ => joined) fun _ => joined)
        fun _ => .ite (fun _ => .bind fun _ => joined) fun _ => joined

/-- An arrow is an expression of its own. -/
theorem yields_parseArrowRest (self : Rules) (context : Context) (start : Nat) (async : Bool)
    (parameters : Node) : Yields (parseArrowRest self context start async parameters) Compound := by
  have body : ∀ body, Yields
      (pure (.mk start (.arrow ⟨async, false, false⟩) [parameters, body])) Compound :=
    fun body => .pure (by simp [Compound])
  refine .bind fun token => .ite (fun _ => .bind fun _ => ?_) fun _ => ?_ <;>
    exact .bind fun _ => .bind fun _ =>
      .ite (fun _ => .bind fun _ => body _) fun _ => .bind fun _ => body _

/-- So does what else may follow operands. -/
theorem yields_parseAssignmentRest (self : Rules) (context : Context) (left : Node) :
    Yields (parseAssignmentRest self context left) fun node => node = left ∨ Compound node := by
  refine .bind fun kind => ?_
  split
  · intro cursor node after read
    exact .inr (yields_parseArrowRest _ _ _ _ _ _ _ _ read)
  · split
    · exact .ite
        (fun _ => .bind fun _ => .bind fun _ => .bind fun _ => .pure (.inr (by simp [Compound])))
        fun _ => .bind fun _ => .bind fun _ => .bind fun _ => .pure (.inr (by simp [Compound]))
    · refine .bind fun _ => .ite (fun _ => ?_) fun _ => .pure (.inl rfl)
      exact .bind fun _ => .bind fun _ => .bind fun _ => .pure (.inr (by simp [Compound]))

/-- An expression that begins with a tag is read as markup with what may follow it. -/
theorem run_parseAssignment_tag {self : Rules} {context : Context} {cursor : Cursor}
    (opens : cursor.Plain (.mark "<")) :
    parseAssignment self context cursor =
      (do
        let left ← parseMarkup self context false
        let left ← parseBinaryRest self context Level.lowest left
        parseAssignmentRest self context left) cursor := by
  have operators : UnaryOperator.ofText? "<" = none ∧ UpdateOperator.ofText? "<" = none := by decide
  cases read : parseMarkup self context false cursor <;>
    simp [parseAssignment, parsePlainAssignment, atYield, asyncArrow?, parseOperands, parseOperand,
      unaryOperator?, updateOperator?, opens.kind_eq, Kind.isWord, Kind.isMark, operators, promised,
      opens.promises, read]

/-- Markup that nothing follows is the whole expression. -/
theorem run_parseExpression_markup {depth : Nat} {context : Context} {cursor after : Cursor}
    {node : Node} (opens : cursor.Plain (.mark "<"))
    (read : parseMarkup (grammar depth) context false cursor = .ok (node, after))
    (stops : after.token.kind = .stop) :
    parseExpression (grammar (depth + 1)) context cursor = .ok (node, after) := by
  have ends : Ends after.token.kind := .inr (.inr (.inr stops))
  have assignment : grammar (depth + 1) .assignment context cursor = .ok (node, after) := by
    refine (run_parseAssignment_tag opens).trans ?_
    simp [read, run_parseBinaryRest_end ends, run_parseAssignmentRest_end ends]
  exact run_parseExpression assignment (by rw [stops]; rfl)

/-- An expression that begins with a tag is markup, unless something follows. -/
theorem markup_of_parseExpression {depth : Nat} {context : Context} {cursor after : Cursor}
    {node : Node} (opens : cursor.Plain (.mark "<"))
    (read : parseExpression (grammar (depth + 1)) context cursor = .ok (node, after)) :
    (∃ later, parseMarkup (grammar depth) context false cursor = .ok (node, later)) ∨
      Compound node := by
  obtain ⟨_, _, here, read⟩ := Parser.bind_eq_ok read
  cases here
  obtain ⟨whole, _, assignment, read⟩ := Parser.bind_eq_ok read
  have assignment : parseAssignment (grammar depth) context cursor = _ := assignment
  rw [run_parseAssignment_tag opens] at assignment
  obtain ⟨markup, later, markupRead, assignment⟩ := Parser.bind_eq_ok assignment
  obtain ⟨left, _, binary, rest⟩ := Parser.bind_eq_ok assignment
  have shape : whole = markup ∨ Compound whole := by
    rcases yields_parseAssignmentRest _ _ _ _ _ _ rest with rfl | compound
    · exact yields_parseBinaryRest _ _ _ _ _ _ _ binary
    · exact .inr compound
  obtain ⟨comma, _, _, read⟩ := Parser.bind_eq_ok read
  cases comma with
  | true =>
      obtain ⟨_, _, _, read⟩ := Parser.bind_eq_ok read
      cases read
      exact .inr (by simp [Compound])
  | false =>
      cases read
      rcases shape with rfl | compound
      · exact .inl ⟨later, markupRead⟩
      · exact .inr compound

end LoopTemplate.Grammar
