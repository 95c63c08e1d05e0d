import LoopTemplate.Proofs.Reading.Markup
import LoopTemplate.Proofs.Reading.Object

/-!
# What synthesized texts stand for

The three texts that a rewrite synthesizes are read as the nodes they are meant to be, whenever they
are read at all: a parameter list declares its names, an object hands over just its names, and a
loop element has its three attributes and no children.
-/

namespace LoopTemplate.Loop

open LoopTemplate.Grammar
  (BlockWith Cursor IsName IsSpelling OpensTwo Refers attributeNameOf depthBound
  objectRest placeholder plainParameter plainProperty? propertiesRest quotedAttribute quotedRest)
open LoopTemplate.Text (isIdentifierPart)
open LoopTemplate.Token (Rest begins_mark isWordText)
open LoopTemplate.Tree (Node)

/-! ## Reading texts -/

/-- The expression that a text is read as, and the cursor behind it. -/
def parseCode (code : String) : Except Grammar.Failure (Node × Cursor) :=
  Grammar.parseExpression (Grammar.grammar (depthBound code.toList)) .module
    (.first (.ofChars code.toList))

theorem readExpression_eq (code : String) :
    Grammar.readExpression code.toList =
      match parseCode code with
      | .error failure => .error failure.fatal
      | .ok (expression, cursor) =>
          match Grammar.firstFault? cursor with
          | some fault => .error fault
          | none => .ok expression := rfl

/-- No fault is met in a text that is read. -/
theorem parsed_of_readExpression {code : String} {expression : Node}
    (read : Grammar.readExpression code.toList = .ok expression) :
    ∃ after, parseCode code = .ok (expression, after) ∧ after.Sound := by
  rw [readExpression_eq] at read
  cases parsed : parseCode code with
  | error failure => simp [parsed] at read
  | ok result =>
      obtain ⟨found, after⟩ := result
      simp only [parsed] at read
      cases fault : Grammar.firstFault? after with
      | some fault' => simp [fault] at read
      | none =>
          simp only [fault] at read
          cases read
          exact ⟨after, rfl, fault⟩

/-- A synthesized text is read as an expression, of which the needed part is taken. -/
theorem readExpression_of_readSnippet {code : String} {take : Node → Option Node} {node : Node}
    (read : readSnippet code take = .ok node) :
    ∃ expression, Grammar.readExpression code.toList = .ok expression ∧
      take expression.withoutParentheses = some node := by
  unfold readSnippet at read
  split at read
  case h_1 => cases read
  case h_2 expression readAs =>
    refine ⟨expression, readAs, ?_⟩
    split at read
    case h_1 found taken =>
      cases read
      exact taken
    case h_2 => cases read

theorem parsed_of_readSnippet {code : String} {take : Node → Option Node} {node : Node}
    (read : readSnippet code take = .ok node) :
    ∃ expression after, parseCode code = .ok (expression, after) ∧
      take expression.withoutParentheses = some node := by
  obtain ⟨expression, readAs, taken⟩ := readExpression_of_readSnippet read
  obtain ⟨after, parsed, -⟩ := parsed_of_readExpression readAs
  exact ⟨expression, after, parsed, taken⟩

/-- A text in which no fault is met is read. -/
theorem readSnippet_eq {code : String} {take : Node → Option Node} {expression node : Node}
    {after : Cursor} (parsed : parseCode code = .ok (expression, after)) (sound : after.Sound)
    (taken : take expression.withoutParentheses = some node) :
    readSnippet code take = .ok node := by
  have fault : Grammar.firstFault? after = none := sound
  simp [readSnippet, readExpression_eq, parsed, fault, taken]

theorem sound_of_readSnippet {code : String} {take : Node → Option Node} {expression node : Node}
    {after : Cursor} (read : readSnippet code take = .ok node)
    (parsed : parseCode code = .ok (expression, after)) : after.Sound := by
  obtain ⟨found, readAs, -⟩ := readExpression_of_readSnippet read
  obtain ⟨later, again, sound⟩ := parsed_of_readExpression readAs
  rw [parsed] at again
  cases again
  exact sound

/-- There are enough levels for the texts. -/
theorem depthBound_eq (code : List Char) : ∃ depth, depthBound code = depth + 4 :=
  ⟨4 * code.length + 12, rfl⟩

/-! ## Parameters -/

section Parameters

variable {item index : String}

/-- The text of two parameters is read as an arrow that declares them, with no fault if neither is
the operator `await`. -/
theorem parseCode_parametersCode (itemValid : IsName item) (indexValid : IsName index) :
    ∃ start first second body after,
      parseCode (parametersCode [item, index]) =
          .ok (.mk start (.arrow ⟨false, false, false⟩)
            [.mk start .parameters [plainParameter first item, plainParameter second index], body],
            after) ∧
        (after.Sound ↔ item ≠ "await" ∧ index ≠ "await") := by
  have text : (parametersCode [item, index]).toList =
      "(".toList ++ Grammar.twoNames item index [' ', '=', '>', ' ', '\x7b', '\x7d'] := by
    simp [parametersCode, Grammar.twoNames]
  have begins := begins_mark "(" (Grammar.twoNames item index [' ', '=', '>', ' ', '\x7b', '\x7d'])
    (by decide)
  have two : OpensTwo (.first (.ofChars (parametersCode [item, index]).toList)) item index
      [' ', '=', '>', ' ', '\x7b', '\x7d'] :=
    ⟨text ▸ Cursor.at_first begins, itemValid, indexValid⟩
  obtain ⟨depth, bound⟩ := depthBound_eq (parametersCode [item, index]).toList
  obtain ⟨body, after, arrow, sound_iff⟩ :=
    two.run_parseExpression (text ▸ Cursor.sound_first begins) (depth + 1) rfl
  rw [← bound] at arrow
  exact ⟨_, _, _, body, after, arrow, sound_iff⟩

/-- Two names are declared by two plain parameters. -/
theorem parametersSnippet_cases (itemValid : IsName item) (indexValid : IsName index) {node : Node}
    (read : parametersSnippet [item, index] = .ok node) :
    ∃ start first second,
      node = .mk start .parameters [plainParameter first item, plainParameter second index] := by
  obtain ⟨start, first, second, body, after, arrow, -⟩ :=
    parseCode_parametersCode itemValid indexValid
  obtain ⟨expression, later, parsed, taken⟩ := parsed_of_readSnippet read
  rw [arrow] at parsed
  cases parsed
  cases taken
  exact ⟨_, _, _, rfl⟩

/-- Two variables make parameters that declare them. -/
theorem parametersSnippet_ok (itemValid : IsName item) (indexValid : IsName index)
    (itemOther : item ≠ "await") (indexOther : index ≠ "await") :
    ∃ start first second, parametersSnippet [item, index] =
      .ok (.mk start .parameters [plainParameter first item, plainParameter second index]) := by
  obtain ⟨start, first, second, body, after, arrow, sound_iff⟩ :=
    parseCode_parametersCode itemValid indexValid
  exact ⟨start, first, second, readSnippet_eq arrow (sound_iff.2 ⟨itemOther, indexOther⟩) rfl⟩

/-- With the operator `await` among them, two names make no parameters. -/
theorem parametersSnippet_await (itemValid : IsName item) (indexValid : IsName index)
    (operator : item = "await" ∨ index = "await") (node : Node) :
    parametersSnippet [item, index] ≠ .ok node := by
  intro read
  obtain ⟨start, first, second, body, after, arrow, sound_iff⟩ :=
    parseCode_parametersCode itemValid indexValid
  obtain ⟨itemOther, indexOther⟩ := sound_iff.1 (sound_of_readSnippet read arrow)
  exact operator.elim itemOther indexOther

end Parameters

/-! ## Captured names -/

/-- The text of an object, piece by piece. -/
theorem captureCode_toList (names : Names) :
    (captureCode names).toList = "(".toList ++ ('\x7b' :: objectRest names [')']) := by
  have properties : ∀ (name : String) (names : List String),
      (", ".intercalate ((name :: names).map fun name => name ++ ": " ++ name)).toList ++
          '\x7d' :: [')'] = name.toList ++ propertiesRest name names [')'] := by
    intro name names
    rw [String.toList_intercalate]
    induction names generalizing name with
    | nil => simp [propertiesRest]
    | cons next names ih =>
        have later := ih next
        rw [propertiesRest, ← later]
        simp [List.intercalate]
  cases names with
  | nil => rfl
  | cons name names =>
      have inside := properties name names
      simp only [captureCode, String.toList_append, objectRest, ← inside]
      simp

/-- The object that hands over the given names: each property is a name with the variable of that
name. -/
def HandsOver (object : Node) (names : Names) : Prop :=
  ∃ start properties, object = .mk start .object properties ∧
    properties.map plainProperty? = names.map some

section Capture

variable {names : Names}

/-- Variables make an object that hands them over, however they are spelled. It stands behind the
parenthesis. -/
theorem captureObject_spelled {texts : Names} (spelled : List.Forall₂ IsSpelling texts names)
    (refers : ∀ name ∈ names, Refers .module name) :
    ∃ object, captureObject texts = .ok object ∧ HandsOver object names ∧ object.start = 1 := by
  have text := captureCode_toList texts
  have begins := begins_mark "(" ('\x7b' :: objectRest texts [')']) (by decide)
  obtain ⟨depth, bound⟩ := depthBound_eq (captureCode texts).toList
  obtain ⟨start, properties, after, parsed, seen, sound⟩ :=
    Grammar.run_parseExpression_object (text ▸ Cursor.at_first begins) spelled refers
      (text ▸ Cursor.sound_first begins) (depth + 1)
  have start_eq : (Cursor.first (.ofChars (captureCode texts).toList)).next.token.start = 1 := by
    rw [text]
    rfl
  rw [start_eq] at parsed
  refine ⟨.mk 1 .object properties, ?_, ⟨1, properties, rfl, seen⟩, rfl⟩
  have whole : parseCode (captureCode texts) =
      .ok (.mk start .parenthesized [.mk 1 .object properties], after) := by
    rw [parseCode, bound]
    exact parsed
  exact readSnippet_eq whole sound (by simp [Node.withoutParentheses, object?])

theorem spellings_of_names (valid : ∀ name ∈ names, IsName name) :
    List.Forall₂ IsSpelling names names :=
  List.forall₂_same.2 fun name member => (valid name member).isSpelling

theorem captureObject_ok (refers : ∀ name ∈ names, Refers .module name) :
    ∃ object, captureObject names = .ok object ∧ HandsOver object names ∧ object.start = 1 :=
  captureObject_spelled (spellings_of_names fun name member => (refers name member).valid) refers

/-- With the operator `await` among them, names make no object. -/
theorem captureObject_await (valid : ∀ name ∈ names, IsName name) (member : "await" ∈ names)
    (object : Node) : captureObject names ≠ .ok object := by
  intro read
  have begins := begins_mark "(" ('\x7b' :: objectRest names [')']) (by decide)
  obtain ⟨depth, bound⟩ := depthBound_eq (captureCode names).toList
  obtain ⟨failure, failed⟩ := Grammar.run_parseExpression_await
    (captureCode_toList names ▸ Cursor.at_first begins) (spellings_of_names valid) member depth
  obtain ⟨expression, after, parsed, _⟩ := parsed_of_readSnippet read
  rw [parseCode, bound, failed] at parsed
  cases parsed

/-- Names are variables in a text of their own, unless `await` is among them. -/
theorem refers_module (valid : ∀ name ∈ names, IsName name) (other : "await" ∉ names) :
    ∀ name ∈ names, Refers .module name :=
  fun name inside =>
    ⟨valid name inside, by simp [Grammar.Context.module], fun _ same => other (same ▸ inside)⟩

/-- Names that make an object are variables. -/
theorem refers_of_captureObject (valid : ∀ name ∈ names, IsName name) {object : Node}
    (read : captureObject names = .ok object) : ∀ name ∈ names, Refers .module name := by
  by_cases member : "await" ∈ names
  · exact absurd read (captureObject_await valid member object)
  · exact refers_module valid member

theorem captureObject_cases (valid : ∀ name ∈ names, IsName name) {object : Node}
    (read : captureObject names = .ok object) : HandsOver object names ∧ object.start = 1 := by
  obtain ⟨other, made, hands⟩ := captureObject_ok (refers_of_captureObject valid read)
  rw [read] at made
  cases made
  exact hands

/-- An object that names make hands them over. -/
theorem handsOver_of_captureObject (valid : ∀ name ∈ names, IsName name) {object : Node}
    (read : captureObject names = .ok object) : HandsOver object names :=
  (captureObject_cases valid read).1

end Capture

/-! ## Loop elements -/

/-- What is no element is none in parentheses either. -/
theorem element?_of_compound {node : Node} (compound : Grammar.Compound node) :
    element? node.withoutParentheses = none := by
  obtain ⟨start, form, parts⟩ := node
  have notElement : form ≠ .element := compound.1
  have notParenthesized : form ≠ .parenthesized := compound.2
  rw [Node.withoutParentheses]
  · cases form <;> first | rfl | exact absurd rfl notElement
  · intro _ _ same
    cases same
    exact absurd rfl notParenthesized

/-- A word has no quotes in it. -/
theorem quote_not_mem {name : String} (word : isWordText name.toList = true) :
    '"' ∉ name.toList := by
  intro member
  have refused : isIdentifierPart '"' = false := by
    simpa [Token.endsWord] using Token.endsWord_cons [] (by simp : '"' ∈ _)
  cases chars : name.toList with
  | nil => simp [chars] at member
  | cons c rest =>
      rw [chars] at member word
      simp only [Token.isWordText, Bool.and_eq_true, List.all_eq_true] at word
      have part : isIdentifierPart '"' = true := by
        rcases List.mem_cons.1 member with rfl | inside
        · exact Text.isIdentifierPart_of_start word.1
        · exact word.2 _ inside
      rw [part] at refused
      cases refused

section Wrapper

variable {adapter : Adapter} {item index : String}

/-- The text of a loop element, piece by piece. -/
theorem wrapperCode_toList (adapter : Adapter) (item index : String) :
    (wrapperCode adapter item index).toList =
      '<' :: ("block".toList ++ ' ' ::
        (adapter.collection.toList ++ '=' :: '\x7b' :: '0' :: '\x7d' :: ' ' ::
          quotedRest adapter.item.toList item.toList adapter.index.toList index.toList)) := by
  unfold wrapperCode wrapperTag quotedRest
  simp

/-- The text begins with a tag. -/
theorem at_wrapperCode (adapter : Adapter) (item index : String) :
    (Cursor.first (.ofChars (wrapperCode adapter item index).toList)).At (.mark "<")
        ("block".toList ++ ' ' :: (adapter.collection.toList ++ '=' :: '\x7b' :: '0' :: '\x7d' ::
          ' ' :: quotedRest adapter.item.toList item.toList adapter.index.toList index.toList)) ∧
      (Cursor.first (.ofChars (wrapperCode adapter item index).toList)).Sound := by
  rw [wrapperCode_toList]
  have begins := Grammar.begins_tag (by decide : Text.isIdentifierStart 'b' = true)
    ("lock".toList ++ ' ' :: (adapter.collection.toList ++ '=' :: '\x7b' :: '0' :: '\x7d' :: ' ' ::
      quotedRest adapter.item.toList item.toList adapter.index.toList index.toList))
  exact ⟨Cursor.at_first begins, Cursor.sound_first begins⟩

/-- The first attribute of a loop element is the one for its collection, whatever the item and index
are. -/
theorem blockWith_of_wrapperSnippet {node : Node}
    (read : wrapperSnippet adapter item index = .ok node) :
    BlockWith adapter.collection.toList node := by
  obtain ⟨opens, _⟩ := at_wrapperCode adapter item index
  obtain ⟨depth, bound⟩ := depthBound_eq (wrapperCode adapter item index).toList
  obtain ⟨expression, after, parsed, taken⟩ := parsed_of_readSnippet read
  rw [parseCode, bound] at parsed
  rcases Grammar.markup_of_parseExpression opens.toPlain parsed with ⟨later, markup⟩ | compound
  · have block := Grammar.element_of_parseMarkup adapter.collection_valid opens markup
    obtain ⟨_, _, _, _, _, _, _, rfl⟩ := block
    cases taken
    exact ⟨_, _, _, _, _, _, _, rfl⟩
  · rw [element?_of_compound compound] at taken
    cases taken

/-- A loop element has its three attributes and no children. -/
theorem wrapperSnippet_ok (adapter : Adapter) (itemWord : isWordText item.toList = true)
    (indexWord : isWordText index.toList = true) :
    ∃ outer first firstInner second secondInner third thirdInner place,
      wrapperSnippet adapter item index =
        .ok (.mk outer .element [.mk outer (.opening (.plain wrapperTag) false)
          [.mk first (.attribute (attributeNameOf adapter.collection.toList))
              [.mk firstInner .container [placeholder place]],
            quotedAttribute second secondInner adapter.item.toList item.toList,
            quotedAttribute third thirdInner adapter.index.toList index.toList]]) := by
  obtain ⟨opens, sound⟩ := at_wrapperCode adapter item index
  obtain ⟨depth, bound⟩ := depthBound_eq (wrapperCode adapter item index).toList
  obtain ⟨outer, first, firstInner, second, secondInner, third, thirdInner, place, after, read,
    stops, afterSound⟩ := Grammar.run_parseMarkup adapter.collection_valid adapter.item_valid
      adapter.index_valid (quote_not_mem itemWord) (quote_not_mem indexWord) opens .module
      (depth + 2)
  refine ⟨outer, first, firstInner, second, secondInner, third, thirdInner, place, ?_⟩
  have parsed := Grammar.run_parseExpression_markup opens.toPlain read stops.kind_eq
  rw [← bound] at parsed
  exact readSnippet_eq parsed (afterSound sound) rfl

end Wrapper

end LoopTemplate.Loop
