import LoopTemplate.Proofs.Reading.Parameters
import Mathlib.Data.List.Forall2

/-!
# Reading objects of plain properties

An object whose properties are a name with a variable of that name, in parentheses, is read with
just these properties, however the names are spelled. Where one of the variables is the operator
`await` the text is no expression; the other reading of it, as parameters, ends before no arrow.
-/

namespace LoopTemplate.Grammar

open LoopTemplate.Token (Begins Kind begins_mark begins_stop endsWord_cons)
open LoopTemplate.Tree (Node)

/-! ## The text -/

/-- The text of properties behind the spelling of the first of their names, up to what follows their
closing brace. -/
def propertiesRest (text : String) (texts : List String) (chars : List Char) : List Char :=
  ':' :: ' ' :: (text.toList ++
    match texts with
    | [] => '\x7d' :: chars
    | next :: texts => ',' :: ' ' :: (next.toList ++ propertiesRest next texts chars))

/-- Properties are no shorter than there are of them. -/
theorem length_le_propertiesRest (text : String) (texts : List String) (chars : List Char) :
    texts.length ≤ (propertiesRest text texts chars).length := by
  induction texts generalizing text with
  | nil => simp
  | cons next texts ih =>
      have later := ih next
      rw [propertiesRest]
      simp only [List.length_cons, List.length_append]
      omega

/-- The text of properties begins with the name of the first. -/
theorem begins_key {text name : String} (spelling : IsSpelling text name) (texts : List String)
    (chars : List Char) :
    Begins (text.toList ++ propertiesRest text texts chars) (.word name)
      (propertiesRest text texts chars) := by
  refine spelling.begins ?_
  rw [propertiesRest.eq_def]
  exact endsWord_cons _ (by decide)

/-! ## One property -/

/-- The name of a property that is a plain name with the variable of that name as its value. -/
def plainProperty? : Node → Option String
  | .mk _ (.property .plain false false false)
      [.mk _ (.word key) [], .mk _ (.reference name) []] => if key = name then some name else none
  | _ => none

section Property

variable {text name mark : String} {cursor : Cursor} {chars : List Char}

/-- A cursor on a name that is the key of a property, before the mark behind the property. -/
structure OnProperty (cursor : Cursor) (text name mark : String) (chars : List Char) : Prop where
  key : cursor.At (.word name) (':' :: ' ' :: (text.toList ++ (mark.toList ++ chars)))
  spelling : IsSpelling text name
  mark_eq : mark = "," ∨ mark = "\x7d"

namespace OnProperty

variable (property : OnProperty cursor text name mark chars)
include property

theorem colon : cursor.next.At (.mark ":") (' ' :: (text.toList ++ (mark.toList ++ chars))) :=
  property.key.next (begins_mark ":" _ (by decide))

theorem begins_value : Begins (' ' :: (text.toList ++ (mark.toList ++ chars))) (.word name)
    (mark.toList ++ chars) := by
  refine (property.spelling.begins ?_).space
  rcases property.mark_eq with rfl | rfl <;> exact endsWord_cons chars (by decide)

theorem begins_end : Begins (mark.toList ++ chars) (.mark mark) chars := by
  rcases property.mark_eq with rfl | rfl <;> exact begins_mark _ chars (by decide)

theorem value : cursor.next.next.At (.word name) (mark.toList ++ chars) :=
  property.colon.next property.begins_value

theorem after : cursor.next.next.next.At (.mark mark) chars :=
  property.value.next property.begins_end

theorem ends : Ends cursor.next.next.next.token.kind := by
  rw [property.after.kind_eq]
  rcases property.mark_eq with rfl | rfl
  · exact .inl rfl
  · exact .inr (.inr (.inl rfl))

theorem sound (sound : cursor.Sound) : cursor.next.next.next.Sound :=
  ((sound.next property.key (begins_mark ":" _ (by decide))).next property.colon
    property.begins_value).next property.value property.begins_end

/-- A name before a colon is no modifier. -/
theorem run_parseModifiers : parseModifiers cursor = .ok (⟨.plain, false, false⟩, cursor) := by
  have noModifier : ∀ text follows, follows cursor.next.token = false →
      eatModifier text follows cursor = .ok (false, cursor) := by
    intro text follows refused
    simp only [eatModifier, Parser.run_bind, run_atWord]
    split
    · simp [refused]
    · rfl
  have noKey : beginsKey cursor.next.token.kind = false := by rw [property.colon.kind_eq]; rfl
  have noStar : cursor.next.token.kind.isMark "*" = false := by rw [property.colon.kind_eq]; rfl
  have noGenerator : cursor.token.kind.isMark "*" = false := by rw [property.key.kind_eq]; rfl
  simp [parseModifiers, noModifier, noKey, noStar, noGenerator]

theorem run_parseKey (self : Rules) (context : Context) :
    parseKey self context cursor =
      .ok ((.mk cursor.token.start (.word name) [], false), cursor.next) := by
  simp [parseKey, parseAnyWord, property.key.kind_eq]

/-- A property is read by reading its value. -/
theorem run_parseProperty_eq (self : Rules) (context : Context) :
    parseProperty self context cursor =
      match self .assignment context.withIn cursor.next.next with
      | .ok (value, after) =>
          .ok (.mk cursor.token.start (.property .plain false false false)
            [.mk cursor.token.start (.word name) [], value], after)
      | .error failure => .error failure := by
  cases read : self .assignment context.withIn cursor.next.next <;>
    simp [parseProperty, property.run_parseModifiers, property.run_parseKey, property.key.kind_eq,
      property.colon.kind_eq, Kind.isMark, read]

/-- A property is read with the variable as its value. -/
theorem run_parseProperty {context : Context} (refers : Refers context.withIn name) (depth : Nat) :
    parseProperty (grammar (depth + 1)) context cursor =
      .ok (.mk cursor.token.start (.property .plain false false false)
        [.mk cursor.token.start (.word name) [],
          .mk cursor.next.next.token.start (.reference name) []], cursor.next.next.next) := by
  have value : grammar (depth + 1) .assignment context.withIn cursor.next.next = _ :=
    run_parseAssignment_reference (grammar depth) refers property.value.toPlain
      property.after.afterBreak property.ends
  rw [property.run_parseProperty_eq, value]

/-- The operator `await` is no value of a property. -/
theorem run_parseProperty_await {context : Context} (awaits : context.allowAwait = true)
    (same : name = "await") (depth : Nat) :
    ∃ failure, parseProperty (grammar (depth + 2)) context cursor = .error failure := by
  have shown := property.value.toPlain
  rw [same] at shown
  obtain ⟨failure, failed⟩ := run_parseAssignment_await
    (show context.withIn.allowAwait = true from awaits) shown property.ends depth
  have value : grammar (depth + 2) .assignment context.withIn cursor.next.next =
      .error failure := failed
  rw [property.run_parseProperty_eq, value]
  exact ⟨failure, rfl⟩

/-- A property of a pattern is read with the name as what it binds. -/
theorem run_parsePatternProperty (context : Context) (depth : Nat) :
    ∃ noted, parsePatternProperty (grammar (depth + 1)) context cursor =
      .ok (.mk cursor.token.start (.patternProperty .declaring false false)
        [.mk cursor.token.start (.word name) [],
          .mk cursor.next.next.token.start (.binding name) []],
        cursor.next.next.next.noting noted) := by
  obtain ⟨noted, pattern, -⟩ :=
    run_pattern context property.spelling.valid property.value.kind_eq depth
  have noDefault : cursor.next.next.next.token.kind.isMark "=" = false := by
    rcases property.ends with kind_eq | kind_eq | kind_eq | kind_eq <;> rw [kind_eq] <;> rfl
  have element : parsePatternElement (grammar (depth + 1)) context cursor.next.next =
      .ok (.mk cursor.next.next.token.start (.binding name) [],
        cursor.next.next.next.noting noted) := by
    simp [parsePatternElement, pattern, noDefault]
  refine ⟨noted, ?_⟩
  simp [parsePatternProperty, atBinding, property.key.kind_eq, property.colon.kind_eq,
    property.run_parseKey, Kind.isMark, element]

end OnProperty

end Property

/-! ## All properties -/

/-- What reads a property behind its name, whichever mark follows, reads a list of them. `Valid`
tells for which names it does, and `Kept` what stays true of the cursor. -/
structure ReadsProperties {β : Type} (element : Parser Node) (Valid : String → Prop)
    (Kept : Cursor → Prop) (view : Node → β) (image : String → β) : Prop where
  one : ∀ {cursor text name mark chars}, OnProperty cursor text name mark chars → Valid name →
    Kept cursor → ∃ node after, element cursor = .ok (node, after) ∧ view node = image name ∧
      after.At (.mark mark) chars ∧ Kept after
  moves : ∀ {cursor kind chars next rest}, Kept cursor → cursor.At kind chars →
    Begins chars next rest → Kept cursor.next

theorem ReadsProperties.listed {β : Type} {element : Parser Node} {Valid : String → Prop}
    {Kept : Cursor → Prop} {view : Node → β} {image : String → β}
    (reads : ReadsProperties element Valid Kept view image) {cursor : Cursor} {text name : String}
    {texts names : List String} {chars : List Char}
    (stands : cursor.At (.word name) (propertiesRest text texts chars)) (kept : Kept cursor)
    (spelled : List.Forall₂ IsSpelling (text :: texts) (name :: names))
    (valid : ∀ other ∈ name :: names, Valid other) :
    ∃ nodes after, Listed "\x7d" element cursor nodes after ∧
      nodes.map view = (name :: names).map image ∧ after.At (.mark "\x7d") chars ∧ Kept after ∧
      ∀ node first, element cursor = .ok (node, first) →
        texts.length ≤ first.rest.chars.length := by
  induction texts generalizing cursor text name names with
  | nil =>
      obtain ⟨spelling, ⟨⟩⟩ := List.forall₂_cons.1 spelled
      have property : OnProperty cursor text name "\x7d" chars := ⟨stands, spelling, .inr rfl⟩
      obtain ⟨node, after, read, seen, closes, kept⟩ :=
        reads.one property (valid name (by simp)) kept
      exact ⟨[node], after, .last read closes.kind_eq, by simp [seen], closes, kept, by simp⟩
  | cons nextText texts ih =>
      obtain ⟨spelling, later⟩ := List.forall₂_cons.1 spelled
      obtain ⟨next, names, nextSpelling, -, rfl⟩ := List.forall₂_cons_left_iff.1 later
      have property : OnProperty cursor text name ","
          (' ' :: (nextText.toList ++ propertiesRest nextText texts chars)) :=
        ⟨stands, spelling, .inl rfl⟩
      obtain ⟨node, comma, read, seen, divides, kept⟩ :=
        reads.one property (valid name (by simp)) kept
      have begins := (begins_key nextSpelling texts chars).space
      obtain ⟨nodes, after, listed, all, closes, kept, _⟩ :=
        ih (divides.next begins) (reads.moves kept divides begins) later
          (fun other member => valid other (.tail _ member))
      have goesOn : comma.next.token.kind.isMark "\x7d" = false := by
        rw [(divides.next begins).kind_eq]; rfl
      refine ⟨node :: nodes, after, .more read divides.kind_eq goesOn listed, by simp [seen, all],
        closes, kept, ?_⟩
      intro other first again
      rw [read] at again
      cases again
      have long := length_le_propertiesRest nextText texts chars
      simp only [divides.chars_eq, List.length_cons, List.length_append]
      omega

section Properties

variable {cursor : Cursor} {text name : String} {texts names : List String} {chars : List Char}
  (stands : cursor.At (.word name) (propertiesRest text texts chars))
  (spelled : List.Forall₂ IsSpelling (text :: texts) (name :: names))

theorem readsProperties {context : Context} (depth : Nat) :
    ReadsProperties (parseProperty (grammar (depth + 1)) context) (Refers context.withIn)
      Cursor.Sound plainProperty? some where
  one property refers sound :=
    ⟨_, _, property.run_parseProperty refers depth, by simp [plainProperty?], property.after,
      property.sound sound⟩
  moves sound stands begins := sound.next stands begins

theorem readsPatternProperties (context : Context) (depth : Nat) :
    ReadsProperties (parsePatternProperty (grammar (depth + 1)) context) (fun _ => True)
      (fun _ => True) (fun _ => ()) (fun _ => ()) where
  one {cursor text name mark chars} property _ _ := by
    obtain ⟨noted, read⟩ := property.run_parsePatternProperty context depth
    exact ⟨_, _, read, rfl, property.after.noting noted, trivial⟩
  moves _ _ _ := trivial

include stands spelled in
/-- The operator `await` among the names stops the reading of the properties. -/
theorem listStops_properties {context : Context} (yields : context.allowYield = false)
    (awaits : context.allowAwait = true) (member : "await" ∈ name :: names) (depth : Nat) :
    ListStops "\x7d" (parseProperty (grammar (depth + 2)) context) cursor := by
  induction texts generalizing cursor text name names with
  | nil =>
      obtain ⟨spelling, ⟨⟩⟩ := List.forall₂_cons.1 spelled
      have property : OnProperty cursor text name "\x7d" chars := ⟨stands, spelling, .inr rfl⟩
      have same : name = "await" := (List.mem_singleton.1 member).symm
      obtain ⟨failure, failed⟩ := property.run_parseProperty_await awaits same depth
      exact .here failed
  | cons nextText texts ih =>
      obtain ⟨spelling, later⟩ := List.forall₂_cons.1 spelled
      obtain ⟨next, names, nextSpelling, -, rfl⟩ := List.forall₂_cons_left_iff.1 later
      have property : OnProperty cursor text name ","
          (' ' :: (nextText.toList ++ propertiesRest nextText texts chars)) :=
        ⟨stands, spelling, .inl rfl⟩
      by_cases same : name = "await"
      · obtain ⟨failure, failed⟩ := property.run_parseProperty_await awaits same depth
        exact .here failed
      · have refers : Refers context.withIn name :=
          ⟨spelling.valid, fun allowed => absurd (yields.symm.trans allowed) (by decide),
            fun _ => same⟩
        have begins := (begins_key nextSpelling texts chars).space
        have rest := ih (property.after.next begins) later (by simpa [Ne.symm same] using member)
        have goesOn : cursor.next.next.next.next.token.kind.isMark "\x7d" = false := by
          rw [(property.after.next begins).kind_eq]; rfl
        exact .later (property.run_parseProperty refers (depth + 1)) property.after.kind_eq goesOn
          rest

end Properties

/-! ## Objects -/

/-- The text of an object behind its opening brace. -/
def objectRest (texts : List String) (chars : List Char) : List Char :=
  match texts with
  | [] => '\x7d' :: chars
  | text :: texts => text.toList ++ propertiesRest text texts chars

section Object

variable {cursor : Cursor} {texts names : List String} {chars : List Char}
  (opens : cursor.At (.mark "\x7b") (objectRest texts chars))
  (spelled : List.Forall₂ IsSpelling texts names)
include opens spelled

/-- The properties of an object are read by what reads one of them. -/
theorem ReadsProperties.run_commaList {β : Type} {element : Parser Node} {Valid : String → Prop}
    {Kept : Cursor → Prop} {view : Node → β} {image : String → β}
    (reads : ReadsProperties element Valid Kept view image) (valid : ∀ name ∈ names, Valid name)
    (kept : Kept cursor) :
    ∃ nodes closing, commaList "\x7d" element cursor.next = .ok ((nodes, none), closing) ∧
      nodes.map view = names.map image ∧ closing.At (.mark "\x7d") chars ∧ Kept closing := by
  cases spelled with
  | nil =>
      have closes := opens.next (begins_mark "\x7d" chars (by decide))
      refine ⟨[], cursor.next, ?_, rfl, closes,
        reads.moves kept opens (begins_mark "\x7d" chars (by decide))⟩
      simp [commaList, closes.kind_eq, Kind.isMark]
  | @cons text name texts names spelling later =>
      have begins : Begins (objectRest (text :: texts) chars) (.word name) _ :=
        begins_key spelling texts chars
      have stands := opens.next begins
      obtain ⟨nodes, closing, listed, seen, closes, kept, long⟩ :=
        reads.listed stands (reads.moves kept opens begins) (.cons spelling later) valid
      refine ⟨nodes, closing, ?_, seen, closes, kept⟩
      have count : nodes.length = names.length + 1 := by
        simpa using congrArg List.length seen
      refine listed.run_commaList (by decide) (by rw [stands.kind_eq]; rfl) ?_
      intro node first read
      have enough := long node first read
      have same := later.length_eq
      omega

/-- An object of plain properties is read with just these properties. -/
theorem run_parseObject {context : Context} (refers : ∀ name ∈ names, Refers context.withIn name)
    (sound : cursor.Sound) (depth : Nat) :
    ∃ (properties : List Node) (closing : Cursor),
      parseObject (grammar (depth + 1)) context cursor =
        .ok (.mk cursor.token.start .object properties, closing.next) ∧
      properties.map plainProperty? = names.map some ∧ closing.At (.mark "\x7d") chars ∧
      closing.Sound := by
  obtain ⟨properties, closing, list, seen, closes, sound⟩ :=
    (readsProperties depth).run_commaList opens spelled refers sound
  refine ⟨properties, closing, ?_, seen, closes, sound⟩
  simp [parseObject, list, closes.kind_eq, Kind.isMark]

/-- An object whose names the operator `await` is among is not read. -/
theorem run_parseObject_await {context : Context} (yields : context.allowYield = false)
    (awaits : context.allowAwait = true) (member : "await" ∈ names) (depth : Nat) :
    ∃ failure, parseObject (grammar (depth + 2)) context cursor = .error failure := by
  cases spelled with
  | nil => cases member
  | cons spelling later =>
      have stands := opens.next (begins_key spelling _ chars)
      obtain ⟨failure, list⟩ :=
        (listStops_properties stands (.cons spelling later) yields awaits member
          depth).run_commaList (by decide) (by rw [stands.kind_eq]; rfl)
      exact ⟨failure, by simp [parseObject, list]⟩

/-- The same text is a pattern. -/
theorem run_parseObjectPattern (context : Context) (depth : Nat) :
    ∃ (node : Node) (closing : Cursor),
      parseObjectPattern (grammar (depth + 1)) context cursor = .ok (node, closing.next) ∧
        closing.At (.mark "\x7d") chars := by
  obtain ⟨properties, closing, list, _, closes, _⟩ :=
    (readsPatternProperties context depth).run_commaList opens spelled (fun _ _ => trivial)
      trivial
  refine ⟨.mk cursor.token.start (.objectPattern .declaring) properties, closing, ?_, closes⟩
  simp [parseObjectPattern, list, closes.kind_eq, Kind.isMark]

end Object

/-! ## Objects in parentheses -/

/-- A brace begins no more than a primary expression. -/
theorem beginsPrimary_brace {cursor : Cursor} (opens : cursor.Plain (.mark "\x7b")) (self : Rules)
    (context : Context) : BeginsPrimary self context cursor where
  notYield := by simp [atYield, opens.kind_eq, Kind.isWord]
  notAwait := by simp [atAwait, opens.kind_eq, Kind.isWord]
  noArrow := by simp [asyncArrow?, opens.kind_eq, Kind.isWord]
  notNew := by rw [opens.kind_eq]; rfl
  noUnary := by simp only [unaryOperator?, opens.kind_eq]; decide
  noUpdate := by rw [opens.kind_eq]; decide
  notOpen := by rw [opens.kind_eq]; rfl
  notTag := by rw [opens.kind_eq]; rfl
  notPrivate := by simp [opens.kind_eq]
  promises := opens.promises

theorem run_parsePrimary_brace {cursor : Cursor} (opens : cursor.token.kind = .mark "\x7b")
    (self : Rules) (context : Context) :
    parsePrimary self context cursor = parseObject self context cursor := by
  simp [parsePrimary, opens]

/-- One expression in parentheses. -/
theorem run_parseParenthesized {self : Rules} {context : Context} {cursor after : Cursor}
    {inner : Node} (opens : cursor.token.kind = .mark "(")
    (begins : (cursor.next.token.kind.isMark ")" || cursor.next.token.kind.isEnd) = false)
    (read : self .assignment context.withIn cursor.next = .ok (inner, after))
    (closes : after.token.kind = .mark ")") :
    parseParenthesized self context cursor =
      .ok (.mk cursor.token.start .parenthesized [markWrapped inner], after.next) := by
  have list := (Listed.last read closes).run_commaList (by decide) begins (by simp)
  simp [parseParenthesized, opens, Kind.isMark, list, closes]

/-- What stands in parentheses is a whole expression where nothing follows. -/
theorem run_parseArrowOrExpression_end {self : Rules} {context : Context} {cursor after : Cursor}
    {node : Node} (promises : cursor.token.promises = [])
    (read : parseParenthesized self context cursor = .ok (node, after))
    (stops : after.token.kind = .stop) :
    parseArrowOrExpression self context cursor = .ok (node, after) := by
  have ends : Ends after.token.kind := .inr (.inr (.inr stops))
  simp [parseArrowOrExpression, attempt, read, stops, Kind.isMark, promised, promises,
    run_parsePostfix_end ends, run_parseBinaryRest_end ends, run_parseAssignmentRest_end ends]

/-- What is neither an expression in parentheses nor parameters before an arrow is not read. -/
theorem run_parseArrowOrExpression_error {self : Rules} {context : Context} {cursor after : Cursor}
    {parameters : Node} {failure : Failure}
    (failed : parseParenthesized self context cursor = .error failure)
    (head : parseParameters self context cursor = .ok (parameters, after))
    (stops : after.token.kind = .stop) :
    parseArrowOrExpression self context cursor = .error failure := by
  have noArrow : arrowHead? self context cursor = .ok (none, cursor) := by
    simp [arrowHead?, attempt, head, stops, Kind.isMark]
  simp [parseArrowOrExpression, attempt, failed, noArrow]
  rfl

section Parenthesized

variable {cursor : Cursor} {texts names : List String}
  (opens : cursor.At (.mark "(") ('\x7b' :: objectRest texts [')']))
  (spelled : List.Forall₂ IsSpelling texts names)
include opens

theorem guess_object : guessArrow cursor.next.token cursor.next.next.token = .possible := by
  have brace := opens.next (begins_mark "\x7b" _ (by decide))
  simp [guessArrow, brace.kind_eq]

include spelled

/-- An object of plain properties in parentheses is a whole expression. -/
theorem run_parseExpression_object
    (refers : ∀ name ∈ names, Refers .module name) (sound : cursor.Sound) (depth : Nat) :
    ∃ (start : Nat) (properties : List Node) (after : Cursor),
      parseExpression (grammar (depth + 3)) .module cursor =
        .ok (.mk start .parenthesized [.mk cursor.next.token.start .object properties], after) ∧
      properties.map plainProperty? = names.map some ∧ after.Sound := by
  have braceBegins := begins_mark "\x7b" (objectRest texts [')']) (by decide)
  have brace := opens.next braceBegins
  obtain ⟨properties, closing, object, seen, closes, closingSound⟩ :=
    run_parseObject brace spelled (show ∀ name ∈ names, Refers Context.module.withIn name from
      refers) (sound.next opens braceBegins) depth
  have closeBegins := begins_mark ")" [] (by decide)
  have close := closes.next closeBegins
  have stop := close.next begins_stop
  have inner : grammar (depth + 2) .assignment Context.module.withIn cursor.next = _ :=
    run_parseAssignment_of_primary (beginsPrimary_brace brace.toPlain _ _)
      ((run_parsePrimary_brace brace.kind_eq _ _).trans object) (.inr (.inl close.kind_eq))
  have parenthesized := run_parseParenthesized opens.kind_eq (by rw [brace.kind_eq]; rfl) inner
    close.kind_eq
  have read := run_parseArrowOrExpression_end opens.promises parenthesized stop.kind_eq
  have assignment : grammar (depth + 3) .assignment .module cursor = _ :=
    (run_parseAssignment_of_guess opens.toPlain (guess_object opens)).trans read
  exact ⟨_, properties, _, run_parseExpression assignment (by rw [stop.kind_eq]; rfl), seen,
    (closingSound.next closes closeBegins).next close begins_stop⟩

/-- The text of the object is also that of a parameter. -/
theorem run_parseParameters_object (depth : Nat) :
    ∃ (parameters : Node) (after : Cursor),
      parseParameters (grammar (depth + 3)) .module cursor = .ok (parameters, after) ∧
        after.token.kind = .stop := by
  have brace := opens.next (begins_mark "\x7b" (objectRest texts [')']) (by decide))
  obtain ⟨node, closing, object, closes⟩ :=
    run_parseObjectPattern brace spelled .module (depth + 1)
  have close := closes.next (begins_mark ")" [] (by decide))
  have pattern : grammar (depth + 3) .pattern .module cursor.next = .ok (node, closing.next) := by
    simp only [grammar, rules, parsePattern, Parser.run_bind, run_kind, brace.kind_eq]
    exact object
  have parameter : parseParameter (grammar (depth + 3)) .module cursor.next =
      .ok (.mk cursor.next.token.start .parameter [node], closing.next) := by
    simp [parseParameter, brace.kind_eq, close.kind_eq, Kind.isMark, pattern]
  have list := (Listed.last parameter close.kind_eq).run_commaList (by decide)
    (by rw [brace.kind_eq]; rfl) (by simp)
  refine ⟨.mk cursor.token.start .parameters [.mk cursor.next.token.start .parameter [node]],
    closing.next.next, ?_, (close.next begins_stop).kind_eq⟩
  simp [parseParameters, opens.kind_eq, Kind.isMark, list, close.kind_eq]

/-- With the operator `await` among its names the object is no expression. -/
theorem run_parseExpression_await (member : "await" ∈ names) (depth : Nat) :
    ∃ failure, parseExpression (grammar (depth + 4)) .module cursor = .error failure := by
  have brace := opens.next (begins_mark "\x7b" (objectRest texts [')']) (by decide))
  have begins : (cursor.next.token.kind.isMark ")" || cursor.next.token.kind.isEnd) = false := by
    rw [brace.kind_eq]; rfl
  obtain ⟨failure, object⟩ := run_parseObject_await brace spelled
    (show Context.module.withIn.allowYield = false from rfl) rfl member depth
  have inner : grammar (depth + 3) .assignment Context.module.withIn cursor.next = .error failure :=
    run_parseAssignment_of_error (beginsPrimary_brace brace.toPlain _ _)
      ((run_parsePrimary_brace brace.kind_eq _ _).trans object)
  obtain ⟨failure, list⟩ := (ListStops.here inner).run_commaList (by decide) begins
  have failed : parseParenthesized (grammar (depth + 3)) .module cursor = .error failure := by
    simp [parseParenthesized, opens.kind_eq, Kind.isMark, list]
  -- The reading as parameters succeeds, but the text ends where an arrow had to follow.
  obtain ⟨parameters, after, head, stops⟩ := run_parseParameters_object opens spelled depth
  have read := run_parseArrowOrExpression_error failed head stops
  have assignment : grammar (depth + 4) .assignment .module cursor = .error failure :=
    (run_parseAssignment_of_guess opens.toPlain (guess_object opens)).trans read
  exact ⟨failure, by simp [parseExpression, assignment]⟩

end Parenthesized

end LoopTemplate.Grammar
