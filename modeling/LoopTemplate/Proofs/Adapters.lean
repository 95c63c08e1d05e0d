import LoopTemplate.Proofs.Comparison
import LoopTemplate.Proofs.Reading.Element
import LoopTemplate.Proofs.Text.Blank
import Mathlib.Computability.Language

/-!
# Valid names and adapters

The names that are valid for an attribute are the words of a regular language (`attributeNames`),
and validation accepts just these (`exists_validateName_iff`). An adapter and its configuration
determine each other (`ofConfig_eq_ok`).

The same names are the ones that markup is read and searched with: an element with a valid name
for its only attribute has a value under that name, and under no other
(`valid_names_are_attributes`).
-/

namespace LoopTemplate.Loop

open LoopTemplate.Grammar (elementText quotedAttribute)
open LoopTemplate.Tree (Node)
open scoped Computability

/-! ## The language of attribute names -/

/-- The words of one character with a property. -/
def single (Accepts : Char → Prop) : Language Char := {word | ∃ c, Accepts c ∧ word = [c]}

/-- A letter or underscore, then letters, digits, underscores and dashes. -/
def nameParts : Language Char :=
  single (fun c => c.isAlpha ∨ c = '_') * (single fun c => c.isAlphanum ∨ c = '_' ∨ c = '-')∗

/-- One part, or two parts with a colon between them. -/
def attributeNames : Language Char := nameParts * (1 + single (· = ':') * nameParts)

theorem mem_kstar_single {Accepts : Char → Prop} {word : List Char} :
    word ∈ (single Accepts)∗ ↔ ∀ c ∈ word, Accepts c := by
  rw [Language.mem_kstar]
  constructor
  · rintro ⟨words, rfl, accepted⟩ c member
    obtain ⟨inner, among, inside⟩ := List.mem_flatten.1 member
    obtain ⟨d, accepts, rfl⟩ := accepted inner among
    rwa [List.mem_singleton.1 inside]
  · intro accepted
    refine ⟨word.map ([·]), by rw [← List.flatMap_def, List.flatMap_singleton'], ?_⟩
    intro inner among
    obtain ⟨c, member, rfl⟩ := List.mem_map.1 among
    exact ⟨c, accepted c member, rfl⟩

theorem mem_single_mul {Accepts : Char → Prop} {rest : Language Char} {word : List Char} :
    word ∈ single Accepts * rest ↔ ∃ c chars, Accepts c ∧ chars ∈ rest ∧ word = c :: chars := by
  rw [Language.mem_mul]
  constructor
  · rintro ⟨_, ⟨c, accepts, rfl⟩, chars, member, rfl⟩
    exact ⟨c, chars, accepts, member, rfl⟩
  · rintro ⟨c, chars, accepts, member, rfl⟩
    exact ⟨[c], ⟨c, accepts, rfl⟩, chars, member, rfl⟩

theorem isAsciiLetter_eq (c : Char) : Text.isAsciiLetter c = c.isAlpha := by
  have upper : c.isUpper = decide ('A' ≤ c ∧ c ≤ 'Z') := rfl
  have alpha : c.isAlpha = (c.isUpper || c.isLower) := rfl
  rw [alpha, upper, Bool.decide_and, Bool.or_comm]
  rfl

theorem beginsAttributeName_iff {c : Char} :
    beginsAttributeName c = true ↔ c.isAlpha ∨ c = '_' := by
  rw [beginsAttributeName, Bool.or_eq_true, isAsciiLetter_eq, beq_iff_eq]

theorem continuesAttributeName_iff {c : Char} :
    continuesAttributeName c = true ↔ c.isAlphanum ∨ c = '_' ∨ c = '-' := by
  simp only [continuesAttributeName, Bool.or_eq_true, isAsciiLetter_eq, beq_iff_eq, Char.isAlphanum,
    Text.isAsciiDigit, Char.isDigit, or_assoc]
  rfl

/-- The parts of names that the model accepts are those of the language. -/
theorem isAttributePart_iff {part : List Char} :
    isAttributePart part = true ↔ part ∈ nameParts := by
  rw [nameParts, mem_single_mul]
  cases part with
  | nil => simp [isAttributePart]
  | cons c chars =>
      simp only [isAttributePart, Bool.and_eq_true, beginsAttributeName_iff, List.all_eq_true,
        continuesAttributeName_iff, List.cons.injEq]
      constructor
      · rintro ⟨begins, continues⟩
        exact ⟨c, chars, begins, mem_kstar_single.2 continues, rfl, rfl⟩
      · rintro ⟨_, _, begins, continues, rfl, rfl⟩
        exact ⟨begins, mem_kstar_single.1 continues⟩

theorem colon_not_mem {part : List Char} (member : part ∈ nameParts) : ':' ∉ part := by
  rw [nameParts, mem_single_mul] at member
  obtain ⟨c, chars, begins, continues, rfl⟩ := member
  rw [List.mem_cons, not_or]
  constructor
  · rintro rfl
    revert begins
    decide
  · intro inside
    have continued := mem_kstar_single.1 continues ':' inside
    revert continued
    decide

/-- The names that are valid are the words of the language. -/
theorem isAttributeName_iff {name : List Char} :
    isAttributeName name = true ↔ name ∈ attributeNames := by
  rw [attributeNames, mul_add, mul_one, Language.mem_add, Language.mem_mul]
  constructor
  · intro valid
    rcases Grammar.isAttributeName_cases valid with
      ⟨-, part⟩ | ⟨space, part, -, rfl, spaceValid, partValid⟩
    · exact .inl (isAttributePart_iff.1 part)
    · refine .inr ⟨space, isAttributePart_iff.1 spaceValid, ':' :: part, ?_, rfl⟩
      exact mem_single_mul.2 ⟨':', part, rfl, isAttributePart_iff.1 partValid, rfl⟩
  · -- Parts have no colon in them, so the first colon of a name is the one between its parts.
    rintro (part | ⟨space, spaceIn, rest, restIn, rfl⟩)
    · have plain : name.dropWhile (· != ':') = [] := by
        rw [List.dropWhile_eq_nil_iff]
        intro c member
        simpa using ne_of_mem_of_not_mem member (colon_not_mem part)
      rw [isAttributeName, plain]
      exact isAttributePart_iff.2 part
    · obtain ⟨_, part, rfl, partIn, rfl⟩ := mem_single_mul.1 restIn
      have clear : ∀ c ∈ space, (c != ':') = true := by
        intro c member
        simpa using ne_of_mem_of_not_mem member (colon_not_mem spaceIn)
      have dropped : (space ++ ':' :: part).dropWhile (· != ':') = ':' :: part := by
        rw [List.dropWhile_append_of_pos clear]
        rfl
      have taken : (space ++ ':' :: part).takeWhile (· != ':') = space := by
        rw [List.takeWhile_append_of_pos clear]
        simp
      rw [isAttributeName, dropped, taken]
      simp only [isAttributePart_iff.2 spaceIn, isAttributePart_iff.2 partIn, Bool.and_self]

/-! ## Validation -/

theorem isBlank_of_begins {c : Char} (begins : c.isAlpha ∨ c = '_') : Text.isBlank c = false := by
  rcases begins with letter | rfl
  · have bounds : 97 ≤ c.toNat ∧ c.toNat ≤ 122 ∨ 65 ≤ c.toNat ∧ c.toNat ≤ 90 := by
      rw [← isAsciiLetter_eq] at letter
      simp only [Text.isAsciiLetter, Bool.or_eq_true, Bool.and_eq_true, decide_eq_true_eq] at letter
      exact letter
    simp only [Text.isBlank, Bool.or_eq_false_iff, Bool.and_eq_false_iff, decide_eq_false_iff_not,
      beq_eq_false_iff_ne]
    omega
  · decide

/-- A valid name is more than white space. -/
theorem isEmpty_trim_of_mem {name : String} (member : name.toList ∈ attributeNames) :
    (Text.trim name).isEmpty = false := by
  obtain ⟨part, partIn, rest, -, whole⟩ := Language.mem_mul.1 member
  obtain ⟨c, chars, begins, -, rfl⟩ := mem_single_mul.1 partIn
  rw [Text.isEmpty_trim, ← whole, List.cons_append, List.all_cons, isBlank_of_begins begins]
  rfl

/-- Validation accepts the words of the language, and leaves them as they are. -/
theorem validateName_eq_ok {role : Role} {name : String} {valid : ValidName} :
    validateName role name = .ok valid ↔ valid.val = name := by
  unfold validateName
  constructor
  · intro accepted
    split_ifs at accepted
    cases accepted
    rfl
  · rintro rfl
    rw [isEmpty_trim_of_mem (isAttributeName_iff.1 valid.property), dif_pos valid.property]
    rfl

theorem exists_validateName_iff {role : Role} {name : String} :
    (∃ valid, validateName role name = .ok valid) ↔ name.toList ∈ attributeNames := by
  rw [← isAttributeName_iff]
  constructor
  · rintro ⟨valid, accepted⟩
    rw [← validateName_eq_ok.1 accepted]
    exact valid.property
  · exact fun valid => ⟨⟨name, valid⟩, validateName_eq_ok.2 rfl⟩

/-! ## Adapters -/

theorem ofNames_eq_ok {collection item index : String} {adapter : Adapter} :
    Adapter.ofNames collection item index = .ok adapter ↔
      adapter.collection = collection ∧ adapter.item = item ∧ adapter.index = index := by
  unfold Adapter.ofNames
  constructor
  · intro accepted
    obtain ⟨validCollection, collectionOk, accepted⟩ := except_bind_eq_ok accepted
    obtain ⟨validItem, itemOk, accepted⟩ := except_bind_eq_ok accepted
    obtain ⟨validIndex, indexOk, accepted⟩ := except_bind_eq_ok accepted
    cases accepted
    exact ⟨validateName_eq_ok.1 collectionOk, validateName_eq_ok.1 itemOk,
      validateName_eq_ok.1 indexOk⟩
  · rintro ⟨rfl, rfl, rfl⟩
    have accepted : ∀ role name (valid : isAttributeName name.toList = true),
        validateName role name = .ok ⟨name, valid⟩ := fun _ _ _ => validateName_eq_ok.2 rfl
    rw [except_bind_of_ok (accepted _ _ adapter.collection_valid),
      except_bind_of_ok (accepted _ _ adapter.item_valid),
      except_bind_of_ok (accepted _ _ adapter.index_valid)]
    rfl

theorem requireRole_eq_ok {role : Role} {value : Option String} {name : String} :
    Adapter.requireRole role value = .ok name ↔ value = some name := by
  cases value <;> simp [Adapter.requireRole]

/-- An adapter is configured by its own configuration and by no other. -/
theorem ofConfig_eq_ok {config : AdapterConfig} {adapter : Adapter} :
    Adapter.ofConfig config = .ok adapter ↔ config = adapter.toConfig := by
  constructor
  · intro accepted
    obtain ⟨collection, collectionThere, accepted⟩ := except_bind_eq_ok accepted
    obtain ⟨item, itemThere, accepted⟩ := except_bind_eq_ok accepted
    obtain ⟨index, indexThere, accepted⟩ := except_bind_eq_ok accepted
    obtain ⟨rfl, rfl, rfl⟩ := ofNames_eq_ok.1 accepted
    rw [requireRole_eq_ok] at collectionThere itemThere indexThere
    rw [Adapter.toConfig, ← collectionThere, ← itemThere, ← indexThere]
  · rintro rfl
    have there : ∀ role name, Adapter.requireRole role (some name) = .ok name :=
      fun _ _ => requireRole_eq_ok.2 rfl
    rw [Adapter.ofConfig, Adapter.toConfig, except_bind_of_ok (there _ _),
      except_bind_of_ok (there _ _), except_bind_of_ok (there _ _), ofNames_eq_ok]
    exact ⟨rfl, rfl, rfl⟩

/-- A configuration makes an adapter if no role is missing and all names are valid. -/
theorem exists_ofConfig_iff {config : AdapterConfig} :
    (∃ adapter, Adapter.ofConfig config = .ok adapter) ↔
      ∀ value ∈ [config.collection, config.item, config.index],
        ∃ name, value = some name ∧ name.toList ∈ attributeNames := by
  simp only [← isAttributeName_iff, List.mem_cons, List.not_mem_nil, or_false, forall_eq_or_imp,
    forall_eq]
  constructor
  · rintro ⟨adapter, made⟩
    rw [ofConfig_eq_ok.1 made]
    exact ⟨⟨_, rfl, adapter.collection_valid⟩, ⟨_, rfl, adapter.item_valid⟩,
      ⟨_, rfl, adapter.index_valid⟩⟩
  · obtain ⟨_, _, _⟩ := config
    rintro ⟨⟨collection, rfl, collectionValid⟩, ⟨item, rfl, itemValid⟩, ⟨index, rfl, indexValid⟩⟩
    exact ⟨⟨collection, item, index, collectionValid, itemValid, indexValid⟩, ofConfig_eq_ok.2 rfl⟩

/-! ## Attributes of elements -/

/-- The tag has one attribute, which only the given name spells, and under which the given text is
found. -/
structure HasOnly (name text : String) (opening : Node) : Prop where
  attribute_eq : ∃ start inner found,
    opening.parts = [.mk start (.attribute found) [.mk inner (.quoted text) []]] ∧
      ∀ other, spells found other = true ↔ other = name
  stringAttribute?_iff : ∀ other value,
    stringAttribute? opening other = some value ↔ other = name ∧ value = text

theorem hasOnly_quotedAttribute (outer start inner : Nat) (form : Tree.Form) (name text : String) :
    HasOnly name text (.mk outer form [quotedAttribute start inner name.toList text.toList]) where
  attribute_eq := by
    refine ⟨start, inner, Grammar.attributeNameOf name.toList, ?_, fun other => ?_⟩
    · simp [quotedAttribute]
    · rw [spells_attributeNameOf_iff, eq_comm]
  stringAttribute?_iff := by
    intro other value
    rw [stringAttribute?, Tree.Node.parts, List.findSome?_singleton, stringValue?_quotedAttribute]
    split
    case isTrue same => simp [same, eq_comm]
    case isFalse differ => simp [Ne.symm differ]

/-- A name is valid for a role if it is a word of the language. Then it is an attribute of markup
as it stands, which is found by this name only, whatever the tag and the value are. So adapters,
which are made of valid names, are given back by their configurations. -/
theorem valid_names_are_attributes :
    (∀ (role : Role) (name : String),
      (∃ valid, validateName role name = .ok valid) ↔ name.toList ∈ attributeNames) ∧
    (∀ (role : Role) (name : String) (valid : ValidName), validateName role name = .ok valid →
      ∀ tag text : String, tag.toList ∈ nameParts → '"' ∉ text.toList →
        ∃ outer opening, Grammar.readExpression (elementText tag name text).toList =
          .ok (.mk outer .element [opening]) ∧ HasOnly name text opening) ∧
    ∀ adapter : Adapter, Adapter.ofConfig adapter.toConfig = .ok adapter := by
  refine ⟨fun _ _ => exists_validateName_iff, ?_, fun _ => ofConfig_eq_ok.2 rfl⟩
  intro role name valid accepted tag text tagPart bare
  have nameValid := isAttributeName_iff.2 (exists_validateName_iff.1 ⟨valid, accepted⟩)
  obtain ⟨outer, start, inner, read⟩ :=
    Grammar.readExpression_elementText (isAttributePart_iff.2 tagPart) nameValid bare
  exact ⟨outer, _, read, hasOnly_quotedAttribute outer start inner _ name text⟩

theorem dashed_names_are_attributes :
    (∃ valid, validateName .item "a-:b--" = .ok valid) ∧ "x-y".toList ∈ nameParts ∧
      ∃ outer opening, Grammar.readExpression (elementText "x-y" "a-:b--" "it's <b>").toList =
        .ok (.mk outer .element [opening]) ∧ HasOnly "a-:b--" "it's <b>" opening := by
  have accepted : validateName .item "a-:b--" = .ok ⟨"a-:b--", by decide⟩ :=
    validateName_eq_ok.2 rfl
  have tagPart : "x-y".toList ∈ nameParts := isAttributePart_iff.1 (by decide)
  exact ⟨⟨_, accepted⟩, tagPart,
    valid_names_are_attributes.2.1 _ _ _ accepted "x-y" "it's <b>" tagPart (by decide)⟩

end LoopTemplate.Loop
