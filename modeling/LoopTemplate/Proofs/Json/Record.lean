import LoopTemplate.Json.Decode
import LoopTemplate.Proofs.Json.Quoted

/-!
# Records that are written and read again

What the decoders of strings, truth values and records yield, given how the value is written. White
space may stand before each of them, as when a value is written on several lines.
-/

namespace LoopTemplate.Json

/-! ## Looking ahead -/

/-- Whether a text is white space between values. -/
def IsGap (gap : List Char) : Prop := ∀ c ∈ gap, isGap c = true

theorem isGap_nil : IsGap [] := by simp [IsGap]

/-- White space is skipped up to a character that is none. -/
theorem skipGap_append {gap : List Char} (blank : IsGap gap) {c : Char} (solid : isGap c = false)
    (rest : List Char) (place : Place) :
    ∃ after, skipGap (gap ++ c :: rest) place = ⟨c :: rest, after⟩ := by
  induction gap generalizing place with
  | nil => exact ⟨place, by simp [skipGap, solid]⟩
  | cons first gap ih =>
      have firstBlank := blank first List.mem_cons_self
      obtain ⟨after, done⟩ := ih (fun c member => blank c (List.mem_cons_of_mem _ member))
        (place.advance first)
      exact ⟨after, by simp [skipGap, firstBlank, done]⟩

section Looking

variable {α : Type} {gap text rest : List Char} {c : Char} {value : α}

theorem yields_peekPastGap? (blank : IsGap gap) (solid : isGap c = false) (rest : List Char) :
    Yields peekPastGap? (gap ++ c :: rest) (some c) (c :: rest) := by
  intro place
  obtain ⟨after, skipped⟩ := skipGap_append blank solid rest place
  refine ⟨after, ?_⟩
  change (Except.ok (skipGap (gap ++ c :: rest) place).chars.head?,
    skipGap (gap ++ c :: rest) place) = _
  rw [skipped]
  rfl

theorem yields_peekValue (blank : IsGap gap) (solid : isGap c = false) (rest : List Char) :
    Yields peekValue (gap ++ c :: rest) c (c :: rest) :=
  (yields_peekPastGap? blank solid rest).bind (yields_pure c _)

theorem Yields.placed {decoder : Decoder α} (yields : Yields decoder text value rest) :
    Yields (Json.placed decoder) text value rest := by
  intro place
  obtain ⟨after, done⟩ := yields place
  refine ⟨after, ?_⟩
  dsimp only [Json.placed, ExceptT.run_mk, StateT.run]
  rw [show decoder.run _ = _ from done]

/-- A value and its end are read one after the other. -/
theorem Yields.closedBy {decoder : Decoder α} {close : Decoder Unit} {middle : List Char}
    (yields : Yields decoder text value middle) (closes : Yields close middle () rest) :
    Yields (Json.closedBy decoder close) text value rest := by
  intro place
  obtain ⟨between, done⟩ := yields place
  obtain ⟨after, closed⟩ := closes between
  refine ⟨after, ?_⟩
  dsimp only [Json.closedBy, ExceptT.run_mk, StateT.run]
  rw [show decoder.run _ = _ from done]
  dsimp only
  rw [show close.run _ = _ from closed]

end Looking

/-! ## Simple values -/

section Values

variable {gap : List Char}

theorem yields_decodeString (blank : IsGap gap) (text : String) (rest : List Char) :
    Yields decodeString (gap ++ (quote text.toList ++ rest)) text rest := by
  have read := yields_readString text.toList rest
  rw [String.ofList_toList] at read
  exact ((yields_peekValue blank rfl _).bind read).placed

theorem yields_decodeBoolean (blank : IsGap gap) (value : Bool) (rest : List Char) :
    Yields decodeBoolean (gap ++ ((if value then "true" else "false").toList ++ rest)) value
      rest := by
  refine Yields.placed ?_
  cases value with
  | true =>
      refine (yields_peekValue blank rfl _).bind ?_
      exact (yields_eat 't' _).bind ((yields_readWord "rue".toList rest).map fun _ => true)
  | false =>
      refine (yields_peekValue blank rfl _).bind ?_
      exact (yields_eat 'f' _).bind ((yields_readWord "alse".toList rest).map fun _ => false)

/-- A name in quotes is read as what it stands for. -/
theorem yields_decodeVariant {α : Type} {variants : List (String × α)} {name : String} {value : α}
    (blank : IsGap gap) (known : variants.lookup name = some value) (rest : List Char) :
    Yields (decodeVariant variants) (gap ++ (quote name.toList ++ rest)) value rest := by
  have named : Yields (decodeName variants) (quote name.toList ++ rest) value rest := by
    refine Yields.placed ((@yields_peekValue [] '"' isGap_nil rfl _).bind ?_)
    refine (yields_readString name.toList rest).bind ?_
    rw [String.ofList_toList, known]
    exact yields_pure value rest
  exact (yields_peekValue blank rfl _).bind named

/-- A value that is no `null` is there. -/
theorem Yields.optional {α : Type} {decoder : Decoder α} {text rest : List Char} {c : Char}
    {value : α}
    (yields : Yields decoder (c :: text) value rest) (blank : IsGap gap) (solid : isGap c = false)
    (notNull : c ≠ 'n') : Yields (decodeOptional decoder) (gap ++ c :: text) (some value) rest := by
  refine (yields_peekPastGap? blank solid text).bind ?_
  split
  case h_1 same => exact absurd (Option.some.inj same) notNull
  case h_2 => exact yields.map some

/-- A text in quotes is read as a text that is there. -/
theorem yields_optionalString (blank : IsGap gap) (text : String) (rest : List Char) :
    Yields (decodeOptional decodeString) (gap ++ (quote text.toList ++ rest)) (some text) rest :=
  (yields_decodeString isGap_nil text rest).optional blank rfl (by decide)

end Values

/-! ## Records -/

section Records

variable {σ : Type} {fields : List (RecordField σ)}

/-- A quoted name comes next, perhaps behind a comma. -/
theorem yields_hasEntry (first : Bool) {gap : List Char} (blank : IsGap gap) (rest : List Char) :
    Yields (hasEntry first) ((if first then [] else [',']) ++ (gap ++ '"' :: rest)) true
      ('"' :: rest) := by
  cases first with
  | true => exact (yields_peekPastGap? blank rfl rest).bind (yields_pure true _)
  | false =>
      refine (yields_peekPastGap? isGap_nil rfl _).bind ((yields_eat ',' _).bind ?_)
      exact (yields_peekPastGap? blank rfl rest).bind (yields_pure true _)

/-- The object ends. -/
theorem yields_hasEntry_false (first : Bool) {gap : List Char} (blank : IsGap gap)
    (rest : List Char) :
    Yields (hasEntry first) (gap ++ '\x7d' :: rest) false ('\x7d' :: rest) :=
  (yields_peekPastGap? blank rfl rest).bind (yields_pure false _)

theorem yields_readColon (rest : List Char) : Yields readColon (':' :: rest) () rest :=
  (yields_peekPastGap? isGap_nil rfl rest).bind (yields_eat ':' rest)

theorem yields_closeObject {gap : List Char} (blank : IsGap gap) (rest : List Char) :
    Yields closeObject (gap ++ '\x7d' :: rest) () rest :=
  (yields_peekPastGap? blank rfl rest).bind (yields_eat '\x7d' rest)

/-- How the text before the brace that ends an object fills a record in which the given names were
seen: entries one after the other, all but the first with a comma before it. -/
inductive Entries (fields : List (RecordField σ)) :
    Bool → List String → σ → List Char → σ → List String → List Char → Prop where
  | nil {first : Bool} {seen : List String} {record : σ} {gap rest : List Char}
      (blank : IsGap gap) :
      Entries fields first seen record (gap ++ '\x7d' :: rest) record seen ('\x7d' :: rest)
  | cons {first : Bool} {seen names : List String} {record middle filled : σ}
      {gap value text rest : List Char} {field : RecordField σ} (blank : IsGap gap)
      (known : fields.find? (fun other => other.name == field.name) = some field)
      (new : field.name ∉ seen) (read : Yields (field.read record) value middle text)
      (shorter : text.length ≤ value.length)
      (later : Entries fields false (field.name :: seen) middle text filled names rest) :
      Entries fields first seen record
        ((if first then [] else [',']) ++ (gap ++ (quote field.name.toList ++ ':' :: value)))
        filled names rest

theorem Entries.yields {first : Bool} {seen names : List String} {record filled : σ}
    {text rest : List Char} (entries : Entries fields first seen record text filled names rest)
    {bound : Nat} (enough : text.length < bound) :
    Yields (readEntries fields bound first seen record) text (filled, names) rest := by
  induction entries generalizing bound with
  | @nil first seen record gap rest blank =>
      cases bound with
      | zero => cases enough
      | succ bound => exact (yields_hasEntry_false first blank rest).bind (yields_pure _ _)
  | @cons first seen names record middle filled gap value text rest field blank known new read
      shorter later ih =>
      cases bound with
      | zero => cases enough
      | succ bound =>
          have fewer : text.length < bound := by
            simp only [List.length_append, List.length_cons] at enough
            omega
          rw [readEntries]
          refine (yields_hasEntry first blank _).bind ?_
          refine (yields_readString field.name.toList (':' :: value)).bind ?_
          rw [String.ofList_toList, known]
          dsimp only
          rw [if_neg new]
          exact (yields_readColon value).bind (read.bind (ih fewer))

/-- One more entry of a record, under the name of its field. -/
theorem Entries.named {first : Bool} {seen names : List String} {record middle filled : σ}
    {gap value text rest : List Char} (name : String) {field : RecordField σ} (blank : IsGap gap)
    (known : fields.find? (fun other => other.name == name) = some field)
    (new : name ∉ seen) (read : Yields (field.read record) value middle text)
    (shorter : text.length ≤ value.length)
    (later : Entries fields false (name :: seen) middle text filled names rest) :
    Entries fields first seen record
      ((if first then [] else [',']) ++ (gap ++ (quote name.toList ++ ':' :: value)))
      filled names rest := by
  obtain rfl : field.name = name := by simpa using List.find?_some known
  exact Entries.cons blank known new read shorter later

/-- A record is read from its entries in braces, if no field is missing that must be there. -/
theorem Entries.yields_decodeRecord {names : List String} {initial filled : σ}
    {text rest : List Char}
    (entries : Entries fields true [] initial text filled names ('\x7d' :: rest))
    (complete : ∀ field ∈ fields, field.required = true → field.name ∈ names) (name : String) :
    Yields (decodeRecord name fields initial) ('\x7b' :: text) filled rest := by
  have whole : Yields (readObject fields initial) text filled ('\x7d' :: rest) := by
    intro place
    obtain ⟨after, done⟩ := entries.yields (Nat.lt_succ_self text.length) place
    have missing : fields.find? (fun field => field.required && !names.contains field.name) =
        none := by
      simpa using complete
    have asked : (get : Decoder Reader).run.run ⟨text, place⟩ =
        (.ok ⟨text, place⟩, ⟨text, place⟩) :=
      rfl
    refine ⟨after, ?_⟩
    rw [readObject, run_bind_of_ok asked, run_bind_of_ok done]
    dsimp only
    rw [missing]
    rfl
  refine Yields.placed ((yields_peekValue isGap_nil rfl text).bind ((yields_eat _ _).bind ?_))
  exact whole.closedBy (yields_closeObject isGap_nil rest)

end Records

/-- A text that holds one value and nothing else is decoded. -/
theorem Yields.decode_eq {α : Type} {decoder : Decoder α} {text : String} {value : α}
    (yields : Yields decoder text.toList value []) : decode decoder text = .ok value := by
  obtain ⟨after, done⟩ := yields .first
  exact congrArg Prod.fst (run_bind_of_ok done)

end LoopTemplate.Json
