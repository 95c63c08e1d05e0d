import LoopTemplate.Proofs.Json.Record
import Mathlib.Data.List.Nodup

/-!
# Records on several lines

An object that is written on several lines is read as the record that its fields fill one after the
other (`Fills.yields_decodeRecord`). Each field needs to be read back at its place only, behind the
colon and a blank, so what can be said of fields is put together as their list is.
-/

namespace LoopTemplate.Json

/-! ## Lines -/

theorem isGap_space : IsGap [' '] := by simp [IsGap, isGap]

theorem isGap_lineStart (level : Nat) : IsGap (lineStart level) := by
  intro c member
  rcases List.mem_cons.1 member with rfl | inside
  · rfl
  · rw [List.eq_of_mem_replicate inside]
    rfl

/-- Fields on lines of their own, each with a comma before its line if a field comes before. -/
def fieldLines (level : Nat) : Bool → List (String × Value) → List Char
  | _, [] => []
  | first, (name, value) :: written =>
      (if first then [] else [',']) ++ (lineStart level ++ (quote name.toList ++
        ':' :: ' ' :: (prettyChars level value ++ fieldLines level false written)))

theorem separated_prettyFields (level : Nat) (field : String × Value)
    (written : List (String × Value)) :
    lineStart level ++ separated (',' :: lineStart level) (prettyFields level (field :: written)) =
      fieldLines level true (field :: written) := by
  induction written generalizing field with
  | nil => simp [prettyFields, separated, fieldLines]
  | cons next written ih =>
      have later : ',' :: fieldLines level true (next :: written) =
          fieldLines level false (next :: written) := by
        simp [fieldLines]
      rw [prettyFields, fieldLines, ← later, ← ih next, prettyFields]
      simp [separated]

/-- An object is written in braces, and its fields on lines of their own. -/
theorem prettyChars_object (level : Nat) (written : List (String × Value)) :
    ∃ gap, IsGap gap ∧ prettyChars level (.object written) =
      '\x7b' :: (fieldLines (level + 1) true written ++ (gap ++ ['\x7d'])) := by
  cases written with
  | nil => exact ⟨[], isGap_nil, by simp [prettyChars, fieldLines]⟩
  | cons field written =>
      refine ⟨lineStart level, isGap_lineStart level, ?_⟩
      rw [← separated_prettyFields, prettyChars]
      simp

/-! ## Fields -/

section Fields

variable {σ : Type} {fields : List (RecordField σ)} {level : Nat}

/-- Whether fields that are written on lines of their own turn a record into another one. -/
inductive Fills (fields : List (RecordField σ)) (level : Nat) :
    σ → List (String × Value) → σ → Prop where
  | nil (record : σ) : Fills fields level record [] record
  | cons {record middle filled : σ} {field : RecordField σ} {value : Value}
      {written : List (String × Value)}
      (known : fields.find? (fun other => other.name == field.name) = some field)
      (read : ∀ rest,
        Yields (field.read record) (' ' :: (prettyChars level value ++ rest)) middle rest)
      (later : Fills fields level middle written filled) :
      Fills fields level record ((field.name, value) :: written) filled

theorem Fills.append {record middle filled : σ} {written more : List (String × Value)}
    (fills : Fills fields level record written middle)
    (later : Fills fields level middle more filled) :
    Fills fields level record (written ++ more) filled := by
  induction fills with
  | nil => exact later
  | cons known read _ ih => exact .cons known read (ih later)

/-- A single field fills in what is read of it. -/
theorem fills_field {record filled : σ} {name : String} {value : Value} {field : RecordField σ}
    (known : fields.find? (fun other => other.name == name) = some field)
    (read : ∀ rest,
      Yields (field.read record) (' ' :: (prettyChars level value ++ rest)) filled rest) :
    Fills fields level record [(name, value)] filled := by
  obtain rfl : field.name = name := by simpa using List.find?_some known
  exact .cons known read (.nil filled)

/-- The names that were seen once all fields are read. -/
theorem Fills.entries {first : Bool} {seen : List String} {record filled : σ}
    {written : List (String × Value)} {gap : List Char}
    (fills : Fills fields level record written filled)
    (distinct : (written.map Prod.fst ++ seen).Nodup) (blank : IsGap gap) (rest : List Char) :
    Entries fields first seen record (fieldLines level first written ++ (gap ++ '\x7d' :: rest))
      filled ((written.map Prod.fst).reverse ++ seen) ('\x7d' :: rest) := by
  induction fills generalizing first seen with
  | nil => exact .nil blank
  | @cons record middle filled field value written known read later ih =>
      rw [List.map_cons, List.cons_append] at distinct
      have new : field.name ∉ seen :=
        fun member => (List.nodup_cons.1 distinct).1 (List.mem_append_right _ member)
      have next := @ih false (field.name :: seen) (List.nodup_middle.2 distinct)
      have entry : Entries fields first seen record _ filled _ ('\x7d' :: rest) :=
        .cons (isGap_lineStart level) known new (read _) (by simp; omega) next
      simpa [fieldLines] using entry

/-- A record is read from an object on several lines, if no field is missing that must be there. -/
theorem Fills.yields_decodeRecord {initial filled : σ} {written : List (String × Value)}
    (fills : Fills fields (level + 1) initial written filled)
    (distinct : (written.map Prod.fst).Nodup)
    (complete : ∀ field ∈ fields, field.required = true → field.name ∈ written.map Prod.fst)
    (name : String) (rest : List Char) :
    Yields (decodeRecord name fields initial) (prettyChars level (.object written) ++ rest)
      filled rest := by
  obtain ⟨gap, blank, text_eq⟩ := prettyChars_object level written
  have entries := @Fills.entries _ _ _ true [] _ _ _ _ fills (by simpa using distinct) blank rest
  have all : ∀ field ∈ fields, field.required = true →
      field.name ∈ (written.map Prod.fst).reverse ++ [] := by
    intro field member required
    rw [List.append_nil, List.mem_reverse]
    exact complete field member required
  rw [text_eq]
  simpa using entries.yields_decodeRecord all name

end Fields

end LoopTemplate.Json
