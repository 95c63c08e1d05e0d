import LoopTemplate.Json.Skip

/-!
# Values of a known shape

Strings, truth values, names from a list, values that may be `null`, and records. A record is
written as an object, whose unknown fields are passed, or as a list of its fields in order.
-/

namespace LoopTemplate.Json

/-! ## Simple values -/

/-- A string. -/
def decodeString : Decoder String := placed do
  if (← peekValue) = '"' then readString else failType "a string"

/-- A truth value. -/
def decodeBoolean : Decoder Bool := placed do
  let c ← peekValue
  if c = 't' then
    eat
    readWord "rue".toList
    return true
  else if c = 'f' then
    eat
    readWord "alse".toList
    return false
  else failType "a boolean"

/-- A value that may be `null`. -/
def decodeOptional {α : Type} (decoder : Decoder α) : Decoder (Option α) := do
  match ← peekPastGap? with
  | some 'n' =>
      eat
      readWord "ull".toList
      return none
  | _ => return some (← decoder)

/-- The `null` behind the name of a variant in an object. -/
def decodeNull : Decoder Unit := placed do
  if (← peekValue) = 'n' then
    eat
    readWord "ull".toList
  else failType "unit"

/-- One of several names, in quotes. -/
def decodeName {α : Type} (variants : List (String × α)) : Decoder α := placed do
  if (← peekValue) = '"' then
    let name ← readString
    match variants.lookup name with
    | some value => return value
    | none => failUnplaced (.unknownVariant name (variants.map Prod.fst))
  else failType "variant identifier"

/-- One of several names: in quotes, or as the only field of an object whose value is `null`. -/
def decodeVariant {α : Type} (variants : List (String × α)) : Decoder α := do
  let c ← peekValue
  if c = '"' then decodeName variants
  else if c = '\x7b' then
    eat
    let value ← decodeName variants
    match ← peekPastGap? with
    | some ':' => eat
    | some _ => failNext .expectedColon
    | none => failNext .endOfObject
    decodeNull
    match ← peekPastGap? with
    | some '\x7d' =>
        eat
        return value
    | some _ => failHere .expectedValue
    | none => failHere .endOfObject
  else failNext .expectedValue

/-! ## Records -/

/-- A field of a record `σ` that is being filled. -/
structure RecordField (σ : Type) where
  name : String
  required : Bool
  read : σ → Decoder σ

/-- Whether another entry of an object follows. -/
def hasEntry (first : Bool) : Decoder Bool := do
  match ← peekPastGap? with
  | none => failNext .endOfObject
  | some c =>
      if c = '\x7d' then return false
      else if first then
        if c = '"' then return true else failNext .keyNotString
      else if c = ',' then
        eat
        match ← peekPastGap? with
        | some '"' => return true
        | some '\x7d' => failNext .trailingComma
        | some _ => failNext .keyNotString
        | none => failNext .endOfValue
      else failNext .expectedObjectEnd

/-- Passes the colon behind a key. -/
def readColon : Decoder Unit := do
  match ← peekPastGap? with
  | some ':' => eat
  | some _ => failNext .expectedColon
  | none => failNext .endOfObject

/-- Reads the entries of an object. Each field may come once. -/
def readEntries {σ : Type} (fields : List (RecordField σ)) :
    Nat → Bool → List String → σ → Decoder (σ × List String)
  | 0, _, _, _ => failNext .endOfObject
  | bound + 1, first, seen, record => do
      if ← hasEntry first then
        let name ← readString
        match fields.find? fun field => field.name == name with
        | some field =>
            if name ∈ seen then failUnplaced (.duplicateField name)
            readColon
            let record ← field.read record
            readEntries fields bound false (name :: seen) record
        | none =>
            readColon
            skipValue
            readEntries fields bound false seen record
      else return (record, seen)

/-- A record written as an object, behind its opening brace. -/
def readObject {σ : Type} (fields : List (RecordField σ)) (initial : σ) : Decoder σ := do
  let (record, seen) ← readEntries fields ((← get).chars.length + 1) true [] initial
  match fields.find? fun field => field.required && !seen.contains field.name with
  | some field => failUnplaced (.missingField field.name)
  | none => return record

/-- The end of an object. -/
def closeObject : Decoder Unit := do
  match ← peekPastGap? with
  | some '\x7d' => eat
  | some ',' => failNext .trailingComma
  | some _ => failNext .trailingCharacters
  | none => failNext .endOfObject

/-- Whether another element of a list follows. -/
def hasElement (first : Bool) : Decoder Bool := do
  match ← peekPastGap? with
  | none => failNext .endOfList
  | some c =>
      if c = ']' then return false
      else if first then return true
      else if c = ',' then
        eat
        match ← peekPastGap? with
        | some ']' => failNext .trailingComma
        | some _ => return true
        | none => failNext .endOfValue
      else failNext .expectedListEnd

/-- A record written as a list, behind its opening bracket. Fields that are missing at the end keep
their defaults. -/
def readElements {σ : Type} (expected : String) : List (RecordField σ) → Nat → σ → Decoder σ
  | [], _, record => return record
  | field :: fields, index, record => do
      if ← hasElement (index == 0) then
        let record ← field.read record
        readElements expected fields (index + 1) record
      else if field.required then failUnplaced (.invalidLength index expected)
      else readElements expected fields index record

/-- The end of a list. -/
def closeList : Decoder Unit := do
  match ← peekPastGap? with
  | some ']' => eat
  | some ',' =>
      eat
      match ← peekPastGap? with
      | some ']' => failNext .trailingComma
      | _ => failNext .trailingCharacters
  | some _ => failNext .trailingCharacters
  | none => failNext .endOfList

/-- A record. -/
def decodeRecord {σ : Type} (name : String) (fields : List (RecordField σ)) (initial : σ) :
    Decoder σ := placed do
  let expected := "struct " ++ name
  let c ← peekValue
  if c = '\x7b' then
    eat
    closedBy (readObject fields initial) closeObject
  else if c = '[' then
    eat
    let lengths := expected ++ " with " ++ toString fields.length ++ " elements"
    closedBy (readElements lengths fields 0 initial) closeList
  else failType expected

/-! ## Whole texts -/

/-- Decodes a text that holds one value and nothing else. -/
def decode {α : Type} (decoder : Decoder α) (text : String) : Except DecodeError α :=
  let whole : Decoder α := do
    let value ← decoder
    match ← peekPastGap? with
    | none => return value
    | some _ => failNext .trailingCharacters
  (whole.run.run ⟨text.toList, .first⟩).1

end LoopTemplate.Json
