/-!
# Reading JSON

A decoder reads values of a known shape straight from the text, so that the first thing that does
not fit decides the error. A place is a line and the number of bytes read on it. Some errors are
raised without a place and get the place where the reading stands when the value around them ends.
-/

namespace LoopTemplate.Json

/-- A line, counted from one, and the number of bytes read on it. -/
structure Place where
  line : Nat
  column : Nat
deriving DecidableEq, Inhabited

namespace Place

/-- Where a text begins. -/
def first : Place := ⟨1, 0⟩

/-- The place after one more character. -/
def advance (place : Place) (c : Char) : Place :=
  if c = '\n' then ⟨place.line + 1, 0⟩ else ⟨place.line, place.column + c.utf8Size⟩

/-- The place after one more byte, of which the given character is the first. -/
def advanceByte (place : Place) (c : Char) : Place :=
  if c = '\n' then ⟨place.line + 1, 0⟩ else ⟨place.line, place.column + 1⟩

end Place

/-- Why a text is not a value of the shape that is wanted. -/
inductive Cause where
  | endOfValue
  | endOfString
  | endOfList
  | endOfObject
  | expectedColon
  | expectedListEnd
  | expectedObjectEnd
  | expectedWord
  | expectedValue
  | invalidEscape
  | invalidNumber
  | numberRange
  | controlCharacter
  | keyNotString
  | loneSurrogate
  | endOfEscape
  | trailingComma
  | trailingCharacters
  | missingField (name : String)
  | duplicateField (name : String)
  | unknownVariant (found : String) (expected : List String)
  | invalidType (found expected : String)
  | invalidLength (found : Nat) (expected : String)
deriving DecidableEq, Inhabited

/-- The names that were possible, as a message lists them. -/
def listNames (names : List String) : String :=
  match names with
  | [first, second] => "`" ++ first ++ "` or `" ++ second ++ "`"
  | [single] => "`" ++ single ++ "`"
  | names => "one of " ++ ", ".intercalate (names.map fun name => "`" ++ name ++ "`")

namespace Cause

/-- The wording of a cause. -/
def message : Cause → String
  | endOfValue => "EOF while parsing a value"
  | endOfString => "EOF while parsing a string"
  | endOfList => "EOF while parsing a list"
  | endOfObject => "EOF while parsing an object"
  | expectedColon => "expected `:`"
  | expectedListEnd => "expected `,` or `]`"
  | expectedObjectEnd => "expected `,` or `\x7d`"
  | expectedWord => "expected ident"
  | expectedValue => "expected value"
  | invalidEscape => "invalid escape"
  | invalidNumber => "invalid number"
  | numberRange => "number out of range"
  | controlCharacter => "control character (\\u0000-\\u001F) found while parsing a string"
  | keyNotString => "key must be a string"
  | loneSurrogate => "lone leading surrogate in hex escape"
  | endOfEscape => "unexpected end of hex escape"
  | trailingComma => "trailing comma"
  | trailingCharacters => "trailing characters"
  | missingField name => "missing field `" ++ name ++ "`"
  | duplicateField name => "duplicate field `" ++ name ++ "`"
  | unknownVariant found expected =>
      "unknown variant `" ++ found ++ "`, expected " ++ listNames expected
  | invalidType found expected => "invalid type: " ++ found ++ ", expected " ++ expected
  | invalidLength found expected =>
      "invalid length " ++ toString found ++ ", expected " ++ expected

end Cause

/-- A cause, and where it was found. -/
structure DecodeError where
  cause : Cause
  place : Option Place
deriving DecidableEq, Inhabited

namespace DecodeError

/-- The wording of an error. -/
def message (error : DecodeError) : String :=
  match error.place with
  | some place =>
      error.cause.message ++ " at line " ++ toString place.line ++ " column "
        ++ toString place.column
  | none => error.cause.message

end DecodeError

/-- The unread text, and its place. -/
structure Reader where
  chars : List Char
  place : Place
deriving DecidableEq, Inhabited

/-- A reader of a value. After an error it stands where it stopped. -/
abbrev Decoder := ExceptT DecodeError (StateM Reader)

/-! ## Failing -/

/-- Stops at a place. -/
def failAt {α : Type} (place : Place) (cause : Cause) : Decoder α :=
  throw ⟨cause, some place⟩

/-- Stops behind the last byte that was read. -/
def failHere {α : Type} (cause : Cause) : Decoder α := do failAt (← get).place cause

/-- Stops behind the byte that comes next. -/
def failNext {α : Type} (cause : Cause) : Decoder α := do
  let reader ← get
  match reader.chars with
  | [] => failAt reader.place cause
  | c :: _ => failAt (reader.place.advanceByte c) cause

/-- Stops without a place. -/
def failUnplaced {α : Type} (cause : Cause) : Decoder α := throw ⟨cause, none⟩

/-- Gives an error without a place the place where the reading stands. -/
def placed {α : Type} (decoder : Decoder α) : Decoder α :=
  ExceptT.mk fun reader =>
    match decoder.run.run reader with
    | (.error ⟨cause, none⟩, after) => (.error ⟨cause, some after.place⟩, after)
    | outcome => outcome

/-- Reads a value and then its end. The end is looked for even if the value was wrong, and then
only moves the place. -/
def closedBy {α : Type} (decoder : Decoder α) (close : Decoder Unit) : Decoder α :=
  ExceptT.mk fun reader =>
    let (result, after) := decoder.run.run reader
    let (closed, final) := close.run.run after
    match result, closed with
    | .ok value, .ok () => (.ok value, final)
    | .error error, _ => (.error error, final)
    | .ok _, .error error => (.error error, final)

/-! ## Moving -/

/-- Whether a character is white space between values. -/
def isGap (c : Char) : Bool := c == ' ' || c == '\n' || c == '\t' || c == '\r'

/-- Passes one character. -/
def eat : Decoder Unit :=
  modify fun reader =>
    match reader.chars with
    | [] => reader
    | c :: chars => ⟨chars, reader.place.advance c⟩

/-- The next character, if there is one. -/
def peek? : Decoder (Option Char) := do return (← get).chars.head?

/-- Passes one character and yields it, if there is one. -/
def next? : Decoder (Option Char) := do
  let c ← peek?
  eat
  return c

/-- Skips white space. -/
def skipGap : List Char → Place → Reader
  | [], place => ⟨[], place⟩
  | c :: chars, place =>
      if isGap c then skipGap chars (place.advance c) else ⟨c :: chars, place⟩

/-- Skips white space and yields the character behind it. -/
def peekPastGap? : Decoder (Option Char) := do
  modify fun reader => skipGap reader.chars reader.place
  peek?

/-- Skips white space and yields the first character of a value. -/
def peekValue : Decoder Char := do
  match ← peekPastGap? with
  | some c => return c
  | none => failNext .endOfValue

end LoopTemplate.Json
