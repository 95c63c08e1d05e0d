import LoopTemplate.Json.Reader
import LoopTemplate.Number.Shortest

/-!
# Words, strings and numbers of JSON
-/

namespace LoopTemplate.Json

/-! ## Words -/

/-- The rest of a word such as `null`. -/
def readWord : List Char → Decoder Unit
  | [] => return ()
  | expected :: word => do
      match ← next? with
      | none => failHere .endOfValue
      | some c => if c = expected then readWord word else failHere .expectedWord

/-! ## Strings -/

/-- Where the reader of a string stands. -/
inductive StringMode where
  | plain
  /-- After a backslash. -/
  | escape
  /-- Among the four bytes of a code unit, of which `taken` were read. `value` is what they spell
  if all are digits so far; `high` is the first half of a surrogate pair that was read before. -/
  | unit (high : Option Nat) (taken : Nat) (value : Option Nat)
  /-- After the first half of a surrogate pair. -/
  | half (high : Nat)
  /-- After the first half of a surrogate pair and a backslash. -/
  | halfEscape (high : Nat)
deriving DecidableEq

/-- A string being read: its characters so far, the last first. -/
structure StringState where
  mode : StringMode
  chars : List Char
deriving DecidableEq

/-- What a character does to a string being read. -/
inductive StringStep where
  | next (state : StringState)
  /-- The string ended. -/
  | done
  /-- The string is wrong; the error stands `back` bytes before the end of the character. -/
  | wrong (cause : Cause) (back : Nat)
  /-- The string is wrong before the character. -/
  | wrongBefore (cause : Cause)

/-- The value of a hexadecimal digit. -/
def hexDigit? (c : Char) : Option Nat :=
  if '0' ≤ c ∧ c ≤ '9' then some (c.toNat - 48)
  else if 'a' ≤ c ∧ c ≤ 'f' then some (c.toNat - 87)
  else if 'A' ≤ c ∧ c ≤ 'F' then some (c.toNat - 55)
  else none

/-- The character that a single-character escape stands for. -/
def simpleEscape? (c : Char) : Option Char :=
  match c with
  | '"' => some '"'
  | '\\' => some '\\'
  | '/' => some '/'
  | 'b' => some (Char.ofNat 8)
  | 'f' => some (Char.ofNat 12)
  | 'n' => some '\n'
  | 'r' => some '\r'
  | 't' => some '\t'
  | _ => none

namespace StringState

/-- Nothing read yet. -/
def start : StringState := ⟨.plain, []⟩

/-- Adds a character. -/
def push (state : StringState) (c : Char) : StringState := ⟨.plain, c :: state.chars⟩

/-- A whole code unit was read. Where the string is `kept`, halves of surrogate pairs must come in
pairs. -/
def pushUnit (kept : Bool) (state : StringState) (high : Option Nat) (value : Nat) : StringStep :=
  if !kept then .next { state with mode := .plain }
  else match high with
    | none =>
        if 0xDC00 ≤ value ∧ value < 0xE000 then .wrong .loneSurrogate 0
        else if 0xD800 ≤ value ∧ value < 0xDC00 then .next { state with mode := .half value }
        else .next (state.push (Char.ofNat value))
    | some high =>
        if 0xDC00 ≤ value ∧ value < 0xE000 then
          .next (state.push (Char.ofNat (0x10000 + (high - 0xD800) * 0x400 + (value - 0xDC00))))
        else .wrong .loneSurrogate 0

/-- One more character of a string. -/
def step (kept : Bool) (state : StringState) (c : Char) : StringStep :=
  match state.mode with
  | .plain =>
      if c = '"' then .done
      else if c = '\\' then .next { state with mode := .escape }
      else if c.toNat < 32 then
        if kept then .wrong .controlCharacter 0 else .wrongBefore .controlCharacter
      else .next (state.push c)
  | .escape =>
      if c = 'u' then .next { state with mode := .unit none 0 (some 0) }
      else match simpleEscape? c with
        | some decoded => .next (state.push decoded)
        | none => .wrong .invalidEscape (c.utf8Size - 1)
  | .unit high taken value =>
      let taken := taken + c.utf8Size
      let value := do return (← value) * 16 + (← hexDigit? c)
      if taken < 4 then .next { state with mode := .unit high taken value }
      else match value with
        | some value => state.pushUnit kept high value
        | none => .wrong .invalidEscape (taken - 4)
  | .half high =>
      if c = '\\' then .next { state with mode := .halfEscape high }
      else .wrong .endOfEscape (c.utf8Size - 1)
  | .halfEscape high =>
      if c = 'u' then .next { state with mode := .unit (some high) 0 (some 0) }
      else .wrong .endOfEscape (c.utf8Size - 1)

end StringState

/-- Reads a string behind its opening quote. -/
def runString (kept : Bool) :
    StringState → List Char → Place → Except DecodeError (List Char) × Reader
  | _, [], place => (.error ⟨.endOfString, some place⟩, ⟨[], place⟩)
  | state, c :: chars, place =>
      let after := place.advance c
      match state.step kept c with
      | .next state => runString kept state chars after
      | .done => (.ok state.chars.reverse, ⟨chars, after⟩)
      | .wrong cause back =>
          (.error ⟨cause, some ⟨after.line, after.column - back⟩⟩, ⟨chars, after⟩)
      | .wrongBefore cause => (.error ⟨cause, some place⟩, ⟨c :: chars, place⟩)

/-- A string whose opening quote comes next. -/
def readString : Decoder String := do
  eat
  let chars ← ExceptT.mk fun reader => runString true .start reader.chars reader.place
  return String.ofList chars

/-- Passes a string whose opening quote comes next. -/
def skipString : Decoder Unit := do
  eat
  let _ ← ExceptT.mk fun reader => runString false .start reader.chars reader.place

/-! ## Numbers -/

/-- Whether a character is a decimal digit. -/
def isDigit (c : Char) : Bool := '0' ≤ c && c ≤ '9'

/-- Passes digits and yields them. -/
def readDigits : Decoder (List Char) := do
  let reader ← get
  let digits := reader.chars.takeWhile isDigit
  set (⟨reader.chars.dropWhile isDigit,
    ⟨reader.place.line, reader.place.column + digits.length⟩⟩ : Reader)
  return digits

/-- The number that digits spell. -/
def digitsValue (digits : List Char) : Nat :=
  digits.foldl (fun value c => value * 10 + (c.toNat - 48)) 0

/-- A number as written, without its sign: its digits before and behind the point, and its
exponent. -/
structure Numeral where
  whole : List Char
  fraction : Option (List Char)
  exponent : Option Int
deriving DecidableEq

/-- The digits before the point. A zero stands alone. -/
def readWhole (ended : Cause) : Decoder (List Char) := do
  match ← next? with
  | none => failHere ended
  | some c =>
      if c = '0' then
        match ← peek? with
        | some digit => if isDigit digit then failNext .invalidNumber else return [c]
        | none => return [c]
      else if isDigit c then return c :: (← readDigits)
      else failHere .invalidNumber

/-- The digits behind the point, if a point comes next. -/
def readFraction (ended : Cause) : Decoder (Option (List Char)) := do
  match ← peek? with
  | some '.' =>
      eat
      let digits ← readDigits
      if digits.isEmpty then
        match ← peek? with
        | some _ => failNext .invalidNumber
        | none => failNext ended
      else return some digits
  | _ => return none

/-- The exponent, if one comes next. -/
def readExponent (ended : Cause) : Decoder (Option Int) := do
  match ← peek? with
  | some 'e' | some 'E' =>
      eat
      let negative ← match ← peek? with
        | some '-' => do
            eat
            pure true
        | some '+' => do
            eat
            pure false
        | _ => pure false
      match ← next? with
      | none => failHere ended
      | some c =>
          if isDigit c then
            let value := digitsValue (c :: (← readDigits))
            return some (if negative then -(value : Int) else value)
          else failHere .invalidNumber
  | _ => return none

/-- A number without its sign. `ended` is the error of a number that the end of the text cuts
short. -/
def readNumeral (ended : Cause) : Decoder Numeral := do
  let whole ← readWhole ended
  let fraction ← readFraction ended
  let exponent ← readExponent ended
  return ⟨whole, fraction, exponent⟩

/-- A fractional number in writing: positional between 10^-5 and 10^16, else with an exponent. -/
def floatText (mantissa : Nat) (exponent : Int) : String :=
  if mantissa = 0 then "0.0"
  else
    let decimal := Number.shortest mantissa exponent
    let digits := toString decimal.digits
    let width := digits.length
    let point : Int := width + decimal.power
    if 0 ≤ decimal.power ∧ point ≤ 16 then digits ++ Number.zeros decimal.power.toNat ++ ".0"
    else if 0 < point ∧ point ≤ 16 then
      String.ofList (digits.toList.take point.toNat) ++ "."
        ++ String.ofList (digits.toList.drop point.toNat)
    else if -5 < point ∧ point ≤ 0 then "0." ++ Number.zeros (-point).toNat ++ digits
    else match digits.toList with
      | [] => ""
      | [single] => String.ofList [single] ++ "e" ++ toString (point - 1)
      | lead :: rest => String.ofList (lead :: '.' :: rest) ++ "e" ++ toString (point - 1)

/-- How a message names a number, if it is in range. -/
def numberLabel? (negative : Bool) (numeral : Numeral) : Option String :=
  let sign := if negative then "-" else ""
  let whole := digitsValue numeral.whole
  let integral := numeral.fraction.isNone && numeral.exponent.isNone
  let small := if negative then 0 < whole && whole ≤ Nat.pow 2 63 else whole < Nat.pow 2 64
  if integral && small then some ("integer `" ++ sign ++ toString whole ++ "`")
  else
    let fraction := numeral.fraction.getD []
    let digits := digitsValue (numeral.whole ++ fraction)
    let power := numeral.exponent.getD 0 - fraction.length
    match Number.Double.ofDecimal digits (numeral.whole.length + fraction.length) power with
    | .infinite => none
    | .finite mantissa exponent =>
        some ("floating point `" ++ sign ++ floatText mantissa exponent ++ "`")

/-! ## Values of any shape -/

/-- How a character of a text is shown in a message. -/
def shownChar (c : Char) : List Char :=
  if c = '"' then ['\\', '"']
  else if c = '\\' then ['\\', '\\']
  else if c = '\n' then ['\\', 'n']
  else if c = '\r' then ['\\', 'r']
  else if c = '\t' then ['\\', 't']
  else if c.toNat = 0 then ['\\', '0']
  else if c.toNat < 32 ∨ (127 ≤ c.toNat ∧ c.toNat < 160) then
    "\\u\x7b".toList ++ Nat.toDigits 16 c.toNat ++ ['\x7d']
  else [c]

/-- How a message names a text. -/
def textLabel (text : String) : String :=
  "string \"" ++ String.ofList (text.toList.flatMap shownChar) ++ "\""

/-- A number, as a message names it. -/
def readNumberLabel (negative : Bool) : Decoder String := do
  let numeral ← readNumeral .endOfValue
  match numberLabel? negative numeral with
  | some label => return label
  | none => failHere .numberRange

/-- Fails because the next value has the wrong type. -/
def failType {α : Type} (expected : String) : Decoder α := do
  match ← peek? with
  | some 'n' =>
      eat
      readWord "ull".toList
      failUnplaced (.invalidType "null" expected)
  | some 't' =>
      eat
      readWord "rue".toList
      failUnplaced (.invalidType "boolean `true`" expected)
  | some 'f' =>
      eat
      readWord "alse".toList
      failUnplaced (.invalidType "boolean `false`" expected)
  | some '"' => failUnplaced (.invalidType (textLabel (← readString)) expected)
  | some '[' => failUnplaced (.invalidType "sequence" expected)
  | some '\x7b' => failUnplaced (.invalidType "map" expected)
  | some '-' =>
      eat
      failUnplaced (.invalidType (← readNumberLabel true) expected)
  | some c =>
      if isDigit c then failUnplaced (.invalidType (← readNumberLabel false) expected)
      else failNext .expectedValue
  | none => failNext .expectedValue

end LoopTemplate.Json
