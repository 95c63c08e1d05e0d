import LoopTemplate.Text.Identifier
import LoopTemplate.Token.Rest

/-!
# Words

Identifiers and keywords. A character of a word may be spelled by its code point, as four
digits after `\u` or in braces; such a word stands for the decoded name.
-/

namespace LoopTemplate.Token

open LoopTemplate.Text (isIdentifierPart isIdentifierStart)

/-- The value of a hexadecimal digit. -/
def hexValue? (c : Char) : Option Nat :=
  if '0' ≤ c && c ≤ '9' then some (c.toNat - '0'.toNat)
  else if 'a' ≤ c && c ≤ 'f' then some (c.toNat - 'a'.toNat + 10)
  else if 'A' ≤ c && c ≤ 'F' then some (c.toNat - 'A'.toNat + 10)
  else none

/-- Where the reader of a word stands. -/
inductive WordMode where
  | plain
  /-- After a backslash. -/
  | escape
  /-- After `\u`. -/
  | unicode
  /-- Among four digits, of which `left` are still to come. -/
  | digits (left value : Nat)
  /-- Among digits in braces. -/
  | braced (value : Option Nat)

/-- A word being read: its characters so far, the last first. -/
structure WordState where
  mode : WordMode
  chars : List Char
  escaped : Bool

namespace WordState

/-- Nothing read yet. -/
def start : WordState := ⟨.plain, [], false⟩

/-- Adds the character with a code point, if it may stand at this place. -/
def pushCode (state : WordState) (code : Nat) : Step WordState :=
  if valid : code.isValidChar then
    let c := Char.ofNatAux code valid
    let fits := if state.chars.isEmpty then isIdentifierStart c else isIdentifierPart c
    if fits then .next ⟨.plain, c :: state.chars, true⟩ else .refuse
  else .refuse

/-- One more character of a word. -/
def step (state : WordState) (c : Char) : Step WordState :=
  match state.mode with
  | .plain =>
      if c = '\\' then .next { state with mode := .escape }
      else if (if state.chars.isEmpty then isIdentifierStart c else isIdentifierPart c) then
        .next { state with chars := c :: state.chars }
      else .stop state
  | .escape => if c = 'u' then .next { state with mode := .unicode } else .refuse
  | .unicode =>
      if c = '\x7b' then .next { state with mode := .braced none }
      else match hexValue? c with
        | some digit => .next { state with mode := .digits 3 digit }
        | none => .refuse
  | .digits left value =>
      match hexValue? c with
      | none => .refuse
      | some digit =>
          if left = 1 then state.pushCode (value * 16 + digit)
          else .next { state with mode := .digits (left - 1) (value * 16 + digit) }
  | .braced value =>
      if c = '\x7d' then
        match value with
        | some code => state.pushCode code
        | none => .refuse
      else match hexValue? c with
        | none => .refuse
        | some digit =>
            let code := value.getD 0 * 16 + digit
            if 0x10FFFF < code then .refuse else .next { state with mode := .braced (some code) }

/-- The word read so far, unless it ends inside an escape. -/
def finish? (state : WordState) : Option (String × Bool) :=
  match state.mode with
  | .plain => some (String.ofList state.chars.reverse, state.escaped)
  | _ => none

end WordState

/-- Reads a word: its decoded text, whether it was spelled with escapes, and the text after it. -/
def readWord (rest : Rest) : Option (String × Bool × Rest) :=
  match rest.run WordState.step .start with
  | .done state after | .ended state after =>
      state.finish?.map fun (text, escaped) => (text, escaped, after)
  | .refused _ => none

end LoopTemplate.Token
