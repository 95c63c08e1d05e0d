import LoopTemplate.Text.Blank
import LoopTemplate.Token.Word
import LoopTemplate.Tree.Node

/-!
# Strings, templates and regular expressions

Automata for the literals that run up to a closing character. A string is read into the code points
it stands for; a template and a regular expression are kept as written.
-/

namespace LoopTemplate.Token

open LoopTemplate.Tree (StringValue)

/-! ## Strings -/

/-- Where the reader of a string stands. -/
inductive StringMode where
  | plain
  /-- After a backslash. -/
  | escape
  /-- After a backslash and a carriage return. -/
  | brokenLine
  /-- After `\u`. -/
  | unicode
  /-- Among hexadecimal digits, of which `left` are still to come. -/
  | digits (left value : Nat)
  /-- Among hexadecimal digits in braces. -/
  | braced (value : Option Nat)
  /-- Among octal digits, of which at most `left` may still come. -/
  | octal (left value : Nat)

/-- A string being read: its code points so far, the last first. -/
structure StringState where
  mode : StringMode
  value : StringValue

namespace StringState

/-- Nothing read yet. -/
def start : StringState := ⟨.plain, []⟩

/-- Adds a code point; the second half of a surrogate pair joins the first. -/
def push (state : StringState) (code : Nat) : StringState :=
  match state.value with
  | high :: earlier =>
      if 0xD800 ≤ high ∧ high < 0xDC00 ∧ 0xDC00 ≤ code ∧ code < 0xE000 then
        ⟨.plain, (0x10000 + (high - 0xD800) * 0x400 + (code - 0xDC00)) :: earlier⟩
      else ⟨.plain, code :: state.value⟩
  | [] => ⟨.plain, [code]⟩

/-- A character outside escapes. -/
def plainStep (quote : Char) (state : StringState) (c : Char) : Step StringState :=
  if c = quote then .done { state with mode := .plain }
  else if c = '\\' then .next { state with mode := .escape }
  else if c = '\n' ∨ c = '\r' then .refuse
  else .next (state.push c.toNat)

/-- The character that a single-character escape stands for. -/
def escapeCode (c : Char) : Nat :=
  match c with
  | 'n' => 10 | 't' => 9 | 'b' => 8 | 'v' => 11 | 'f' => 12 | 'r' => 13
  | other => other.toNat

/-- One more character of a string. -/
def step (quote : Char) (state : StringState) (c : Char) : Step StringState :=
  match state.mode with
  | .plain => state.plainStep quote c
  | .escape =>
      if c = '\r' then .next { state with mode := .brokenLine }
      else if c = '\n' ∨ c.toNat = 0x2028 ∨ c.toNat = 0x2029 then
        .next { state with mode := .plain }
      else if c = 'x' then .next { state with mode := .digits 2 0 }
      else if c = 'u' then .next { state with mode := .unicode }
      else if '0' ≤ c ∧ c ≤ '3' then .next { state with mode := .octal 2 (c.toNat - 48) }
      else if '4' ≤ c ∧ c ≤ '7' then .next { state with mode := .octal 1 (c.toNat - 48) }
      else .next (state.push (escapeCode c))
  | .brokenLine =>
      if c = '\n' then .next { state with mode := .plain } else state.plainStep quote c
  | .unicode =>
      if c = '\x7b' then .next { state with mode := .braced none }
      else match hexValue? c with
        | some digit => .next { state with mode := .digits 3 digit }
        | none => .refuse
  | .digits left value =>
      match hexValue? c with
      | none => .refuse
      | some digit =>
          if left = 1 then .next (state.push (value * 16 + digit))
          else .next { state with mode := .digits (left - 1) (value * 16 + digit) }
  | .braced value =>
      if c = '\x7d' then
        match value with
        | some code => .next (state.push code)
        | none => .refuse
      else match hexValue? c with
        | none => .refuse
        | some digit =>
            let code := value.getD 0 * 16 + digit
            if 0x10FFFF < code then .refuse else .next { state with mode := .braced (some code) }
  | .octal left value =>
      if '0' ≤ c ∧ c ≤ '7' then
        if left = 1 then .next (state.push (value * 8 + (c.toNat - 48)))
        else .next { state with mode := .octal (left - 1) (value * 8 + (c.toNat - 48)) }
      else (state.push value).plainStep quote c

end StringState

/-- Reads a string after its opening quote. -/
def readString (quote : Char) (rest : Rest) : Outcome StringState :=
  rest.run (StringState.step quote) .start

/-! ## Templates -/

/-- Where the reader of a template stands. -/
inductive TemplateMode where
  | plain
  /-- After a backslash. -/
  | escape
  /-- After `$`, which is not yet among the characters. -/
  | dollar

/-- A piece of a template being read, its characters last first. `whole` says that it ended with a
backquote. -/
structure TemplateState where
  mode : TemplateMode
  chars : List Char
  whole : Bool

namespace TemplateState

/-- Nothing read yet. -/
def start : TemplateState := ⟨.plain, [], false⟩

/-- A character after which no `$` is pending. -/
def plainStep (state : TemplateState) (c : Char) : Step TemplateState :=
  if c = '\x60' then .done { state with whole := true }
  else if c = '\\' then .next ⟨.escape, c :: state.chars, false⟩
  else if c = '$' then .next { state with mode := .dollar }
  else .next ⟨.plain, c :: state.chars, false⟩

/-- One more character of a template. -/
def step (state : TemplateState) (c : Char) : Step TemplateState :=
  match state.mode with
  | .plain => state.plainStep c
  | .escape => .next ⟨.plain, c :: state.chars, false⟩
  | .dollar =>
      if c = '\x7b' then .done state
      else plainStep ⟨.plain, '$' :: state.chars, false⟩ c

end TemplateState

/-- Where the check of a template's escapes stands. -/
inductive EscapeMode where
  | plain
  /-- After a backslash. -/
  | escape
  /-- After `\0`, behind which no digit may stand. -/
  | zero
  /-- After `\u`. -/
  | unicode
  /-- Among hexadecimal digits, of which `left` are still to come. -/
  | digits (left : Nat)
  /-- Among hexadecimal digits in braces. -/
  | braced (value : Option Nat)
  /-- An escape stood for nothing. -/
  | broken
deriving DecidableEq

namespace EscapeMode

/-- A character outside escapes. -/
def plainStep (c : Char) : EscapeMode := if c = '\\' then .escape else .plain

/-- One more character of a template. -/
def step (mode : EscapeMode) (c : Char) : EscapeMode :=
  match mode with
  | .plain => plainStep c
  | .escape =>
      if c = 'x' then .digits 2
      else if c = 'u' then .unicode
      else if c = '0' then .zero
      else if '1' ≤ c ∧ c ≤ '9' then .broken
      else .plain
  | .zero => if '0' ≤ c ∧ c ≤ '9' then .broken else plainStep c
  | .unicode =>
      if c = '\x7b' then .braced none
      else if (hexValue? c).isSome then .digits 3
      else .broken
  | .digits left =>
      if (hexValue? c).isNone then .broken
      else if left = 1 then .plain
      else .digits (left - 1)
  | .braced value =>
      if c = '\x7d' then if value.isSome then .plain else .broken
      else match hexValue? c with
        | none => .broken
        | some digit =>
            let code := value.getD 0 * 16 + digit
            if 0x10FFFF < code then .broken else .braced (some code)
  | .broken => .broken

end EscapeMode

/-- Whether all escapes of a template stand for something. -/
def soundEscapes (raw : List Char) : Bool :=
  match raw.foldl EscapeMode.step .plain with
  | .plain | .zero => true
  | _ => false

/-- Line breaks inside a template are single line feeds. -/
def unifyBreaks : List Char → List Char
  | [] => []
  | '\r' :: '\n' :: chars => '\n' :: unifyBreaks chars
  | '\r' :: chars => '\n' :: unifyBreaks chars
  | c :: chars => c :: unifyBreaks chars

/-- Reads a piece of a template after its opening backquote or after a closing brace. -/
def readTemplate (rest : Rest) : Outcome TemplateState :=
  rest.run TemplateState.step .start

/-! ## Regular expressions -/

/-- A pattern being read, its characters last first. -/
structure RegexState where
  /-- Inside brackets, where a slash does not end the pattern. -/
  bracketed : Bool
  /-- After a backslash. -/
  escaped : Bool
  chars : List Char

namespace RegexState

/-- Nothing read yet. -/
def start : RegexState := ⟨false, false, []⟩

/-- One more character of a pattern. -/
def step (state : RegexState) (c : Char) : Step RegexState :=
  if Text.isLineBreak c then .refuse
  else if state.escaped then .next { state with escaped := false, chars := c :: state.chars }
  else if c = '\\' then .next { state with escaped := true, chars := c :: state.chars }
  else if c = '/' ∧ !state.bracketed then .done state
  else
    let bracketed := if c = '[' then true else if c = ']' then false else state.bracketed
    .next ⟨bracketed, false, c :: state.chars⟩

end RegexState

/-- The flags of a regular expression in the order in which they are printed. -/
def regexFlags : List Char := ['d', 'g', 'i', 'm', 's', 'u', 'v', 'y']

/-- A regular expression as written. -/
structure RegexText where
  pattern : String
  /-- Byte offset of the flags. -/
  flagsOffset : Nat
  flags : List Char
  /-- The text after it. -/
  rest : Rest

/-- Whether a character behind a regular expression is read as a flag. -/
def isFlagCharacter (c : Char) : Bool :=
  Text.isAsciiLetter c || Text.isAsciiDigit c || c == '$' || c == '_'

/-- Reads a regular expression after its opening slash. -/
def readRegex (rest : Rest) : Option RegexText :=
  match rest.run RegexState.step .start with
  | .done state after =>
      let (flags, later) := after.takeWhile isFlagCharacter
      some ⟨String.ofList state.chars.reverse, after.offset, flags, later⟩
  | _ => none

end LoopTemplate.Token
