import LoopTemplate.Token.Gap
import LoopTemplate.Token.Numeral
import LoopTemplate.Token.Quoted

/-!
# Reading tokens

`scanToken` reads the next token of a program. What a character means depends on where it stands,
so there are further readers: for text and values inside markup, for a template after a
substitution, for a regular expression, and for operators that begin with `>`.
-/

namespace LoopTemplate.Token

open LoopTemplate.Grammar (Cause Fault)
open LoopTemplate.Text (isAsciiDigit isIdentifierPart isIdentifierStart)

/-- A token, the text after it, and the faults met while reading it. -/
structure Scanned where
  token : Token
  rest : Rest
  faults : List Fault

/-- Marks from long to short. Operators that begin with `>` are read by `widenAngle`. -/
def marks : List String :=
  ["...", "===", "!==", "**=", "<<=", "&&=", "||=", "??=",
    "=>", "==", "!=", "<=", "<<", "++", "--", "+=", "-=", "**", "*=", "/=", "%=", "&&", "&=", "||",
    "|=", "^=", "??", "?.",
    "\x7b", "\x7d", "(", ")", "[", "]", ";", ",", "<", ">", "+", "-", "*", "/", "%", "&", "|", "^",
    "!", "~", "?", ":", "=", ".", "@"]

/-- The longest mark at the beginning of the text. A `?` before a decimal fraction stands alone. -/
def markAt (rest : Rest) : Option String :=
  match rest.chars with
  | '?' :: '.' :: digit :: _ =>
      if isAsciiDigit digit then some "?" else marks.find? rest.startsWith
  | _ => marks.find? rest.startsWith

/-- What is read of a token before it is put in its place. -/
structure Reading where
  kind : Kind
  escaped : Bool
  rest : Rest
  faults : List Fault

/-- A reading without faults. -/
def Reading.plain (kind : Kind) (rest : Rest) : Reading := ⟨kind, false, rest, []⟩

/-- A reading that makes no token. -/
def Reading.bad (rest : Rest) (offset : Nat) (cause : Cause) : Reading :=
  ⟨.bad, false, rest, [⟨offset, cause⟩]⟩

/-- A number, behind which no letter may stand. -/
def readNumber (rest : Rest) : Reading :=
  let (kind, after) := readNumeral rest
  match after.chars with
  | c :: _ =>
      if isIdentifierStart c || isAsciiDigit c then
        .bad (after.takeWhile isIdentifierPart).2 after.offset .numberTail
      else match kind with
        | .bad => .bad after after.offset .unexpectedToken
        | kind => .plain kind after
  | [] => match kind with
      | .bad => .bad after after.offset .unexpectedToken
      | kind => .plain kind after

/-- A template or a piece of one, which begins at `opened`. -/
def readTemplatePiece (opened : Nat) (rest : Rest) : Reading :=
  match readTemplate rest with
  | .done state after =>
      let raw := state.chars.reverse
      let sound := soundEscapes raw
      let kept := if sound then unifyBreaks raw else raw
      .plain (.template (String.ofList kept) state.whole sound) after
  | .refused after | .ended _ after => .bad after opened .unterminatedString

/-- A string, behind its opening quote. -/
def readQuoted (quote : Char) (opened : Nat) (rest : Rest) : Reading :=
  match readString quote rest with
  | .done state after =>
      .plain (.string state.value.reverse (String.ofList (rest.before after).dropLast)) after
  | .refused after =>
      match after.chars with
      | '\n' :: _ | '\r' :: _ => .bad after opened .unterminatedString
      | _ => .bad after after.offset .invalidEscape
  | .ended _ after => .bad after opened .unterminatedString

/-- The token that begins with the first character of the text. -/
def readToken (rest : Rest) : Reading :=
  match rest.chars with
  | [] => .plain .stop rest
  | c :: next =>
      if isIdentifierStart c || c = '\\' then
        match readWord rest with
        | some (text, escaped, after) => ⟨.word text, escaped, after, []⟩
        | none => .bad (rest.drop 1) rest.offset .invalidEscape
      else if isAsciiDigit c then readNumber rest
      else if c = '.' && (match next with | d :: _ => isAsciiDigit d | [] => false) then
        readNumber rest
      else if c = '"' || c = '\'' then readQuoted c rest.offset (rest.drop 1)
      else if c = '\x60' then readTemplatePiece rest.offset (rest.drop 1)
      else if c = '#' then
        match next with
        | d :: _ =>
            if isIdentifierStart d || d = '\\' then
              match readWord (rest.drop 1) with
              | some (text, _, after) => .plain (.privateName text) after
              | none => .bad (rest.drop 1) rest.offset .invalidEscape
            else .bad (rest.drop 1) (rest.offset + 1) (.invalidCharacter d)
        | [] => .bad (rest.drop 1) (rest.offset + 1) .unexpectedToken
      else match markAt rest with
        | some mark => .plain (.mark mark) (rest.drop mark.length)
        | none => .bad (rest.drop 1) rest.offset (.invalidCharacter c)

/-- Puts a reading in its place. -/
def Reading.place (reading : Reading) (start : Nat) (gap : Gap) (faults : List Fault) : Scanned :=
  { token :=
      { kind := reading.kind
        start := start
        stop := reading.rest.offset
        afterBreak := gap.afterBreak
        escaped := reading.escaped
        leading := gap.pending.reverse.filter fun comment => comment.promise.isNone
        promises := gap.promises }
    rest := reading.rest
    faults := faults ++ reading.faults }

/-- Whether a line comment behind the token trails it. Behind `=` and `(` it leads up to what
follows. -/
def takesTrailing (previous : Kind) : Bool :=
  !(previous.isMark "=" || previous.isMark "(")

/-- Skips the gap before a token and reads the token with the given reader. -/
def scanWith (reader : Rest → Reading) (beginning : Bool) (previous : Kind) (rest : Rest) :
    Scanned :=
  let gapEnd := readGap (takesTrailing previous) .between (.empty beginning) rest.offset rest.chars
  (reader gapEnd.rest).place gapEnd.rest.offset gapEnd.gap gapEnd.fault.toList

/-- The next token behind one of kind `previous`. -/
def scanToken (beginning : Bool) (previous : Kind) (rest : Rest) : Scanned :=
  scanWith readToken beginning previous rest

/-! ## Inside markup -/

/-- The faults of characters that markup text cannot hold bare. -/
def bareFaults (chars : List Char) (offset : Nat) : List Fault :=
  match chars with
  | [] => []
  | c :: chars =>
      let later := bareFaults chars (offset + c.utf8Size)
      if c = '>' then ⟨offset, .bareCharacter c "&gt;"⟩ :: later
      else if c = '\x7d' then ⟨offset, .bareCharacter c "&rbrace;"⟩ :: later
      else later

/-- The next token between tags: a tag, a brace, or text up to one of them. Text that runs to the
end of the source makes no token. -/
def scanChild (rest : Rest) : Scanned :=
  let gap := Gap.empty false
  match rest.chars with
  | [] => (Reading.plain .stop rest).place rest.offset gap []
  | c :: _ =>
      if c = '<' then (Reading.plain (.mark "<") (rest.drop 1)).place rest.offset gap []
      else if c = '\x7b' then (Reading.plain (.mark "\x7b") (rest.drop 1)).place rest.offset gap []
      else
        let (text, after) := rest.takeWhile fun c => c ≠ '<' && c ≠ '\x7b'
        let kind : Kind :=
          if after.chars.isEmpty then .bad else .markupText (String.ofList text)
        (Reading.plain kind after).place rest.offset gap (bareFaults text rest.offset)

/-- An attribute value: in quotes it is kept as written. -/
def readMarkupValue (rest : Rest) : Reading :=
  match rest.chars with
  | [] => .plain .stop rest
  | c :: _ =>
      if c = '"' || c = '\'' then
        let (text, after) := (rest.drop 1).takeWhile (· ≠ c)
        match after.chars with
        | [] => .bad after rest.offset .unterminatedString
        | _ :: _ => .plain (.markupValue (String.ofList text)) (after.drop 1)
      else readToken rest

/-- The next token behind the `=` of an attribute. -/
def scanMarkupValue (previous : Kind) (rest : Rest) : Scanned :=
  scanWith readMarkupValue false previous rest

/-- Dashes join words to one name inside tags: the name that begins with a word already read. -/
def extendName (word : String) (rest : Rest) : String × Rest :=
  let (more, after) := rest.takeWhile fun c => isIdentifierPart c || c == '-'
  (word ++ String.ofList more, after)

/-! ## Operators that begin with `>` -/

/-- The longest operator that begins with the `>` just read. -/
def widenAngle (rest : Rest) : String × Rest :=
  match [">>=", ">>", ">=", ">", "="].find? rest.startsWith with
  | some more => (">" ++ more, rest.drop more.length)
  | none => (">", rest)

end LoopTemplate.Token
