import LoopTemplate.Grammar.Fault
import LoopTemplate.Text.Blank
import LoopTemplate.Token.Rest
import LoopTemplate.Token.Basic

/-!
# Between tokens

White space, line breaks and comments between two tokens. A comment leads up to the token after it,
unless it trails the token before it: a line comment on the same line as that token, or a comment
between marks with that token before it and a line break after it on its line. Trailing comments
are dropped. Some comments promise something about the code behind them.
-/

namespace LoopTemplate.Token

open LoopTemplate.Grammar (Cause Fault)
open LoopTemplate.Text (isLineBreak isSourceBlank)

/-! ## Promises -/

/-- What the text between the marks of a comment promises. It begins with `@` or `#`, perhaps behind
blanks. -/
def promiseOf? (content : List Char) : Option Promise :=
  match content.dropWhile Text.isAsciiBlank with
  | c :: chars =>
      if c ≠ '@' ∧ c ≠ '#' then none
      else if "__PURE__".toList.isPrefixOf chars then some .pure
      else if "__NO_SIDE_EFFECTS__".toList.isPrefixOf chars then some .effectFree
      else none
  | [] => none

/-! ## Gaps -/

/-- What has been seen since the last token. -/
structure Gap where
  /-- A line break was seen, so that the next token starts a line. -/
  afterBreak : Bool
  /-- A line break was seen outside comments, or nothing stands before. -/
  fresh : Bool
  /-- Comments that may lead up to the next token, the last first. -/
  pending : List Comment
  /-- What the comments promise, trailing ones included. -/
  promises : List Promise
deriving Inhabited

namespace Gap

/-- Nothing seen yet. At the beginning of the text every comment stands on a fresh line. -/
def empty (beginning : Bool) : Gap := ⟨false, beginning, [], []⟩

/-- A line break outside comments. -/
def lineBreak (gap : Gap) : Gap :=
  match gap.pending with
  | [] => { gap with afterBreak := true, fresh := true }
  | comment :: earlier =>
      { gap with
        afterBreak := true
        fresh := true
        pending := if gap.fresh then { comment with beforeBreak := true } :: earlier else [] }

/-- A line comment. Where `trails`, it belongs to the token before it if that stands on the same
line. -/
def lineComment (gap : Gap) (trails : Bool) (text : List Char) : Gap :=
  let promise := promiseOf? (text.drop 2)
  let comment : Comment :=
    { text := String.ofList text, line := true, broken := false, afterBreak := gap.fresh,
      beforeBreak := true, promise }
  { afterBreak := true
    fresh := true
    pending := if !gap.fresh && trails then [] else comment :: gap.pending
    promises := promise.toList ++ gap.promises }

/-- A comment between marks. -/
def blockComment (gap : Gap) (text : List Char) (broken : Bool) : Gap :=
  let promise := promiseOf? (text.drop 2)
  let comment : Comment :=
    { text := String.ofList text, line := false, broken, afterBreak := gap.fresh,
      beforeBreak := false, promise }
  { gap with
    afterBreak := gap.afterBreak || broken
    pending := comment :: gap.pending
    promises := promise.toList ++ gap.promises }

end Gap

/-- Where the reader of a gap stands. -/
inductive GapMode where
  | between
  | inLine (text : List Char)
  | inBlock (opened : Nat) (text : List Char) (broken : Bool)

/-- A gap read to its end: what was seen, the text after it, and the fault of a comment that never
ends. -/
structure GapEnd where
  gap : Gap
  rest : Rest
  fault : Option Fault

/-- Reads white space and comments up to the next token. Texts of comments are kept last character
first. -/
def readGap (trails : Bool) : GapMode → Gap → Nat → List Char → GapEnd
  | .between, gap, offset, [] => ⟨gap, ⟨[], offset⟩, none⟩
  | .between, gap, offset, '/' :: '/' :: chars =>
      readGap trails (.inLine ['/', '/']) gap (offset + 2) chars
  | .between, gap, offset, '/' :: '*' :: chars =>
      readGap trails (.inBlock offset ['*', '/'] false) gap (offset + 2) chars
  | .between, gap, offset, c :: chars =>
      if isLineBreak c then readGap trails .between gap.lineBreak (offset + c.utf8Size) chars
      else if isSourceBlank c then readGap trails .between gap (offset + c.utf8Size) chars
      else ⟨gap, ⟨c :: chars, offset⟩, none⟩
  | .inLine text, gap, offset, [] =>
      ⟨gap.lineComment trails text.reverse, ⟨[], offset⟩, none⟩
  | .inLine text, gap, offset, c :: chars =>
      if isLineBreak c then
        readGap trails .between (gap.lineComment trails text.reverse)
          (offset + c.utf8Size) chars
      else readGap trails (.inLine (c :: text)) gap (offset + c.utf8Size) chars
  | .inBlock opened _ _, gap, offset, [] =>
      ⟨gap, ⟨[], offset⟩, some ⟨opened, .unterminatedComment⟩⟩
  | .inBlock _ text broken, gap, offset, '*' :: '/' :: chars =>
      readGap trails .between (gap.blockComment ('/' :: '*' :: text).reverse broken)
        (offset + 2) chars
  | .inBlock opened text broken, gap, offset, c :: chars =>
      readGap trails (.inBlock opened (c :: text) (broken || isLineBreak c)) gap
        (offset + c.utf8Size) chars

end LoopTemplate.Token
