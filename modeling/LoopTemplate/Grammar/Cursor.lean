import LoopTemplate.Token.Scan

/-!
# Reading tokens one by one

A `Parser` reads from a cursor: the current token and the text after it. It either yields a result
or fails for good with a fault. Two kinds of faults do not stop it: those met while reading tokens
and those noted on the way; the cursor collects both.
-/

namespace LoopTemplate.Grammar

open LoopTemplate.Token (Comment Kind Rest Scanned scanToken)
open LoopTemplate.Tree (Node Form)

/-- Where the reading of a program stands. -/
structure Cursor where
  /-- The current token. -/
  token : Token
  /-- The text after it. -/
  rest : Rest
  /-- Byte offset after the token before it. -/
  lastStop : Nat
  /-- Faults met while reading tokens, in order. -/
  scanFaults : List Fault
  /-- Faults noted without stopping, in order. -/
  noted : List Fault
  /-- Comments by the offset of the token they lead up to, the last first. -/
  comments : List (Nat × List Comment)
  /-- Offsets of shorthand properties with a value, which only a pattern may hold. -/
  shorthandValues : List Nat
  /-- Offsets of the default exports, in order. -/
  defaults : List Nat
  /-- Exported names with their offsets, in order. -/
  exports : List (String × Nat)
deriving Inhabited

/-- Why a reading stopped, with the faults met before. -/
structure Failure where
  fatal : Fault
  scanFaults : List Fault
  noted : List Fault
deriving DecidableEq, Inhabited

/-- A reader of a piece of a program. -/
abbrev Parser := StateT Cursor (Except Failure)

namespace Cursor

/-- Moves to a token that was read. -/
def move (cursor : Cursor) (scanned : Scanned) : Cursor :=
  { cursor with
    token := scanned.token
    rest := scanned.rest
    lastStop := cursor.token.stop
    scanFaults := cursor.scanFaults ++ scanned.faults
    comments :=
      if scanned.token.leading.isEmpty then cursor.comments
      else (scanned.token.start, scanned.token.leading) :: cursor.comments }

/-- Replaces the current token by another reading of it. -/
def replace (cursor : Cursor) (scanned : Scanned) : Cursor :=
  { cursor with
    token := scanned.token
    rest := scanned.rest
    scanFaults := cursor.scanFaults ++ scanned.faults }

/-- The cursor on the first token of a text. -/
def first (rest : Rest) : Cursor :=
  let before : Cursor :=
    { token := ⟨.stop, rest.offset, rest.offset, false, false, [], []⟩
      rest := rest
      lastStop := rest.offset
      scanFaults := []
      noted := []
      comments := []
      shorthandValues := []
      defaults := []
      exports := [] }
  { before.move (scanToken true .stop rest) with lastStop := rest.offset }

end Cursor

/-! ## Failing -/

/-- Stops the reading with a fault. -/
def failAt {α : Type} (offset : Nat) (cause : Cause) : Parser α := fun cursor =>
  .error ⟨⟨offset, cause⟩, cursor.scanFaults, cursor.noted⟩

/-- Notes a fault and goes on. -/
def note (offset : Nat) (cause : Cause) : Parser Unit :=
  modify fun cursor => { cursor with noted := cursor.noted ++ [⟨offset, cause⟩] }

/-- The current token. -/
def current : Parser Token := do return (← get).token

/-- What the current token is. -/
def kind : Parser Kind := do return (← get).token.kind

/-- Byte offset of the current token. -/
def here : Parser Nat := do return (← get).token.start

/-- Stops because no rule fits the current token. Where there is no token, the last fault met while
reading tokens tells why. -/
def unexpected {α : Type} : Parser α := do
  let cursor ← get
  match cursor.token.kind.isEnd, cursor.scanFaults.getLast? with
  | true, some fault => failAt fault.offset fault.cause
  | _, _ => failAt cursor.token.start .unexpectedToken

/-- Stops because a certain token was needed. -/
def failExpected {α : Type} (wanted : String) : Parser α := do
  let token ← current
  failAt token.start (.expected wanted token.kind.label)

/-- Runs a reader and goes back if it fails. -/
def attempt {α : Type} (reader : Parser α) : Parser (Except Failure α) := fun cursor =>
  match reader cursor with
  | .ok (result, after) => .ok (.ok result, after)
  | .error failure => .ok (.error failure, cursor)

/-! ## Moving -/

/-- Goes to the next token. -/
def advance : Parser Unit :=
  modify fun cursor => cursor.move (scanToken false cursor.token.kind cursor.rest)

/-- Goes to the next token between tags. -/
def advanceInChild : Parser Unit :=
  modify fun cursor => cursor.move (Token.scanChild cursor.rest)

/-- Goes to the value behind the `=` of an attribute. -/
def advanceToValue : Parser Unit :=
  modify fun cursor => cursor.move (Token.scanMarkupValue cursor.token.kind cursor.rest)

/-- The token after the current one, which stays current. -/
def peek : Parser Token := do
  let cursor ← get
  return (scanToken false cursor.token.kind cursor.rest).token

/-- The next two tokens after the current one, which stays current. -/
def peekTwo : Parser (Token × Token) := do
  let cursor ← get
  let next := scanToken false cursor.token.kind cursor.rest
  return (next.token, (scanToken false next.token.kind next.rest).token)

/-- The next three tokens after the current one, which stays current. -/
def peekThree : Parser (Token × Token × Token) := do
  let cursor ← get
  let next := scanToken false cursor.token.kind cursor.rest
  let second := scanToken false next.token.kind next.rest
  return (next.token, second.token, (scanToken false second.token.kind second.rest).token)

/-! ## Asking for tokens -/

/-- Whether the current token is a mark. -/
def atMark (text : String) : Parser Bool := do return (← kind).isMark text

/-- Whether the current token is a word, spelled without escapes. -/
def atWord (text : String) : Parser Bool := do
  let token ← current
  return token.kind.isWord text && !token.escaped

/-- Passes a mark if it is there. -/
def eatMark (text : String) : Parser Bool := do
  if ← atMark text then
    advance
    return true
  else return false

/-- Passes a word if it is there. -/
def eatWord (text : String) : Parser Bool := do
  if ← atWord text then
    advance
    return true
  else return false

/-- Passes a mark that must be there. -/
def expectMark (text : String) : Parser Unit := do
  if ← atMark text then advance else failExpected text

/-- Passes a word that must be there. -/
def expectWord (text : String) : Parser Unit := do
  if ← atWord text then advance else failExpected text

/-- Passes a mark that must be there, and goes on between tags. -/
def expectMarkBeforeChild (text : String) : Parser Unit := do
  if ← atMark text then advanceInChild else failExpected text

/-- Passes a closing mark: between tags if the markup it closes is a child, else as usual. -/
def expectMarkupEnd (inChild : Bool) (text : String) : Parser Unit :=
  if inChild then expectMarkBeforeChild text else expectMark text

/-- Whether a statement may end here without a semicolon. -/
def mayEndStatement : Parser Bool := do
  let token ← current
  return token.kind.isMark ";" || token.kind.isMark "\x7d" || token.kind == .stop
    || token.afterBreak

/-- The end of a statement: a semicolon, or a place where one is understood. -/
def endStatement : Parser Unit := do
  if ← eatMark ";" then return ()
  if ← mayEndStatement then return ()
  failAt (← get).lastStop .missingSemicolon

/-! ## Repeating -/

/-- Repeats a step at most the given number of times, until it yields a result. -/
def loop {σ β : Type} (step : σ → Parser (σ ⊕ β)) : Nat → σ → Parser β
  | 0, _ => do failAt (← here) .tooDeep
  | bound + 1, state => do
      match ← step state with
      | .inl state => loop step bound state
      | .inr result => return result

/-- More steps than there are tokens left. -/
def stepBound : Parser Nat := do return (← get).rest.chars.length + 2

/-- Repeats a step until it yields a result. Every step but the last passes a token. -/
def repeatStep {σ β : Type} (state : σ) (step : σ → Parser (σ ⊕ β)) : Parser β := do
  loop step (← stepBound) state

/-- Collects nodes until a step yields none. -/
def collect (step : Parser (Option Node)) : Parser (List Node) :=
  repeatStep [] fun found => do
    match ← step with
    | some node => return .inl (node :: found)
    | none => return .inr found.reverse

/-- A list of elements divided by commas, up to its closing mark, which stays current. Also the
offset of a comma right before the closing mark. -/
def commaList (closing : String) (element : Parser Node) : Parser (List Node × Option Nat) := do
  let ended : Parser Bool := do
    let kind ← kind
    return kind.isMark closing || kind.isEnd
  if ← ended then return ([], none)
  let head ← element
  repeatStep [head] fun found => do
    if ← ended then return .inr (found.reverse, none)
    let token ← current
    unless token.kind.isMark "," do
      failAt token.start (.expectedSeparator "," closing token.kind.label)
    advance
    if ← atMark closing then return .inr (found.reverse, some token.start)
    return .inl ((← element) :: found)

/-! ## Recursion -/

/-- What is in force around a piece of a program. -/
structure Context where
  /-- `in` is an operator. -/
  allowIn : Bool
  /-- `yield` is an operator. -/
  allowYield : Bool
  /-- `await` is an operator. -/
  allowAwait : Bool
  /-- A function is around, so that `return` may stand. -/
  allowReturn : Bool
deriving DecidableEq, Inhabited

namespace Context

/-- The context of a whole module. -/
def module : Context := ⟨true, false, true, false⟩

/-- The same with `in` as an operator. -/
def withIn (context : Context) : Context := { context with allowIn := true }

/-- The same without `in` as an operator. -/
def withoutIn (context : Context) : Context := { context with allowIn := false }

/-- The context of a function's parameters and body. -/
def function (async generator : Bool) : Context := ⟨true, generator, async, true⟩

end Context

/-- The pieces of a program that contain each other. -/
inductive Phrase where
  /-- An expression without a comma outside brackets. -/
  | assignment
  /-- Operands joined by operators that bind tighter than the level. -/
  | operands (level : Tree.Level)
  /-- An operand with the operators before and after it. -/
  | operand
  /-- An expression with accesses, and with calls or without. -/
  | access (calls : Bool)
  /-- An expression behind `@`: with accesses by name and with calls. -/
  | decorator
  /-- What a declaration binds. -/
  | pattern
  /-- An element or fragment, whose `<` is current. -/
  | markup (inChild : Bool)
  /-- A statement. `nested` where it stands alone under another one. -/
  | statement (nested : Bool)
deriving DecidableEq

/-- Readers for all phrases. The reader of one phrase is given those of the phrases inside it. -/
abbrev Rules := Phrase → Context → Parser Node

end LoopTemplate.Grammar
