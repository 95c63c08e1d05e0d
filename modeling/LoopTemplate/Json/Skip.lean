import LoopTemplate.Json.Literal

/-!
# Passing values of any shape
-/

namespace LoopTemplate.Json

/-- Passes a word, string or number that begins with the given character. -/
def skipScalar (c : Char) : Decoder Unit := do
  if c = 'n' then
    eat
    readWord "ull".toList
  else if c = 't' then
    eat
    readWord "rue".toList
  else if c = 'f' then
    eat
    readWord "alse".toList
  else if c = '"' then skipString
  else if c = '-' then
    eat
    let _ ← readNumeral .invalidNumber
  else if isDigit c then
    let _ ← readNumeral .invalidNumber
  else failNext .expectedValue

/-- Passes the key of a field and the colon behind it. -/
def skipKey : Decoder Unit := do
  match ← peekPastGap? with
  | some '"' => skipString
  | some _ => failNext .keyNotString
  | none => failNext .endOfObject
  match ← peekPastGap? with
  | some ':' => eat
  | some _ => failNext .expectedColon
  | none => failNext .endOfObject

/-- A list or object whose end is still to come. -/
inductive Enclosing where
  | list | object
deriving DecidableEq

namespace Enclosing

/-- The character that ends it. -/
def closing : Enclosing → Char
  | list => ']'
  | object => '\x7d'

/-- The error of a text that ends first. -/
def ended : Enclosing → Cause
  | list => .endOfList
  | object => .endOfObject

/-- The error of something else than a comma or the end. -/
def expectedEnd : Enclosing → Cause
  | list => .expectedListEnd
  | object => .expectedObjectEnd

end Enclosing

/-- Passes the closing characters that come next. Yields what is still open if another value
follows, and nothing if the outermost value ended. -/
def skipClosings : List Enclosing → Bool → Decoder (List Enclosing)
  | [], _ => return []
  | innermost :: outer, afterValue => do
      match ← peekPastGap? with
      | none => failNext innermost.ended
      | some c =>
          if c = innermost.closing then
            eat
            skipClosings outer true
          else if afterValue then
            if c = ',' then
              eat
              return innermost :: outer
            else failNext innermost.expectedEnd
          else return innermost :: outer

/-- Passes values until nothing is open. Every step passes at least one character. -/
def skipOpen : Nat → List Enclosing → Decoder Unit
  | 0, _ => failNext .expectedValue
  | bound + 1, opened => do
      let c ← peekValue
      let inner ←
        if c = '[' then do
          eat
          skipClosings (.list :: opened) false
        else if c = '\x7b' then do
          eat
          skipClosings (.object :: opened) false
        else do
          skipScalar c
          skipClosings opened true
      match inner with
      | [] => return ()
      | innermost :: _ =>
          if innermost = .object then skipKey
          skipOpen bound inner

/-- Passes a value of any shape. -/
def skipValue : Decoder Unit := do
  skipOpen ((← get).chars.length + 1) []

end LoopTemplate.Json
