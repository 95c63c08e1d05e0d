/-!
# Writing JSON

The values that are written, and their two spellings: on one line without spaces, and on several
lines with two spaces of indentation a level.
-/

namespace LoopTemplate.Json

/-- A value to be written. -/
inductive Value where
  | text (value : String)
  | boolean (value : Bool)
  /-- Fields in the order in which they are written. -/
  | object (fields : List (String × Value))
deriving Inhabited

/-! ## Strings -/

/-- How a character is written inside quotes. -/
def escapeChar (c : Char) : List Char :=
  if c = '"' then ['\\', '"']
  else if c = '\\' then ['\\', '\\']
  else if c.toNat = 8 then ['\\', 'b']
  else if c.toNat = 9 then ['\\', 't']
  else if c.toNat = 10 then ['\\', 'n']
  else if c.toNat = 12 then ['\\', 'f']
  else if c.toNat = 13 then ['\\', 'r']
  else if c.toNat < 32 then
    ['\\', 'u', '0', '0', Nat.digitChar (c.toNat / 16), Nat.digitChar (c.toNat % 16)]
  else [c]

/-- A text in quotes. -/
def quote (text : List Char) : List Char := '"' :: text.flatMap escapeChar ++ ['"']

/-! ## Values -/

/-- Pieces with a separator between them. -/
def separated (separator : List Char) : List (List Char) → List Char
  | [] => []
  | [piece] => piece
  | piece :: pieces => piece ++ separator ++ separated separator pieces

mutual

/-- A value on one line without spaces. -/
def compactChars : Value → List Char
  | .text value => quote value.toList
  | .boolean value => (if value then "true" else "false").toList
  | .object fields => '\x7b' :: separated [','] (compactFields fields) ++ ['\x7d']

/-- Fields on one line without spaces. -/
def compactFields : List (String × Value) → List (List Char)
  | [] => []
  | (name, value) :: fields =>
      (quote name.toList ++ [':'] ++ compactChars value) :: compactFields fields

end

/-- A line break and the indentation of a level. -/
def lineStart (level : Nat) : List Char := '\n' :: List.replicate (2 * level) ' '

mutual

/-- A value on several lines, at a level of indentation. -/
def prettyChars (level : Nat) : Value → List Char
  | .text value => quote value.toList
  | .boolean value => (if value then "true" else "false").toList
  | .object [] => ['\x7b', '\x7d']
  | .object (field :: fields) =>
      '\x7b' :: lineStart (level + 1)
        ++ separated (',' :: lineStart (level + 1)) (prettyFields (level + 1) (field :: fields))
        ++ lineStart level ++ ['\x7d']

/-- Fields on lines of their own, at a level of indentation. -/
def prettyFields (level : Nat) : List (String × Value) → List (List Char)
  | [] => []
  | (name, value) :: fields =>
      (quote name.toList ++ [':', ' '] ++ prettyChars level value) :: prettyFields level fields

end

namespace Value

/-- A value on one line without spaces. -/
def compact (value : Value) : String := String.ofList (compactChars value)

/-- A value on several lines. -/
def pretty (value : Value) : String := String.ofList (prettyChars 0 value)

end Value

end LoopTemplate.Json
