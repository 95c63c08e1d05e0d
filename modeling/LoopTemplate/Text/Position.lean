/-!
# Places in a text

A place is a line and a column, both counted from one. It is computed from an offset in bytes of
the UTF-8 form; a column counts code points since the last line break.
-/

namespace LoopTemplate.Text

/-- A line and a column, counted from one. -/
structure Position where
  line : Nat
  column : Nat
deriving DecidableEq, Inhabited

namespace Position

/-- Where a text begins. -/
def first : Position := ⟨1, 1⟩

/-- The place after one more character. -/
def advance (position : Position) (c : Char) : Position :=
  if c = '\n' then ⟨position.line + 1, 1⟩ else ⟨position.line, position.column + 1⟩

end Position

/-- Number of bytes of the UTF-8 form. -/
def byteLength : List Char → Nat
  | [] => 0
  | c :: rest => c.utf8Size + byteLength rest

/-- The characters before a byte offset, if the offset stands between two characters. -/
def charsBefore : List Char → Nat → Option (List Char)
  | _, 0 => some []
  | [], _ + 1 => none
  | c :: rest, offset =>
      if c.utf8Size ≤ offset then (charsBefore rest (offset - c.utf8Size)).map (c :: ·)
      else none

/-- The place at a byte offset. An offset past the end is the end; an offset inside a character
counts the whole text. -/
def positionAt (source : List Char) (offset : Nat) : Position :=
  let before := (charsBefore source (min offset (byteLength source))).getD source
  before.foldl Position.advance Position.first

end LoopTemplate.Text
