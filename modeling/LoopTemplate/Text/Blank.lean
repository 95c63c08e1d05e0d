/-!
# White space

Two notions of white space. `isBlank` is the Unicode property White_Space, by which names given on
the command line and in requests are trimmed. `isSourceBlank` and `isLineBreak` are the
characters that separate tokens in a program.
-/

namespace LoopTemplate.Text

/-- The Unicode property White_Space. -/
def isBlank (c : Char) : Bool :=
  let code := c.toNat
  (0x09 ≤ code && code ≤ 0x0D) || code == 0x20 || code == 0x85 || code == 0xA0 || code == 0x1680
    || (0x2000 ≤ code && code ≤ 0x200A) || code == 0x2028 || code == 0x2029 || code == 0x202F
    || code == 0x205F || code == 0x3000

/-- White space among the ASCII characters, vertical tabs excepted. -/
def isAsciiBlank (c : Char) : Bool :=
  c == ' ' || c == '\t' || c == '\n' || c == '\r' || c.toNat == 0x0C

/-- The text without the white space at its two ends. -/
def trimChars (chars : List Char) : List Char :=
  ((chars.dropWhile isBlank).reverse.dropWhile isBlank).reverse

/-- The text without the white space at its two ends. -/
def trim (text : String) : String :=
  String.ofList (trimChars text.toList)

/-- Lower case for the ASCII letters; every other character stays. -/
def lowerAscii (text : String) : String :=
  String.ofList (text.toList.map Char.toLower)

/-- A character that ends a line of a program. -/
def isLineBreak (c : Char) : Bool :=
  c == '\n' || c == '\r' || c.toNat == 0x2028 || c.toNat == 0x2029

/-- A character that separates tokens without ending the line. -/
def isSourceBlank (c : Char) : Bool :=
  let code := c.toNat
  code == 0x20 || code == 0x09 || code == 0x0B || code == 0x0C || code == 0x85 || code == 0xA0
    || code == 0x1680 || code == 0x180E || (0x2000 ≤ code && code ≤ 0x200B) || code == 0x202F
    || code == 0x205F || code == 0x3000 || code == 0xFEFF

end LoopTemplate.Text
