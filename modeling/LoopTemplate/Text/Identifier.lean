import LoopTemplate.Text.IdentifierTable

/-!
# Characters of identifiers

Which characters may begin an identifier and which may follow. The rule for ASCII is spelled out
here; above ASCII the tables of `LoopTemplate.Text.IdentifierTable` decide.
-/

namespace LoopTemplate.Text

/-- Whether a code point lies in one of the closed ranges. -/
def inRanges (ranges : List (Nat × Nat)) (code : Nat) : Bool :=
  ranges.any fun range => range.1 ≤ code && code ≤ range.2

/-- An ASCII letter. -/
def isAsciiLetter (c : Char) : Bool :=
  ('a' ≤ c && c ≤ 'z') || ('A' ≤ c && c ≤ 'Z')

/-- An ASCII digit. -/
def isAsciiDigit (c : Char) : Bool :=
  '0' ≤ c && c ≤ '9'

/-- A character that may begin an identifier: a letter, `$` or `_`. -/
def isIdentifierStart (c : Char) : Bool :=
  if c.toNat < 0x80 then isAsciiLetter c || c == '$' || c == '_'
  else inRanges startRanges c.toNat

/-- A character that may follow in an identifier: what may begin one, digits, marks, and the two
zero-width joiners. -/
def isIdentifierPart (c : Char) : Bool :=
  if c.toNat < 0x80 then isAsciiLetter c || isAsciiDigit c || c == '$' || c == '_'
  else inRanges startRanges c.toNat || inRanges continueRanges c.toNat
    || c.toNat == 0x200C || c.toNat == 0x200D

theorem isIdentifierPart_of_start {c : Char} (start : isIdentifierStart c = true) :
    isIdentifierPart c = true := by
  unfold isIdentifierStart at start
  unfold isIdentifierPart
  split at start <;> rename_i ascii
  · rw [if_pos ascii]
    simp only [Bool.or_eq_true] at start ⊢
    rcases start with (letter | dollar) | underscore
    · exact .inl (.inl (.inl letter))
    · exact .inl (.inr dollar)
    · exact .inr underscore
  · rw [if_neg ascii]
    simp [start]

end LoopTemplate.Text
