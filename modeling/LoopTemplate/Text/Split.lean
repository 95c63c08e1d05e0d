/-!
# Texts cut at a separator
-/

namespace LoopTemplate.Text

/-- The pieces of a text between separators: one more than there are separators. -/
def pieces (separator : Char) : List Char → List (List Char)
  | [] => [[]]
  | c :: chars =>
      if c = separator then [] :: pieces separator chars
      else match pieces separator chars with
        | [] => [[c]]
        | piece :: rest => (c :: piece) :: rest

/-- There is always a first piece. -/
theorem pieces_ne_nil (separator : Char) (chars : List Char) : pieces separator chars ≠ [] := by
  cases chars with
  | nil => simp [pieces]
  | cons c chars =>
      rw [pieces]
      split
      · simp
      · split <;> simp

/-- A separator starts a new piece. -/
theorem pieces_separator (separator : Char) (chars : List Char) :
    pieces separator (separator :: chars) = [] :: pieces separator chars := by
  simp [pieces]

end LoopTemplate.Text
