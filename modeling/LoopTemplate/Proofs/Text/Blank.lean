import LoopTemplate.Text.Blank
import Mathlib.Data.List.DropRight

/-!
# White space at the ends of a text

Nothing is left of a text when it is trimmed just if it is all white space.
-/

namespace LoopTemplate.Text

/-- Nothing is left of a text without the white space at its ends just if it is all white space. -/
theorem trimChars_eq_nil {chars : List Char} :
    trimChars chars = [] ↔ ∀ c ∈ chars, isBlank c = true := by
  rw [← List.dropWhile_eq_nil_iff, trimChars, List.reverse_eq_nil_iff,
    List.dropWhile_eq_nil_iff]
  constructor
  · intro blank
    by_contra solid
    have headSolid := List.head_dropWhile_not isBlank solid
    rw [blank _ (List.mem_reverse.2 (List.head_mem solid))] at headSolid
    cases headSolid
  · intro empty
    simp [empty]

theorem isEmpty_trim (text : String) : (trim text).isEmpty = text.toList.all isBlank := by
  rw [Bool.eq_iff_iff, List.all_eq_true, ← trimChars_eq_nil, String.isEmpty_iff, trim,
    String.ofList_eq_empty_iff]

end LoopTemplate.Text
