import LoopTemplate.Text.Position
import Mathlib.Data.List.DropRight
import Mathlib.Data.List.Induction
import Mathlib.Data.Prod.Lex
import Mathlib.Data.String.Basic
import Mathlib.Order.Monotone.Basic

/-!
# Places identify offsets

The place at a byte offset is the place behind the characters before it (`Position.after`): its
line counts their line breaks, and its column counts the characters behind the last of these.
Every further character leads to a later place, so that places grow with the offsets between
characters, and the offset can be found again from the place (`offsetAt`).
-/

namespace LoopTemplate.Text

namespace Position

/-! ## Places behind a text -/

/-- The place behind the characters at the beginning of a text. -/
def after (chars : List Char) : Position := chars.foldl advance first

/-- How many characters stand behind the last line break. -/
def lastLine (chars : List Char) : Nat := (chars.reverse.takeWhile (· ≠ '\n')).length

/-- A place counts the line breaks before it, and the characters behind the last of these. -/
theorem after_eq (chars : List Char) :
    after chars = ⟨1 + chars.count '\n', 1 + lastLine chars⟩ := by
  induction chars using List.reverseRecOn with
  | nil => rfl
  | append_singleton chars c ih =>
      simp only [after, List.foldl_append, List.foldl_cons, List.foldl_nil] at ih ⊢
      rw [ih, advance]
      split
      case isTrue lineBreak => simp [lastLine, lineBreak, Nat.add_assoc]
      case isFalse other => simp [lastLine, other, Nat.add_assoc]

/-! ## The order of places -/

/-- Places are compared by their lines, and in one line by their columns. -/
def rank (position : Position) : ℕ ×ₗ ℕ := toLex (position.line, position.column)

/-- Every character leads to a later place. -/
theorem rank_lt_advance (position : Position) (c : Char) :
    position.rank < (position.advance c).rank := by
  unfold rank advance
  rw [Prod.Lex.toLex_lt_toLex]
  split
  · exact .inl (Nat.lt_succ_self _)
  · exact .inr ⟨rfl, Nat.lt_succ_self _⟩

/-- So the place behind a text is later than the one before it, unless the text is empty. -/
theorem rank_lt_foldl (position : Position) {chars : List Char} (present : chars ≠ []) :
    position.rank < (chars.foldl advance position).rank := by
  induction chars using List.reverseRecOn with
  | nil => exact absurd rfl present
  | append_singleton chars c ih =>
      rw [List.foldl_append, List.foldl_cons, List.foldl_nil]
      refine lt_of_le_of_lt ?_ (rank_lt_advance _ c)
      by_cases empty : chars = []
      · rw [empty, List.foldl_nil]
      · exact (ih empty).le

end Position

/-! ## Characters before an offset -/

theorem byteLength_append (before rest : List Char) :
    byteLength (before ++ rest) = byteLength before + byteLength rest := by
  induction before with
  | nil => exact (Nat.zero_add _).symm
  | cons c before ih => rw [List.cons_append, byteLength, byteLength, ih, Nat.add_assoc]

/-- Bytes are counted as in the UTF-8 form of the text. -/
theorem byteLength_toList (text : String) : byteLength text.toList = text.utf8ByteSize := by
  have counted : ∀ chars, byteLength chars = (String.ofList chars).utf8ByteSize := by
    intro chars
    rw [String.utf8ByteSize_ofList]
    induction chars with
    | nil => rfl
    | cons c chars ih => rw [byteLength, ih, String.utf8Len_cons, Nat.add_comm]
  rw [counted, String.ofList_toList]

theorem charsBefore_append (before rest : List Char) :
    charsBefore (before ++ rest) (byteLength before) = some before := by
  induction before with
  | nil => cases rest <;> rfl
  | cons c before ih =>
      have nonempty : byteLength (c :: before) ≠ 0 := by
        rw [byteLength]
        exact Nat.ne_of_gt (Nat.add_pos_left c.utf8Size_pos _)
      rw [List.cons_append, charsBefore, byteLength, if_pos (Nat.le_add_right _ _),
        Nat.add_sub_cancel_left, ih]
      · rfl
      · exact nonempty

/-- The place at an offset between characters is the place behind the characters before it. -/
theorem positionAt_byteLength (before rest : List Char) :
    positionAt (before ++ rest) (byteLength before) = .after before := by
  rw [positionAt, byteLength_append, Nat.min_eq_left (Nat.le_add_right _ _), charsBefore_append]
  rfl

/-! ## Offsets of places -/

/-- How many bytes of a text lead from one place to another. -/
def bytesTo (target : Position) : Position → List Char → Nat
  | _, [] => 0
  | position, c :: chars =>
      if position = target then 0 else c.utf8Size + bytesTo target (position.advance c) chars

/-- The offset of a place in a text. -/
def offsetAt (source : List Char) (position : Position) : Nat := bytesTo position .first source

theorem bytesTo_foldl (position : Position) (before rest : List Char) :
    bytesTo (before.foldl Position.advance position) position (before ++ rest) =
      byteLength before := by
  induction before generalizing position with
  | nil => cases rest <;> simp [bytesTo, byteLength]
  | cons c before ih =>
      have earlier : position ≠ (c :: before).foldl Position.advance position := by
        intro same
        exact (position.rank_lt_foldl (List.cons_ne_nil c before)).ne (congrArg Position.rank same)
      rw [List.cons_append, bytesTo, if_neg earlier, List.foldl_cons, ih, byteLength]

/-! ## Boundaries -/

/-- The byte offsets between two characters of a text, and those of its two ends. -/
def boundaries (source : String) : Set Nat := {offset | String.Pos.Raw.IsValid source ⟨offset⟩}

/-- A boundary divides the text in two. -/
theorem mem_boundaries {source : String} {offset : Nat} :
    offset ∈ boundaries source ↔
      ∃ before rest : String, source = before ++ rest ∧ before.utf8ByteSize = offset := by
  refine String.Pos.Raw.isValid_iff_exists_append.trans ?_
  constructor
  · rintro ⟨before, rest, split, offset_eq⟩
    exact ⟨before, rest, split, (congrArg String.Pos.Raw.byteIdx offset_eq).symm⟩
  · rintro ⟨before, rest, split, rfl⟩
    exact ⟨before, rest, split, rfl⟩

section Boundaries

variable {source : String}

/-- The place at a boundary is the place behind the text before it. -/
theorem positionAt_of_append {before rest : String} (split : source = before ++ rest) :
    positionAt source.toList before.utf8ByteSize = .after before.toList := by
  rw [split, String.toList_append, ← byteLength_toList, positionAt_byteLength]

/-- Of two boundaries, the text before the first is a part of the text before the second. -/
theorem prefix_of_boundaries {before rest further others : String} (split : source = before ++ rest)
    (otherSplit : source = further ++ others) (less : before.utf8ByteSize < further.utf8ByteSize) :
    ∃ more, more ≠ [] ∧ further.toList = before.toList ++ more := by
  have shorter : before.toList <+: source.toList :=
    ⟨rest.toList, by rw [split, String.toList_append]⟩
  have longer : further.toList <+: source.toList :=
    ⟨others.toList, by rw [otherSplit, String.toList_append]⟩
  rw [← byteLength_toList, ← byteLength_toList] at less
  rcases List.prefix_or_prefix_of_prefix shorter longer with ⟨more, split⟩ | ⟨more, split⟩
  · refine ⟨more, ?_, split.symm⟩
    rintro rfl
    rw [← split, List.append_nil] at less
    exact Nat.lt_irrefl _ less
  · rw [← split, byteLength_append] at less
    omega

/-- Places grow with the boundaries. -/
theorem strictMonoOn_rank_positionAt (source : String) :
    StrictMonoOn (fun offset => (positionAt source.toList offset).rank) (boundaries source) := by
  intro offset offsetIn other otherIn less
  obtain ⟨before, rest, split, rfl⟩ := mem_boundaries.1 offsetIn
  obtain ⟨further, others, otherSplit, rfl⟩ := mem_boundaries.1 otherIn
  obtain ⟨more, present, further_eq⟩ := prefix_of_boundaries split otherSplit less
  dsimp only
  rw [positionAt_of_append split, positionAt_of_append otherSplit, further_eq, Position.after,
    Position.after, List.foldl_append]
  exact Position.rank_lt_foldl _ present

/-- The offset of the place at a boundary is the boundary. -/
theorem offsetAt_positionAt {offset : Nat} (inside : offset ∈ boundaries source) :
    offsetAt source.toList (positionAt source.toList offset) = offset := by
  obtain ⟨before, rest, split, rfl⟩ := mem_boundaries.1 inside
  rw [positionAt_of_append split, split, String.toList_append, ← byteLength_toList]
  exact bytesTo_foldl .first before.toList rest.toList

end Boundaries

/-- At a boundary, the line counts the line breaks before it, and the column counts the characters
behind the last of these; both are counted from one. Later boundaries have later places, and each
can be found again from its place. Behind the end, the place is that of the end. -/
theorem positionAt_identifies (source : String) :
    (∀ offset ∈ boundaries source, ∃ before rest : String,
      source = before ++ rest ∧ before.utf8ByteSize = offset ∧
        positionAt source.toList offset =
          ⟨1 + before.toList.count '\n', 1 + Position.lastLine before.toList⟩) ∧
    StrictMonoOn (fun offset => (positionAt source.toList offset).rank) (boundaries source) ∧
    (∀ offset ∈ boundaries source,
      offsetAt source.toList (positionAt source.toList offset) = offset) ∧
    ∀ offset, source.utf8ByteSize ≤ offset →
      positionAt source.toList offset = positionAt source.toList source.utf8ByteSize := by
  refine ⟨?_, strictMonoOn_rank_positionAt source, fun _ => offsetAt_positionAt, ?_⟩
  · intro offset inside
    obtain ⟨before, rest, split, rfl⟩ := mem_boundaries.1 inside
    refine ⟨before, rest, split, rfl, ?_⟩
    rw [positionAt_of_append split, Position.after_eq]
  · intro offset beyond
    rw [positionAt, positionAt, byteLength_toList, Nat.min_eq_right beyond, Nat.min_self]

theorem positionAt_identifies_emoji :
    3 ∈ boundaries "é\n😀b" ∧ 7 ∈ boundaries "é\n😀b" ∧
      (positionAt "é\n😀b".toList 3).rank < (positionAt "é\n😀b".toList 7).rank ∧
      offsetAt "é\n😀b".toList (positionAt "é\n😀b".toList 7) = 7 ∧
      positionAt "é\n😀b".toList 9 = positionAt "é\n😀b".toList "é\n😀b".utf8ByteSize := by
  obtain ⟨-, increasing, recovered, beyond⟩ := positionAt_identifies "é\n😀b"
  have third : 3 ∈ boundaries "é\n😀b" := mem_boundaries.2 ⟨"é\n", "😀b", by decide, by decide⟩
  have seventh : 7 ∈ boundaries "é\n😀b" := mem_boundaries.2 ⟨"é\n😀", "b", by decide, by decide⟩
  exact ⟨third, seventh, increasing third seventh (by decide), recovered 7 seventh,
    beyond 9 (by decide)⟩

example : positionAt "é\n😀b".toList 7 = ⟨2, 2⟩ := by decide

end LoopTemplate.Text
