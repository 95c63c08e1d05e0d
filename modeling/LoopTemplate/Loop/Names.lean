/-!
# Ordered sets of names

A set of names keeps the order in which they were first put in. It is a list without repetitions;
`insertName` and `insertNames` keep it so.
-/

namespace LoopTemplate.Loop

/-- Names in the order in which they were first put in. -/
abbrev Names := List String

/-- Puts a name at the end, unless it is there already. -/
def insertName (names : Names) (name : String) : Names :=
  if name ∈ names then names else names ++ [name]

/-- Puts names at the end one after the other. -/
def insertNames (names : Names) (more : List String) : Names :=
  more.foldl insertName names

/-- The names of a list, each where it comes first. -/
def namesOf (names : List String) : Names := insertNames [] names

@[simp] theorem mem_insertName {names : Names} {name other : String} :
    other ∈ insertName names name ↔ other ∈ names ∨ other = name := by
  unfold insertName
  split
  case isTrue present =>
    constructor
    · exact Or.inl
    · rintro (inside | rfl)
      · exact inside
      · exact present
  case isFalse => simp

@[simp] theorem mem_insertNames {names more : List String} {name : String} :
    name ∈ insertNames names more ↔ name ∈ names ∨ name ∈ more := by
  induction more generalizing names with
  | nil => simp [insertNames]
  | cons head tail ih =>
      have step : insertNames names (head :: tail) = insertNames (insertName names head) tail := rfl
      simp [step, ih, or_assoc]

theorem nodup_insertName {names : Names} {name : String} (distinct : names.Nodup) :
    (insertName names name).Nodup := by
  unfold insertName
  split
  case isTrue => exact distinct
  case isFalse absent =>
    rw [List.nodup_append]
    refine ⟨distinct, by simp, ?_⟩
    intro left leftIn right rightIn same
    simp only [List.mem_singleton] at rightIn
    exact absent (rightIn ▸ same ▸ leftIn)

theorem nodup_insertNames {names more : List String} (distinct : names.Nodup) :
    (insertNames names more).Nodup := by
  induction more generalizing names with
  | nil => exact distinct
  | cons head tail ih => exact ih (nodup_insertName distinct)

end LoopTemplate.Loop
