import LoopTemplate.Loop.Frame

/-!
# Laws of ordered sets of names
-/

namespace LoopTemplate.Loop

theorem insertNames_append (names left right : List String) :
    insertNames names (left ++ right) = insertNames (insertNames names left) right := by
  simp only [insertNames, List.foldl_append]

theorem namesOf_append (left right : List String) :
    namesOf (left ++ right) = insertNames (namesOf left) right :=
  insertNames_append [] left right

/-- Putting a name in first changes nothing. -/
theorem insertNames_insertName (names left : List String) (name : String) :
    insertNames names (insertName left name) = insertName (insertNames names left) name := by
  unfold insertName
  split
  case isTrue present => rw [if_pos (mem_insertNames.2 (.inr present))]
  case isFalse absent =>
    rw [insertNames_append]
    rfl

/-- Names can be put in as an ordered set or one after the other. -/
theorem insertNames_insertNames (names left right : List String) :
    insertNames names (insertNames left right) = insertNames (insertNames names left) right := by
  induction right generalizing left with
  | nil => rfl
  | cons name right ih =>
      change insertNames names (insertNames (insertName left name) right) = _
      rw [ih, insertNames_insertName]
      rfl

/-- Names are put in where they come first. -/
theorem insertNames_eq_eraseDups (names more : List String) :
    insertNames names more = names ++ (more.filter (· ∉ names)).eraseDups := by
  induction more generalizing names with
  | nil => simp [insertNames]
  | cons name more ih =>
      change insertNames (insertName names name) more = _
      rw [ih]
      unfold insertName
      split
      case isTrue present => simp [present]
      case isFalse absent =>
        have others : more.filter (· ∉ names ++ [name]) =
            (more.filter (· ∉ names)).filter fun other => !other == name := by
          rw [List.filter_filter]
          refine List.filter_congr fun other _ => ?_
          by_cases same : other = name <;> simp [same]
        rw [others, List.append_assoc, List.filter_cons_of_pos (by simpa using absent),
          List.eraseDups_cons]
        rfl

/-- Names that are put in stand behind those that were there. -/
theorem prefix_insertNames (names more : List String) : names <+: insertNames names more := by
  rw [insertNames_eq_eraseDups]
  exact List.prefix_append _ _

theorem namesOf_eq_eraseDups (names : List String) : namesOf names = names.eraseDups := by
  have kept : names.filter (· ∉ ([] : List String)) = names := List.filter_eq_self.2 (by simp)
  rw [namesOf, insertNames_eq_eraseDups, kept, List.nil_append]

namespace LoopStack

/-- Opening a loop puts its names behind those that the loops around it bind. -/
theorem bindings_cons (frame : Frame) (stack : LoopStack) :
    LoopStack.bindings (frame :: stack) =
      insertNames (LoopStack.bindings stack) frame.bindings := by
  simp only [LoopStack.bindings, List.reverse_cons, List.flatMap_append, List.flatMap_singleton]
  exact namesOf_append _ _

theorem depth_report (stack : LoopStack) (finished : Frame) :
    LoopStack.depth (LoopStack.report stack finished) = LoopStack.depth stack := by
  cases stack <;> rfl

/-- Reporting a finished loop changes no names that the open loops bind. -/
theorem bindings_report (stack : LoopStack) (finished : Frame) :
    LoopStack.bindings (LoopStack.report stack finished) = LoopStack.bindings stack := by
  cases stack with
  | nil => rfl
  | cons parent outer =>
      have names : (parent.absorb finished).bindings = parent.bindings := rfl
      simp only [report, bindings_cons, names]

end LoopStack

end LoopTemplate.Loop
