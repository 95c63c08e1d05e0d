import LoopTemplate.Loop.Capture

/-!
# Looking for fewer names

An analysis that looks for fewer names goes the same way through a tree: what is hidden depends on
the tree alone, and of what is found the names that it does not look for are left out. So the names
that are found among some of the bound names can be read off what is found among all of them.
-/

namespace LoopTemplate.Loop

open LoopTemplate.Tree (Node)

/-- Leaving names out of an ordered set leaves out those that are put in. -/
theorem filter_insertName (keep : String → Bool) (names : Names) (name : String) :
    (insertName names name).filter keep =
      if keep name then insertName (names.filter keep) name else names.filter keep := by
  unfold insertName
  by_cases kept : keep name = true
  · by_cases present : name ∈ names
    · simp [kept, present, List.mem_filter]
    · simp [kept, present, List.mem_filter, List.filter_append]
  · by_cases present : name ∈ names
    · simp [kept, present]
    · simp [kept, present, List.filter_append]

namespace CaptureState

/-- How far an analysis would have come that looks for no other names. -/
def among (bound : Names) (state : CaptureState) : CaptureState :=
  { state with found := state.found.filter (· ∈ bound) }

end CaptureState

section Restriction

variable {rules : CaptureRules} {bound : Names} (contained : bound ⊆ rules.bound)

@[simp] theorem leave_among (inside before : CaptureState) :
    (inside.among bound).leave (before.among bound) = (inside.leave before).among bound := rfl

@[simp] theorem enterElement_among (opening : Node) (state : CaptureState) :
    enterElement { rules with bound } opening (state.among bound) =
      (enterElement rules opening state).among bound := by
  have names_eq : loopNames? { rules with bound } opening = loopNames? rules opening := rfl
  unfold enterElement
  rw [names_eq]
  dsimp only
  cases rules.policy <;> cases loopNames? rules opening <;> rfl

include contained

theorem read_among (state : CaptureState) (name : String) :
    (state.among bound).read { rules with bound } name = (state.read rules name).among bound := by
  by_cases wanted : name ∈ bound
  · have larger : name ∈ rules.bound := contained wanted
    by_cases covered : rules.policy = .scoped ∧ name ∈ state.hidden
    · simp [CaptureState.read, CaptureState.among, covered]
    · simp only [CaptureState.read, CaptureState.among, wanted, larger, covered, true_and,
        not_false_eq_true, if_true, filter_insertName, decide_true]
  · -- The larger analysis may find the name, but it is left out again.
    unfold CaptureState.read
    rw [if_neg (by simp [wanted])]
    split
    · simp [CaptureState.among, filter_insertName, wanted]
    · rfl

theorem declare_among (state : CaptureState) (name : String) :
    (state.among bound).declare { rules with bound } name =
      (state.declare rules name).among bound := by
  have read := read_among contained state name
  unfold CaptureState.declare
  dsimp only
  split
  · exact read
  · rfl

/-- The smaller analysis is in step with the larger one. -/
theorem analyze_among :
    (∀ node state, analyze { rules with bound } node (state.among bound) =
      (analyze rules node state).among bound) ∧
    ∀ nodes state, analyzeAll { rules with bound } nodes (state.among bound) =
      (analyzeAll rules nodes state).among bound := by
  apply analyze.mutual_induct rules
  case case1 =>
    intro start name parts state
    exact read_among contained state name
  case case2 =>
    intro start name parts state
    exact declare_among contained state name
  case case3 =>
    intro start opening children state before openingInStep childrenInStep
    rw [analyze, analyze, openingInStep, enterElement_among, childrenInStep, leave_among]
  case case4 =>
    intro start pattern value state valueInStep patternInStep
    rw [analyze, analyze, valueInStep, patternInStep]
  case case5 | case6 =>
    intro start head parts state partsInStep
    rw [analyze, analyze, partsInStep, leave_among]
  case case7 =>
    intro start parts state partsInStep
    rw [analyze, analyze, partsInStep, leave_among]
  case case8 =>
    intro start form parts state
    intros
    rename_i partsInStep
    rw [analyze, analyze, partsInStep]
    all_goals assumption
  case case9 =>
    intro state
    rfl
  case case10 =>
    intro node nodes state nodeInStep nodesInStep
    rw [analyzeAll, analyzeAll, nodeInStep, nodesInStep]

/-- What is captured of some of the bound names. -/
theorem captures_among (node : Node) :
    captures { rules with bound } node = (captures rules node).filter (· ∈ bound) :=
  congrArg CaptureState.found ((analyze_among contained).1 node .empty)

end Restriction

/-- The captures for some of the bound names are those for all of them with the other names left
out, in the same order. So binding more names neither removes nor reorders a capture, and the
order in which names are bound does not matter. -/
theorem captures_restrict {rules : CaptureRules} {bound : Names} (contained : bound ⊆ rules.bound)
    (node : Node) :
    captures { rules with bound } node = (captures rules node).filter (· ∈ bound) ∧
      (captures { rules with bound } node).Sublist (captures rules node) ∧
      ∀ other : Names, (∀ name, name ∈ other ↔ name ∈ bound) →
        captures { rules with bound := other } node = captures { rules with bound } node := by
  have restricted := captures_among contained node
  refine ⟨restricted, restricted ▸ List.filter_sublist, fun other same => ?_⟩
  have otherContained : other ⊆ rules.bound := fun name member => contained ((same name).1 member)
  rw [captures_among otherContained node, restricted]
  exact List.filter_congr fun name _ => by simp only [same]

/-- A loop of the template with names from outside in its child:
`<block a:for={rows} a:for-item="row" a:for-index="index">{row}{title}{rows}</block>`. -/
def titledRows : Node :=
  .mk 0 .element [
    .mk 0 (.opening (.plain "block") false) [
      .mk 0 (.attribute (.namespaced "a" "for")) [.mk 0 .container [.mk 0 (.reference "rows") []]],
      .mk 0 (.attribute (.namespaced "a" "for-item")) [.mk 0 (.quoted "row") []],
      .mk 0 (.attribute (.namespaced "a" "for-index")) [.mk 0 (.quoted "index") []]],
    .mk 0 .container [.mk 0 (.reference "row") []],
    .mk 0 .container [.mk 0 (.reference "title") []],
    .mk 0 .container [.mk 0 (.reference "rows") []]]

/-- The item of the loop is not found, whether or not it is looked for. -/
theorem captures_restrict_titledRows :
    ["title", "row"] ⊆ ["title", "row", "rows"] ∧
      captures ⟨["title", "row", "rows"], .scoped, some ("a:for-item", "a:for-index")⟩ titledRows =
        ["rows", "title"] ∧
      captures ⟨["title", "row"], .scoped, some ("a:for-item", "a:for-index")⟩ titledRows =
        ["title"] ∧
      captures ⟨["row", "title"], .scoped, some ("a:for-item", "a:for-index")⟩ titledRows =
        ["title"] := by
  have contained : ["title", "row"] ⊆ ["title", "row", "rows"] := by decide
  have found : captures ⟨["title", "row", "rows"], .scoped, some ("a:for-item", "a:for-index")⟩
      titledRows = ["rows", "title"] := by
    decide +kernel
  obtain ⟨restricted, -, unordered⟩ := @captures_restrict
    ⟨["title", "row", "rows"], .scoped, some ("a:for-item", "a:for-index")⟩ _ contained titledRows
  rw [found] at restricted
  exact ⟨contained, found, restricted,
    (unordered ["row", "title"] (by simp [or_comm])).trans restricted⟩

end LoopTemplate.Loop
