import LoopTemplate.Proofs.Comparison
import LoopTemplate.Proofs.Shadowing

/-!
# What an analysis sees of one name

Under `scoped` it does not depend on other names whether an analysis finds a name. `sees` follows
one name through a node, and `lasting` lists the names that are hidden behind a node. An analysis
finds a bound name just if it sees it where it is not hidden yet (`mem_captures_iff`).
-/

namespace LoopTemplate.Loop

open LoopTemplate.Grammar (plainProperty? quotedAttribute)
open LoopTemplate.Tree (Node)

mutual

/-- The names that a node hides from what comes behind it. -/
def lasting : Node → List String
  | .mk _ (.reference _) _ => []
  | .mk _ (.binding name) _ => [name]
  | .mk _ .element (opening :: _) => lasting opening
  | .mk _ (.function _) _ => []
  | .mk _ (.arrow _) _ => []
  | .mk _ .block _ => []
  | .mk _ _ parts => allLasting parts

/-- The names that nodes hide from what comes behind them. -/
def allLasting : List Node → List String
  | [] => []
  | node :: nodes => lasting node ++ allLasting nodes

end

mutual

/-- Whether a name is read in a node where the node does not hide it. -/
def sees (adapter : Adapter) (name : String) : Node → Bool
  | .mk _ (.reference read) _ => read == name
  | .mk _ (.binding _) _ => false
  | .mk _ .element (opening :: children) =>
      sees adapter name opening ||
        (name ∉ lasting opening && name ∉ templateScope (captureRules adapter [] .scoped) opening &&
          anySees adapter name children)
  | .mk _ .declarator [pattern, value] =>
      sees adapter name value || (name ∉ lasting value && sees adapter name pattern)
  | .mk _ _ parts => anySees adapter name parts

/-- Whether a name is read in one of some nodes where neither that nor a node before it hides it. -/
def anySees (adapter : Adapter) (name : String) : List Node → Bool
  | [] => false
  | node :: nodes =>
      sees adapter name node || (name ∉ lasting node && anySees adapter name nodes)

end

attribute [local simp] lasting allLasting sees anySees

/-! ## Analysis -/

section Analysis

variable {adapter : Adapter} {bound : Names} {name : String}

/-- What a scoped analysis does to one name. -/
structure Sighted (bound : Names) (name : String) (hides seen : Prop)
    (before after : CaptureState) : Prop where
  hidden : name ∈ after.hidden ↔ hides ∨ name ∈ before.hidden
  found : name ∈ after.found ↔ name ∈ before.found ∨ name ∈ bound ∧ name ∉ before.hidden ∧ seen

theorem Sighted.refl (state : CaptureState) : Sighted bound name False False state state :=
  ⟨by simp, by simp⟩

theorem Sighted.trans {firstHides firstSeen secondHides secondSeen : Prop}
    {before middle after : CaptureState}
    (first : Sighted bound name firstHides firstSeen before middle)
    (second : Sighted bound name secondHides secondSeen middle after) :
    Sighted bound name (firstHides ∨ secondHides) (firstSeen ∨ ¬ firstHides ∧ secondSeen) before
      after := by
  constructor
  · rw [second.hidden, first.hidden, or_left_comm, or_assoc]
  · rw [second.found, first.found, first.hidden]
    grind

/-- Behind a scope, what it hid is not hidden. -/
theorem Sighted.leave {hides seen : Prop} {before after : CaptureState}
    (inside : Sighted bound name hides seen before after) :
    Sighted bound name False seen before (after.leave before) :=
  ⟨by simp [CaptureState.leave], inside.found⟩

theorem sighted_read (state : CaptureState) (read : String) :
    Sighted bound name False (read = name) state
      (state.read (captureRules adapter bound .scoped) read) := by
  unfold CaptureState.read
  split
  case isTrue visible =>
    simp only [captureRules, true_and] at visible
    constructor
    · simp
    · simp only [mem_insertName]
      grind
  case isFalse unseen =>
    simp only [captureRules, true_and] at unseen
    constructor
    · simp
    · grind

theorem sighted_enterElement (opening : Node) (state : CaptureState) :
    Sighted bound name (name ∈ templateScope (captureRules adapter [] .scoped) opening) False state
      (enterElement (captureRules adapter bound .scoped) opening state) :=
  ⟨mem_hidden_enterElement rfl, by simp [found_enterElement]⟩

theorem sighted_analyze :
    (∀ node state, Sighted bound name (name ∈ lasting node) (sees adapter name node = true) state
      (analyze (captureRules adapter bound .scoped) node state)) ∧
    ∀ nodes state, Sighted bound name (name ∈ allLasting nodes) (anySees adapter name nodes = true)
      state (analyzeAll (captureRules adapter bound .scoped) nodes state) := by
  apply analyze.mutual_induct (captureRules adapter bound .scoped)
  case case1 =>
    intro start read parts state
    simpa [analyze, lasting, sees] using sighted_read state read
  case case2 =>
    intro start declared parts state
    constructor
    · simp [analyze, lasting, CaptureState.declare, captureRules]
    · simp [analyze, sees, CaptureState.declare, captureRules]
  case case3 =>
    intro start opening children state before openingIh childrenIh
    have inside := openingIh.trans ((sighted_enterElement opening _).trans childrenIh)
    constructor
    · simpa [analyze, lasting, CaptureState.leave] using openingIh.hidden
    · simpa [analyze, sees, CaptureState.leave, and_assoc] using inside.found
  case case4 =>
    intro start pattern value state valueIh patternIh
    rw [analyze]
    have both := valueIh.trans patternIh
    simpa [lasting, allLasting, sees, or_comm] using both
  case case5 | case6 =>
    intro start head parts state partsIh
    simpa [analyze, lasting, sees] using partsIh.leave
  case case7 =>
    intro start parts state partsIh
    simpa [analyze, lasting, sees] using partsIh.leave
  case case8 =>
    intro start form parts state notReference notBinding notElement notDeclarator notFunction
      notArrow notBlock partsIh
    rw [analyze, lasting, sees]
    · exact partsIh
    all_goals assumption
  case case9 =>
    intro state
    simpa [analyzeAll, allLasting, anySees] using Sighted.refl state
  case case10 =>
    intro node nodes state nodeIh nodesIh
    simpa [analyzeAll, allLasting, anySees] using nodeIh.trans nodesIh

end Analysis

/-- Under `scoped` the bound names are found that a node sees. -/
theorem mem_captures_iff {adapter : Adapter} {bound : Names} {name : String} {node : Node} :
    name ∈ captures (captureRules adapter bound .scoped) node ↔
      name ∈ bound ∧ sees adapter name node = true := by
  simpa [captures, CaptureState.empty] using (sighted_analyze.1 node .empty).found

/-! ## Nodes in parts -/

section Parts

variable {adapter : Adapter} {name : String}

theorem allLasting_append (nodes others : List Node) :
    allLasting (nodes ++ others) = allLasting nodes ++ allLasting others := by
  induction nodes with
  | nil => rfl
  | cons node nodes ih => rw [List.cons_append, allLasting, ih, allLasting, List.append_assoc]

theorem anySees_append (nodes others : List Node) :
    anySees adapter name (nodes ++ others) =
      (anySees adapter name nodes || (name ∉ allLasting nodes && anySees adapter name others)) := by
  induction nodes with
  | nil => simp [anySees, allLasting]
  | cons node nodes ih =>
      simp [anySees, allLasting, ih, Bool.and_or_distrib_left, Bool.or_assoc, Bool.and_assoc]

@[simp]
theorem allLasting_singleton (node : Node) : allLasting [node] = lasting node := by
  simp [allLasting]

@[simp]
theorem anySees_singleton (node : Node) : anySees adapter name [node] = sees adapter name node := by
  simp [anySees]

theorem lasting_withoutParentheses (node : Node) :
    lasting node.withoutParentheses = lasting node := by
  fun_induction Node.withoutParentheses node with
  | case1 start inner ih => simp [lasting, ih]
  | case2 node other => rfl

theorem sees_withoutParentheses (node : Node) :
    sees adapter name node.withoutParentheses = sees adapter name node := by
  fun_induction Node.withoutParentheses node with
  | case1 start inner ih => simp [sees, ih]
  | case2 node other => rfl

theorem sees_of_plainProperty? {property : Node} {key : String}
    (plain : plainProperty? property = some key) :
    lasting property = [] ∧ (sees adapter name property = true ↔ name = key) := by
  unfold plainProperty? at plain
  split at plain
  case h_1 =>
    split at plain
    case isTrue same =>
      cases plain
      simpa [lasting, allLasting, sees, anySees] using eq_comm
    case isFalse => cases plain
  case h_2 => cases plain

/-- An object hides nothing and sees the names that it hands over. -/
theorem sees_of_handsOver {object : Node} {names : Names} (hands : HandsOver object names) :
    lasting object = [] ∧ (sees adapter name object = true ↔ name ∈ names) := by
  obtain ⟨start, properties, rfl, spelled⟩ := hands
  simp only [lasting, sees]
  induction properties generalizing names with
  | nil =>
      obtain rfl : names = [] := by simpa using spelled.symm
      simp [allLasting, anySees]
  | cons property properties ih =>
      obtain ⟨key, others, rfl, plain, rest⟩ := List.map_eq_cons_iff.1 spelled.symm
      obtain ⟨hidesNothing, seen⟩ := @sees_of_plainProperty? adapter name _ _ plain.symm
      obtain ⟨restHidesNothing, restSeen⟩ := ih rest.symm
      simp [allLasting, anySees, hidesNothing, seen, restHidesNothing, restSeen]

/-! ## Results of bodies -/

namespace BodyContext

variable (context : BodyContext) {result other : Node}

theorem lasting_result (visible : name ∉ lasting (context.fill result)) :
    name ∉ lasting result := by
  cases context with
  | whole => exact visible
  | block start closing before returnStart after beforeClear afterClear =>
      simp_all [fill, lasting, allLasting_append, allLasting]

/-- A body that does not hide a name does not hide it with another result that does not. -/
theorem lasting_fill (visible : name ∉ lasting (context.fill result))
    (shown : name ∉ lasting other) :
    name ∉ lasting (context.fill other) := by
  cases context with
  | whole => exact shown
  | block start closing before returnStart after beforeClear afterClear =>
      simp_all [fill, lasting, allLasting_append, allLasting]

/-- A body sees what its result sees, if it hides nothing of it. -/
theorem sees_fill (visible : name ∉ lasting (context.fill result))
    (seen : sees adapter name result = true) : sees adapter name (context.fill result) = true := by
  cases context with
  | whole => exact seen
  | block start closing before returnStart after beforeClear afterClear =>
      simp_all [fill, lasting, allLasting_append, sees, anySees_append, anySees]

/-- What a body sees before and behind its result, it sees with another result that does not hide
it. -/
theorem sees_fill_or (shown : name ∉ lasting other)
    (seen : sees adapter name (context.fill result) = true) :
    sees adapter name (context.fill other) = true ∨ sees adapter name result = true := by
  cases context with
  | whole => exact .inr seen
  | block start closing before returnStart after beforeClear afterClear =>
      simp only [fill, sees, anySees_append, anySees, lasting, allLasting_singleton,
        Bool.or_eq_true, Bool.and_eq_true, decide_eq_true_eq] at seen ⊢
      grind

end BodyContext

/-! ## Loops -/

/-- A loop hides what its collection hides. -/
theorem MadeLoop.lasting_eq {item index : String} {call child node : Node}
    (made : MadeLoop adapter item index call child node) : lasting node = lasting call := by
  obtain ⟨outer, first, firstInner, second, secondInner, third, thirdInner, rfl⟩ := made
  simp [loopElement_eq, loopTag, lasting, allLasting, quotedAttribute]

/-- The collection of a loop is seen, and then its child without the item and index. -/
theorem MadeLoop.sees_iff {item index : String} {call child node : Node}
    (made : MadeLoop adapter item index call child node) (distinct : adapter.item ≠ adapter.index) :
    sees adapter name node = true ↔ sees adapter name call = true ∨
      name ∉ lasting call ∧ name ∉ [item, index] ∧ sees adapter name child = true := by
  obtain ⟨outer, first, firstInner, second, secondInner, third, thirdInner, rfl⟩ := made
  have scope : ∀ call,
      templateScope (captureRules adapter [] .scoped) (loopTag adapter item index call
        outer first firstInner second secondInner third thirdInner) = [item, index] := by
    intro call
    simp [templateScope, loopNames?_loopTag, distinct]
  rw [loopElement_eq, sees, scope]
  simp [loopTag, sees, anySees, lasting, allLasting, quotedAttribute, and_assoc]

end Parts

end LoopTemplate.Loop
