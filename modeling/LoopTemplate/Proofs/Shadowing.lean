import LoopTemplate.Proofs.Nodes
import LoopTemplate.Loop.Capture

/-!
# Declarations that hide names

An analysis under `scoped` is to miss no name that a node reads from outside. Which names these
are is said here by the scopes of the language: a declaration binds its name in the nearest block,
function, loop, clause or class around it, and `var` in the nearest function. The analysis ends a
scope only at a function, an arrow, a block and the children of an element. So a name that some
other scope binds stays hidden behind that scope (`lingeringNames`), and a later reading of it
from outside may be missed. No other name is missed.
-/

namespace LoopTemplate.Loop

open LoopTemplate.Tree (Form Node)

/-! ## Declarations -/

mutual

/-- The names that a node declares for the block around it. A class expression declares nothing
outside itself but what stands in its decorators. -/
def blockScoped : Node → List String
  | .mk _ (.binding name) _ => [name]
  | .mk _ (.variableList .hoisted) _ => []
  | .mk _ (.function head) (name :: _) => if head.expression then [] else blockScoped name
  | .mk _ (.function _) [] => []
  | .mk _ (.arrow _) _ => []
  | .mk _ .block _ => []
  | .mk _ .staticBlock _ => []
  | .mk _ .forLoop _ => []
  | .mk _ .forIn _ => []
  | .mk _ (.forOf _) _ => []
  | .mk _ .catchClause _ => []
  | .mk _ .switchStatement (value :: _) => blockScoped value
  | .mk _ (.classDefinition true) (decorators :: _) => blockScoped decorators
  | .mk _ _ parts => allBlockScoped parts

/-- The names that nodes declare for the block around them. -/
def allBlockScoped : List Node → List String
  | [] => []
  | node :: nodes => blockScoped node ++ allBlockScoped nodes

end

mutual

/-- The names that `var` declares in a node for the function around it. -/
def functionScoped : Node → List String
  | .mk _ (.variableList .hoisted) parts => allBlockScoped parts ++ allFunctionScoped parts
  | .mk _ (.function _) _ => []
  | .mk _ (.arrow _) _ => []
  | .mk _ .staticBlock _ => []
  | .mk _ (.binding _) _ => []
  | .mk _ _ parts => allFunctionScoped parts

/-- The names that `var` declares in nodes for the function around them. -/
def allFunctionScoped : List Node → List String
  | [] => []
  | node :: nodes => functionScoped node ++ allFunctionScoped nodes

end

/-- The names that nodes declare for a function around them. -/
def declaredIn (nodes : List Node) : List String := allBlockScoped nodes ++ allFunctionScoped nodes

theorem mem_allBlockScoped {nodes : List Node} {name : String} :
    name ∈ allBlockScoped nodes ↔ ∃ node ∈ nodes, name ∈ blockScoped node := by
  induction nodes with
  | nil => simp [allBlockScoped]
  | cons node nodes ih => simp [allBlockScoped, ih]

theorem mem_allFunctionScoped {nodes : List Node} {name : String} :
    name ∈ allFunctionScoped nodes ↔ ∃ node ∈ nodes, name ∈ functionScoped node := by
  induction nodes with
  | nil => simp [allFunctionScoped]
  | cons node nodes ih => simp [allFunctionScoped, ih]

theorem not_mem_declaredIn_append {lead rest : List Node} {name : String}
    (leadFree : name ∉ declaredIn lead) (restFree : name ∉ declaredIn rest) :
    name ∉ declaredIn (lead ++ rest) := by
  simp only [declaredIn, List.mem_append, mem_allBlockScoped, mem_allFunctionScoped] at *
  grind

/-! ## Readings from outside -/

/-- The names that an element binds over its children, as a loop of the template. -/
def templateScope (rules : CaptureRules) (opening : Node) : List String :=
  match loopNames? rules opening with
  | some (item, index) => [item, index]
  | none => []

/-- The names that a node binds over all of its parts. -/
def ownScope : Form → List Node → List String
  | .function _, parts | .arrow _, parts | .staticBlock, parts => declaredIn parts
  | .block, parts | .forLoop, parts | .forIn, parts | .forOf _, parts | .catchClause, parts =>
      allBlockScoped parts
  | _, _ => []

mutual

/-- Whether a node reads a name outside the scopes of all declarations of it in the node. The
parameters of a function do not see what its body declares. -/
def isUnbound (rules : CaptureRules) (name : String) : Node → Bool
  | .mk _ (.reference read) _ => read == name
  | .mk _ (.binding _) _ => false
  | .mk _ .element (opening :: children) =>
      isUnbound rules name opening ||
        (name ∉ templateScope rules opening && anyUnbound rules name children)
  | .mk _ (.function _) (own :: parameters :: body) =>
      name ∉ declaredIn [own, parameters] &&
        (isUnbound rules name own || isUnbound rules name parameters ||
          (name ∉ declaredIn body && anyUnbound rules name body))
  | .mk _ (.arrow _) (parameters :: body) =>
      name ∉ declaredIn [parameters] &&
        (isUnbound rules name parameters ||
          (name ∉ declaredIn body && anyUnbound rules name body))
  | .mk _ .switchStatement (value :: cases) =>
      isUnbound rules name value || (name ∉ allBlockScoped cases && anyUnbound rules name cases)
  | .mk _ (.classDefinition _) (decorators :: inside) =>
      isUnbound rules name decorators ||
        (name ∉ allBlockScoped inside && anyUnbound rules name inside)
  | .mk _ form parts => name ∉ ownScope form parts && anyUnbound rules name parts

/-- Whether one of some nodes reads a name outside the scopes of all declarations of it in that
node. -/
def anyUnbound (rules : CaptureRules) (name : String) : List Node → Bool
  | [] => false
  | node :: nodes => isUnbound rules name node || anyUnbound rules name nodes

end

/-- Whether a node reads a name from outside: at some place that no declaration of the name in the
node has in its scope, and that is not among the children of a loop of the template that binds the
name. -/
def ReadsFromOutside (rules : CaptureRules) (node : Node) (name : String) : Prop :=
  name ∉ declaredIn [node] ∧ isUnbound rules name node = true

instance (rules : CaptureRules) (node : Node) (name : String) :
    Decidable (ReadsFromOutside rules node name) := by
  unfold ReadsFromOutside
  infer_instance

/-! ## Names that stay hidden -/

/-- The names that a node binds and that an analysis still hides behind it: variables of a loop
head, the parameter of a `catch`, variables of the cases of a `switch` or of a static block, and
the name of a class expression. -/
def lingeringNames : Node → List String
  | .mk _ .forLoop parts | .mk _ .forIn parts | .mk _ (.forOf _) parts
  | .mk _ .catchClause parts => allBlockScoped parts
  | .mk _ .staticBlock parts => declaredIn parts
  | .mk _ .switchStatement (_ :: cases) => allBlockScoped cases
  | .mk _ (.classDefinition true) (_ :: inside) => allBlockScoped inside
  | _ => []

/-- Whether a name stays hidden behind some node inside another. -/
def Lingers (node : Node) (name : String) : Prop :=
  ∃ inner ∈ node.nodes, name ∈ lingeringNames inner

instance (node : Node) (name : String) : Decidable (Lingers node name) := by
  unfold Lingers
  infer_instance

theorem not_lingers_of_part {node part : Node} {name : String} (settled : ¬ Lingers node name)
    (member : part ∈ node.parts) : ¬ Lingers part name := by
  rintro ⟨inner, inside, lingers⟩
  exact settled ⟨inner, Node.mem_nodes_of_part member inside, lingers⟩

/-- Whether an analysis hides no more names behind a node of some form than before it, or looks at
none of its parts. -/
def restores : Form → Bool
  | .function _ | .arrow _ | .block | .reference _ | .binding _ => true
  | _ => false

/-- What the parts of a node declare for the block around them, the node declares for the block or
the function around it, or the name lingers. -/
theorem mem_of_allBlockScoped {node : Node} {name : String} (keeps : restores node.form = false)
    (member : name ∈ allBlockScoped node.parts) :
    name ∈ blockScoped node ∨ name ∈ functionScoped node ∨ name ∈ lingeringNames node := by
  fun_cases blockScoped node
  case case15 => exact .inl member
  case case2 => exact .inr (.inl (List.mem_append_left _ member))
  case case13 | case14 =>
    rw [Node.parts_mk, allBlockScoped, List.mem_append] at member
    exact member.imp_right .inr
  case case8 => exact .inr (.inr (List.mem_append_left _ member))
  case case9 | case10 | case11 | case12 => exact .inr (.inr member)
  all_goals cases keeps

/-- What `var` declares in the parts of a node, it declares in the node, or the name lingers. -/
theorem mem_of_allFunctionScoped {node : Node} {name : String} (keeps : restores node.form = false)
    (member : name ∈ allFunctionScoped node.parts) :
    name ∈ functionScoped node ∨ name ∈ lingeringNames node := by
  fun_cases functionScoped node
  case case1 => exact .inl (List.mem_append_right _ member)
  case case4 => exact .inr (List.mem_append_right _ member)
  case case6 => exact .inl member
  all_goals cases keeps

/-- A node that declares a name neither for what is around it nor for a scope behind which it stays
hidden. -/
structure Clear (name : String) (node : Node) : Prop where
  block : name ∉ blockScoped node
  function : name ∉ functionScoped node
  settled : ¬ Lingers node name

namespace Clear

variable {name : String} {node : Node}

theorem of_declaredIn {nodes : List Node} (declared : name ∉ declaredIn nodes)
    (settled : ∀ node ∈ nodes, ¬ Lingers node name) : ∀ node ∈ nodes, Clear name node := by
  intro node member
  simp only [declaredIn, List.mem_append, mem_allBlockScoped, mem_allFunctionScoped, not_or,
    not_exists, not_and] at declared
  exact ⟨declared.1 node member, declared.2 node member, settled node member⟩

theorem part (clear : Clear name node) (keeps : restores node.form = false) {part : Node}
    (member : part ∈ node.parts) : Clear name part where
  block declared := by
    rcases mem_of_allBlockScoped keeps (mem_allBlockScoped.2 ⟨part, member, declared⟩) with
      block | function | lingers
    · exact clear.block block
    · exact clear.function function
    · exact clear.settled ⟨node, node.mem_nodes_self, lingers⟩
  function declared := by
    rcases mem_of_allFunctionScoped keeps (mem_allFunctionScoped.2 ⟨part, member, declared⟩) with
      function | lingers
    · exact clear.function function
    · exact clear.settled ⟨node, node.mem_nodes_self, lingers⟩
  settled := not_lingers_of_part clear.settled member

theorem lead {lead rest : List Node} (clear : Clear name node) (split : node.parts = lead ++ rest)
    (free : name ∉ declaredIn lead) : ∀ part ∈ lead, Clear name part := by
  refine of_declaredIn free fun part member => not_lingers_of_part clear.settled ?_
  rw [split]
  exact List.mem_append_left _ member

end Clear

/-! ## Analysis -/

section Analysis

variable {rules : CaptureRules} {name : String}

theorem restores_eq_false {form : Form} (notReference : ∀ name, form = .reference name → False)
    (notBinding : ∀ name, form = .binding name → False)
    (notFunction : ∀ head, form = .function head → False)
    (notArrow : ∀ head, form = .arrow head → False) (notBlock : form = .block → False) :
    restores form = false := by
  unfold restores
  split
  case h_1 head => exact (notFunction head rfl).elim
  case h_2 head => exact (notArrow head rfl).elim
  case h_3 => exact (notBlock rfl).elim
  case h_4 name => exact (notReference name rfl).elim
  case h_5 name => exact (notBinding name rfl).elim
  case h_6 => rfl

theorem found_enterElement (rules : CaptureRules) (opening : Node) (state : CaptureState) :
    (enterElement rules opening state).found = state.found := by
  unfold enterElement
  split <;> rfl

/-- Under `scoped` the children of an element do not see the names that it binds. -/
theorem mem_hidden_enterElement (isScoped : rules.policy = .scoped) {opening : Node}
    {state : CaptureState} : name ∈ (enterElement rules opening state).hidden ↔
      name ∈ templateScope rules opening ∨ name ∈ state.hidden := by
  unfold enterElement templateScope
  rw [isScoped]
  cases loopNames? rules opening with
  | none => simp
  | some names => simp [or_assoc, or_left_comm]

/-- An analysis forgets nothing that it has found. -/
theorem found_analyze (rules : CaptureRules) (name : String) :
    (∀ node state, name ∈ state.found → name ∈ (analyze rules node state).found) ∧
      ∀ nodes state, name ∈ state.found → name ∈ (analyzeAll rules nodes state).found := by
  apply analyze.mutual_induct rules
  case case1 =>
    intro start read parts state found
    rw [analyze, CaptureState.read]
    split
    case isTrue => exact mem_insertName.2 (.inl found)
    case isFalse => exact found
  case case2 =>
    intro start declared parts state found
    rw [analyze, CaptureState.declare]
    split
    case h_1 =>
      unfold CaptureState.read
      split
      case isTrue => exact mem_insertName.2 (.inl found)
      case isFalse => exact found
    case h_2 => exact found
  case case3 =>
    intro start opening children state before openingIh childrenIh found
    rw [analyze]
    apply childrenIh
    rw [found_enterElement]
    exact openingIh found
  case case4 =>
    intro start pattern value state valueIh patternIh found
    rw [analyze]
    exact patternIh (valueIh found)
  case case5 | case6 =>
    intro start head parts state partsIh found
    rw [analyze]
    exact partsIh found
  case case7 =>
    intro start parts state partsIh found
    rw [analyze]
    exact partsIh found
  case case8 =>
    intro start form parts state
    intros
    rename_i partsIh found
    rw [analyze]
    · exact partsIh found
    all_goals assumption
  case case9 =>
    intro state found
    exact found
  case case10 =>
    intro node nodes state nodeIh nodesIh found
    rw [analyzeAll]
    exact nodesIh (nodeIh found)

/-- An analysis under `scoped` hides no more names behind clear nodes than before them. -/
theorem hidden_analyze (isScoped : rules.policy = .scoped) (name : String) :
    (∀ node state, Clear name node → name ∉ state.hidden →
      name ∉ (analyze rules node state).hidden) ∧
      ∀ nodes state, (∀ node ∈ nodes, Clear name node) → name ∉ state.hidden →
        name ∉ (analyzeAll rules nodes state).hidden := by
  apply analyze.mutual_induct rules
  case case1 =>
    intro start read parts state _ visible
    rw [analyze, CaptureState.read]
    split <;> exact visible
  case case2 =>
    intro start declared parts state clear visible
    have other : name ≠ declared := by simpa [blockScoped] using clear.block
    simp [analyze, CaptureState.declare, isScoped, other, visible]
  case case3 =>
    intro start opening children state before openingIh _ clear visible
    rw [analyze]
    exact openingIh (clear.part rfl List.mem_cons_self) visible
  case case4 =>
    intro start pattern value state valueIh patternIh clear visible
    rw [analyze]
    exact patternIh (clear.part rfl (by simp)) (valueIh (clear.part rfl (by simp)) visible)
  case case5 | case6 =>
    intro start head parts state _ _ visible
    rw [analyze]
    exact visible
  case case7 =>
    intro start parts state _ _ visible
    rw [analyze]
    exact visible
  case case8 =>
    intro start form parts state notReference notBinding notElement notDeclarator notFunction
      notArrow notBlock partsIh clear visible
    rw [analyze]
    · refine partsIh (fun part member => clear.part ?_ member) visible
      exact restores_eq_false notReference notBinding notFunction notArrow notBlock
    all_goals assumption
  case case9 =>
    intro state _ visible
    exact visible
  case case10 =>
    intro node nodes state nodeIh nodesIh clear visible
    rw [analyzeAll]
    exact nodesIh (fun other member => clear other (List.mem_cons_of_mem _ member))
      (nodeIh (clear node List.mem_cons_self) visible)

/-- What a node reads from outside, one of its parts reads from outside. -/
theorem anyUnbound_parts {node : Node} (notReference : ∀ read, node.form = .reference read → False)
    (unbound : isUnbound rules name node = true) : anyUnbound rules name node.parts = true := by
  revert unbound
  fun_cases isUnbound rules name node
  case case1 read _ => exact (notReference read rfl).elim
  all_goals
    intro unbound
    simp only [Node.parts_mk, anyUnbound]
    grind

/-- Of the parts of a function or block that reads a name from outside, the first ones read it and
do not declare it: all of them, or those before the body. -/
theorem lead_of_isUnbound {node : Node} (restored : restores node.form = true)
    (notReference : ∀ read, node.form = .reference read → False)
    (unbound : isUnbound rules name node = true) (clear : Clear name node) :
    ∃ lead rest, node.parts = lead ++ rest ∧ anyUnbound rules name lead = true ∧
      name ∉ declaredIn lead := by
  have partsRead := anyUnbound_parts notReference unbound
  revert unbound
  fun_cases isUnbound rules name node
  case case1 read _ => exact (notReference read rfl).elim
  case case2 =>
    intro unbound
    cases unbound
  case case4 head own parameters body =>
    intro unbound
    simp only [Bool.and_eq_true, Bool.or_eq_true, decide_eq_true_eq] at unbound
    obtain ⟨leadFree, leadReads | ⟨bodyFree, -⟩⟩ := unbound
    · exact ⟨[own, parameters], body, rfl, by simpa [anyUnbound] using leadReads, leadFree⟩
    · refine ⟨_, [], (List.append_nil _).symm, partsRead, ?_⟩
      exact not_mem_declaredIn_append leadFree bodyFree
  case case5 head parameters body =>
    intro unbound
    simp only [Bool.and_eq_true, Bool.or_eq_true, decide_eq_true_eq] at unbound
    obtain ⟨leadFree, leadReads | ⟨bodyFree, -⟩⟩ := unbound
    · exact ⟨[parameters], body, rfl, by simpa [anyUnbound] using leadReads, leadFree⟩
    · refine ⟨_, [], (List.append_nil _).symm, partsRead, ?_⟩
      exact not_mem_declaredIn_append leadFree bodyFree
  case case8 start form parts _ notBinding _ notFunction notArrow _ _ =>
    intro unbound
    refine ⟨parts, [], (List.append_nil _).symm, partsRead, ?_⟩
    simp only [Bool.and_eq_true, decide_eq_true_eq] at unbound
    obtain ⟨free, -⟩ := unbound
    cases form with
    | function | arrow => exact free
    | block =>
        have free : name ∉ allBlockScoped parts := free
        simpa [declaredIn, free, functionScoped] using clear.function
    | reference read => exact (notReference read rfl).elim
    | binding declared => exact (notBinding declared rfl).elim
    | _ => cases restored
  all_goals cases restored

/-- An analysis under `scoped` finds what the first of some nodes read from outside, if all of these
are clear. -/
theorem found_of_isUnbound (isScoped : rules.policy = .scoped) (bound : name ∈ rules.bound) :
    (∀ node state, isUnbound rules name node = true → Clear name node → name ∉ state.hidden →
      name ∈ (analyze rules node state).found) ∧
    ∀ nodes state, ∀ lead rest, nodes = lead ++ rest → anyUnbound rules name lead = true →
      (∀ node ∈ lead, Clear name node) → name ∉ state.hidden →
        name ∈ (analyzeAll rules nodes state).found := by
  apply analyze.mutual_induct rules
  case case1 =>
    intro start read parts state unbound _ visible
    obtain rfl : read = name := by simpa [isUnbound] using unbound
    simp [analyze, CaptureState.read, bound, visible, mem_insertName]
  case case2 =>
    intro start declared parts state unbound
    cases unbound
  case case3 =>
    intro start opening children state before openingIh childrenIh unbound clear visible
    have openingClear := clear.part rfl List.mem_cons_self
    rw [analyze]
    simp only [isUnbound, Bool.or_eq_true, Bool.and_eq_true, decide_eq_true_eq] at unbound
    rcases unbound with openingReads | ⟨notLoop, childrenRead⟩
    · apply (found_analyze rules name).2
      rw [found_enterElement]
      exact openingIh openingReads openingClear visible
    · refine childrenIh children [] (List.append_nil _).symm childrenRead
        (fun child member => clear.part rfl (List.mem_cons_of_mem _ member)) ?_
      rw [mem_hidden_enterElement isScoped, not_or]
      exact ⟨notLoop, (hidden_analyze isScoped name).1 opening state openingClear visible⟩
  case case4 =>
    intro start pattern value state valueIh patternIh unbound clear visible
    have valueClear : Clear name value := clear.part rfl (by simp)
    rw [analyze]
    have either : isUnbound rules name pattern = true ∨ isUnbound rules name value = true := by
      simpa [anyUnbound] using anyUnbound_parts (by simp) unbound
    rcases either with patternReads | valueReads
    · exact patternIh patternReads (clear.part rfl (by simp))
        ((hidden_analyze isScoped name).1 value state valueClear visible)
    · exact (found_analyze rules name).1 pattern _ (valueIh valueReads valueClear visible)
  case case5 | case6 =>
    intro start head parts state partsIh unbound clear visible
    obtain ⟨lead, rest, split, reads, free⟩ := lead_of_isUnbound rfl (by simp) unbound clear
    rw [analyze]
    exact partsIh lead rest split reads (clear.lead split free) visible
  case case7 =>
    intro start parts state partsIh unbound clear visible
    obtain ⟨lead, rest, split, reads, free⟩ := lead_of_isUnbound rfl (by simp) unbound clear
    rw [analyze]
    exact partsIh lead rest split reads (clear.lead split free) visible
  case case8 =>
    intro start form parts state notReference notBinding notElement notDeclarator notFunction
      notArrow notBlock partsIh unbound clear visible
    rw [analyze]
    · refine partsIh parts [] (List.append_nil _).symm
        (anyUnbound_parts (by simpa using notReference) unbound)
        (fun part member => clear.part ?_ member) visible
      exact restores_eq_false notReference notBinding notFunction notArrow notBlock
    all_goals assumption
  case case9 =>
    intro state lead rest split unbound
    obtain ⟨rfl, -⟩ := List.append_eq_nil_iff.1 split.symm
    cases unbound
  case case10 =>
    intro node nodes state nodeIh nodesIh lead rest split unbound clear visible
    cases lead with
    | nil => cases unbound
    | cons first lead =>
        obtain ⟨rfl, rfl⟩ := List.cons.inj split
        have nodeClear := clear node List.mem_cons_self
        rw [analyzeAll]
        simp only [anyUnbound, Bool.or_eq_true] at unbound
        rcases unbound with nodeReads | leadReads
        · exact (found_analyze rules name).2 _ _ (nodeIh nodeReads nodeClear visible)
        · exact nodesIh lead rest rfl leadReads
            (fun other member => clear other (List.mem_cons_of_mem _ member))
            ((hidden_analyze isScoped name).1 node state nodeClear visible)

end Analysis

/-! ## What is found and what is missed -/

/-- Under `scoped` every bound name is found that a node reads from outside, unless the name stays
hidden behind a scope in the node that binds it and that the analysis does not end. -/
theorem readsFromOutside_captured {rules : CaptureRules} {node : Node} {name : String}
    (isScoped : rules.policy = .scoped) (bound : name ∈ rules.bound)
    (reads : ReadsFromOutside rules node name) (settled : ¬ Lingers node name) :
    name ∈ captures rules node := by
  obtain ⟨undeclared, unbound⟩ := reads
  have clear : Clear name node :=
    Clear.of_declaredIn undeclared (by simpa using settled) node List.mem_cons_self
  exact (found_of_isUnbound isScoped bound).1 node .empty unbound clear List.not_mem_nil

/-- A statement that reads a name. -/
def readingOf (name : String) : Node := .mk 0 .expressionStatement [.mk 0 (.reference name) []]

/-- A variable with a value: `const name = values`. -/
def constantOf (name : String) : Node :=
  .mk 0 (.variableList .constant) [
    .mk 0 .declarator [.mk 0 (.binding name) [], .mk 0 (.reference "values") []]]

/-- A function without parameters: `() => { … }`. -/
def procedure (statements : List Node) : Node :=
  .mk 0 (.arrow ⟨false, false, false⟩) [.mk 0 .parameters [], .mk 0 (.body 0) statements]

/-- A loop of the template whose collection is computed behind declarations of its item:
`<block a:for={() => { { const item = values; } (item => item); item; }} a:for-item="item"
a:for-index="index">{index}</block>`. -/
def shadowedItem : Node :=
  .mk 0 .element [
    .mk 0 (.opening (.plain "block") false) [
      .mk 0 (.attribute (.namespaced "a" "for")) [.mk 0 .container [procedure [
        .mk 0 .block [constantOf "item", readingOf "item"],
        .mk 0 .expressionStatement [.mk 0 (.arrow ⟨false, false, false⟩) [
          .mk 0 .parameters [.mk 0 .parameter [.mk 0 (.binding "item") []]],
          .mk 0 (.reference "item") []]],
        readingOf "item"]]],
      .mk 0 (.attribute (.namespaced "a" "for-item")) [.mk 0 (.quoted "item") []],
      .mk 0 (.attribute (.namespaced "a" "for-index")) [.mk 0 (.quoted "index") []]],
    .mk 0 .container [.mk 0 (.reference "index") []]]

/-- The item is found, which is hidden in the block and in the inner function, and read behind
them. -/
theorem readsFromOutside_captured_shadowedItem :
    ReadsFromOutside ⟨["item", "index"], .scoped, some ("a:for-item", "a:for-index")⟩ shadowedItem
        "item" ∧
      ¬ Lingers shadowedItem "item" ∧
      "item" ∈ captures ⟨["item", "index"], .scoped, some ("a:for-item", "a:for-index")⟩
        shadowedItem := by
  have reads : ReadsFromOutside ⟨["item", "index"], .scoped, some ("a:for-item", "a:for-index")⟩
      shadowedItem "item" := by decide +kernel
  have settled : ¬ Lingers shadowedItem "item" := by decide +kernel
  exact ⟨reads, settled, readsFromOutside_captured rfl (by simp) reads settled⟩

/-- Functions that read `item` behind a scope that binds it: `for (const item of values) item;`,
`try { } catch (item) { }`, `switch (values) { default: const item = values; }`,
`class { static { const item = values; } }` and `(class item { })`. -/
def behindScopes : List Node :=
  [ .mk 0 (.forOf false) [
      .mk 0 (.variableList .constant) [.mk 0 .declarator [.mk 0 (.binding "item") []]],
      .mk 0 (.reference "values") [], readingOf "item"],
    .mk 0 .tryStatement [.mk 0 .block [],
      .mk 0 .catchClause [.mk 0 (.binding "item") [], .mk 0 .block []]],
    .mk 0 .switchStatement [.mk 0 (.reference "values") [],
      .mk 0 .switchCase [Node.none, constantOf "item"]],
    .mk 0 .expressionStatement [.mk 0 (.classDefinition true) [
      .mk 0 .decorators [], Node.none, Node.none, .mk 0 .staticBlock [constantOf "item"]]],
    .mk 0 .expressionStatement [.mk 0 .parenthesized [.mk 0 (.classDefinition true) [
      .mk 0 .decorators [], .mk 0 (.binding "item") [], Node.none]]]].map
    fun scope => procedure [scope, readingOf "item"]

/-- Behind the head of a loop, a `catch`, a `switch`, a static block or a named class expression
that binds a name, a reading of the name from outside is missed. -/
theorem readsFromOutside_missed :
    behindScopes.length = 5 ∧ ∀ node ∈ behindScopes,
      ReadsFromOutside ⟨["item"], .scoped, some ("a:for-item", "a:for-index")⟩ node "item" ∧
        captures ⟨["item"], .scoped, some ("a:for-item", "a:for-index")⟩ node = [] := by
  decide +kernel

end LoopTemplate.Loop
