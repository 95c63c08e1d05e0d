import LoopTemplate.Proofs.Names
import LoopTemplate.Proofs.Shadowing

/-!
# Free names

Under `scoped` an analysis finds just the bound names that are free in a node, where names are
declared in the ordinary ways (`isOrdinary`): as parameters, as names of function expressions, by
`let` and `const` directly in a body or block, and by the loops of the template. It is assumed
that no name is read in a scope before it is declared there (`declaresFirst`), since the analysis
hides a name from its declaration on, and the language hides it in the whole scope.
-/

namespace LoopTemplate.Loop

open LoopTemplate.Tree (Form Node)

/-! ## What is free in a node -/

/-- The names that are not bound by a scope. -/
def outside (scope names : List String) : List String := names.filter (· ∉ scope)

mutual

/-- The names that a node reads outside the scopes of all declarations of them in the node, in the
order in which they are read. The value of a variable is read before its pattern. -/
def freeNames (rules : CaptureRules) : Node → List String
  | .mk _ (.reference name) _ => [name]
  | .mk _ (.binding _) _ => []
  | .mk _ .element (opening :: children) =>
      freeNames rules opening ++
        outside (templateScope rules opening) (allFreeNames rules children)
  | .mk _ (.function _) (own :: parameters :: body) =>
      outside (declaredIn [own, parameters])
        (freeNames rules own ++ freeNames rules parameters ++
          outside (declaredIn body) (allFreeNames rules body))
  | .mk _ (.arrow _) (parameters :: body) =>
      outside (declaredIn [parameters])
        (freeNames rules parameters ++ outside (declaredIn body) (allFreeNames rules body))
  | .mk _ .declarator [pattern, value] => freeNames rules value ++ freeNames rules pattern
  | .mk _ .switchStatement (value :: cases) =>
      freeNames rules value ++ outside (allBlockScoped cases) (allFreeNames rules cases)
  | .mk _ (.classDefinition _) (decorators :: inside) =>
      freeNames rules decorators ++ outside (allBlockScoped inside) (allFreeNames rules inside)
  | .mk _ form parts => outside (ownScope form parts) (allFreeNames rules parts)

/-- The names that are free in nodes one after the other. -/
def allFreeNames (rules : CaptureRules) : List Node → List String
  | [] => []
  | node :: nodes => freeNames rules node ++ allFreeNames rules nodes

end

theorem mem_outside {scope names : List String} {name : String} :
    name ∈ outside scope names ↔ name ∈ names ∧ name ∉ scope := by
  simp [outside]

/-- A name is free in a node if the node reads it outside the scopes of all declarations of it. -/
theorem mem_freeNames (rules : CaptureRules) (name : String) :
    (∀ node, name ∈ freeNames rules node ↔ isUnbound rules name node = true) ∧
      ∀ nodes, name ∈ allFreeNames rules nodes ↔ anyUnbound rules name nodes = true := by
  apply freeNames.mutual_induct
  case case1 =>
    intro start read parts
    simpa [freeNames, isUnbound] using eq_comm
  case case2 =>
    intro start declared parts
    simp [freeNames, isUnbound]
  case case3 =>
    intro start opening children openingIh childrenIh
    simp [freeNames, isUnbound, mem_outside, openingIh, childrenIh, and_comm]
  case case4 =>
    intro start head own parameters body ownIh parametersIh bodyIh
    simp [freeNames, isUnbound, mem_outside, ownIh, parametersIh, bodyIh, and_comm, or_assoc]
  case case5 =>
    intro start head parameters body parametersIh bodyIh
    simp [freeNames, isUnbound, mem_outside, parametersIh, bodyIh, and_comm]
  case case6 =>
    intro start pattern value valueIh patternIh
    simp [freeNames, isUnbound, anyUnbound, ownScope, valueIh, patternIh, or_comm]
  case case7 =>
    intro start value cases valueIh casesIh
    simp [freeNames, isUnbound, mem_outside, valueIh, casesIh, and_comm]
  case case8 =>
    intro start expression decorators inside decoratorsIh insideIh
    simp [freeNames, isUnbound, mem_outside, decoratorsIh, insideIh, and_comm]
  case case9 =>
    intro start form parts notReference notBinding notElement notFunction notArrow notInitialized
      notSwitch notClass partsIh
    rw [freeNames, isUnbound]
    · simp [mem_outside, partsIh, and_comm]
    all_goals assumption
  case case10 => simp [allFreeNames, anyUnbound]
  case case11 =>
    intro node nodes nodeIh nodesIh
    simp [allFreeNames, anyUnbound, nodeIh, nodesIh]

/-! ## Names in the order of a visit -/

/-- A name is read or declared. -/
inductive Mention where
  | read (name : String)
  | declare (name : String)
deriving DecidableEq

namespace Mention

/-- The name that is read. -/
def read? : Mention → Option String
  | read name => some name
  | declare _ => none

/-- The name that is declared. -/
def declared? : Mention → Option String
  | read _ => none
  | declare name => some name

/-- The names that are read and not declared. -/
def free (mentioned : List Mention) : List String :=
  outside (mentioned.filterMap declared?) (mentioned.filterMap read?)

end Mention

/-- Whether a node has a scope of its own, behind which an analysis hides no more than before it. -/
def closesScope : Form → Bool
  | .element | .function _ | .arrow _ | .block => true
  | _ => false

mutual

/-- What a node reads from the scope around it and what it declares there, in the order of a
visit. -/
def mentions (rules : CaptureRules) : Node → List Mention
  | .mk _ (.reference name) _ => [.read name]
  | .mk _ (.binding name) _ => [.declare name]
  | .mk _ .declarator [pattern, value] => mentions rules value ++ mentions rules pattern
  | .mk start form parts =>
      if closesScope form then (freeNames rules (.mk start form parts)).map .read
      else allMentions rules parts

/-- What nodes read and declare one after the other. -/
def allMentions (rules : CaptureRules) : List Node → List Mention
  | [] => []
  | node :: nodes => mentions rules node ++ allMentions rules nodes

end

/-- Whether no name is read and declared afterwards. -/
def inOrder : List Mention → Bool
  | [] => true
  | .read name :: later => name ∉ later.filterMap Mention.declared? && inOrder later
  | .declare _ :: later => inOrder later

/-- Whether no name is read in the scope that a node opens before it is declared there. -/
def declaresFirst (rules : CaptureRules) : Node → Bool
  | .mk _ (.function _) (own :: parameters :: _) =>
      inOrder (mentions rules own ++ mentions rules parameters)
  | .mk _ (.arrow _) (parameters :: _) => inOrder (mentions rules parameters)
  | .mk _ (.body _) statements | .mk _ .block statements => inOrder (allMentions rules statements)
  | _ => true

/-! ## Ordinary declarations -/

/-- Where a node stands, as to what it may declare. -/
inductive Position where
  /-- Where nothing is declared. -/
  | value
  /-- What a parameter or variable binds. -/
  | pattern
  | parameters
  | parameter
  /-- What a function is made of. -/
  | body
  /-- Directly in a body or block. -/
  | statement
  | declarator

/-- Whether a name may be bound by itself. -/
def Position.binds : Position → Bool
  | .pattern => true
  | _ => false

/-- Where the parts of a node stand that stands at a position itself. -/
def within : Position → Form → Position
  | .pattern, .arrayPattern _ | .pattern, .objectPattern _ | .pattern, .patternProperty ..
  | .pattern, .patternDefault | .pattern, .patternRest => .pattern
  | .parameter, .parameter | .parameter, .restParameter => .pattern
  | .parameters, .parameters => .parameter
  | .body, .body _ => .statement
  | .statement, .variableList .lexical | .statement, .variableList .constant => .declarator
  | .declarator, .declarator => .pattern
  | _, .block => .statement
  | _, _ => .value

mutual

/-- Whether names are declared in a node in the ordinary ways only. A function that is not an
expression has no name. -/
def isOrdinary (position : Position) : Node → Bool
  | .mk _ (.binding _) _ => position.binds
  | .mk _ (.function head) [own, parameters, body] =>
      isOrdinary (if head.expression then .pattern else .value) own &&
        isOrdinary .parameters parameters && isOrdinary .body body
  | .mk _ (.function _) _ => false
  | .mk _ (.arrow _) [parameters, body] =>
      isOrdinary .parameters parameters && isOrdinary .body body
  | .mk _ (.arrow _) _ => false
  | .mk _ .declarator [pattern, value] =>
      isOrdinary (within position .declarator) pattern && isOrdinary .value value
  | .mk _ form parts => allOrdinary (within position form) parts

/-- Whether names are declared in nodes at a position in the ordinary ways only. -/
def allOrdinary (position : Position) : List Node → Bool
  | [] => true
  | node :: nodes => isOrdinary position node && allOrdinary position nodes

end

/-! ## Mentions -/

theorem outside_nil (names : List String) : outside [] names = names := by
  simp [outside]

namespace Mention

@[simp]
theorem filterMap_read?_map (names : List String) : (names.map read).filterMap read? = names := by
  rw [List.filterMap_map]
  exact List.filterMap_some

@[simp]
theorem filterMap_declared?_map (names : List String) :
    (names.map read).filterMap declared? = [] := by
  simp [declared?]

theorem free_map_read (names : List String) : free (names.map read) = names := by
  rw [free, filterMap_read?_map, filterMap_declared?_map, outside_nil]

theorem map_read {mentioned : List Mention} (readsOnly : mentioned.filterMap declared? = []) :
    (mentioned.filterMap read?).map read = mentioned := by
  induction mentioned with
  | nil => rfl
  | cons mention later ih =>
      cases mention with
      | read name => simpa [read?] using ih readsOnly
      | declare name => cases readsOnly

end Mention

theorem inOrder_read (names : List String) : inOrder (names.map .read) = true := by
  induction names with
  | nil => rfl
  | cons name names ih =>
      rw [List.map_cons, inOrder, Mention.filterMap_declared?_map]
      simpa using ih

theorem inOrder_append_read {mentioned : List Mention} (ordered : inOrder mentioned = true)
    (names : List String) : inOrder (mentioned ++ names.map .read) = true := by
  induction mentioned with
  | nil => exact inOrder_read names
  | cons mention later ih =>
      cases mention with
      | read name =>
          simp only [inOrder, Bool.and_eq_true, decide_eq_true_eq] at ordered
          rw [List.cons_append, inOrder, List.filterMap_append, Mention.filterMap_declared?_map,
            List.append_nil, ih ordered.2]
          simpa using ordered.1
      | declare name => exact ih ordered

namespace CaptureState

variable {rules : CaptureRules}

/-- An analysis meets a name. -/
def meet (rules : CaptureRules) (state : CaptureState) : Mention → CaptureState
  | .read name => state.read rules name
  | .declare name => state.declare rules name

theorem hidden_read (state : CaptureState) (name : String) :
    (state.read rules name).hidden = state.hidden := by
  rw [read]
  split <;> rfl

theorem hidden_meet_read (state : CaptureState) (names : List String) :
    ((names.map .read).foldl (meet rules) state).hidden = state.hidden := by
  induction names generalizing state with
  | nil => rfl
  | cons name names ih =>
      rw [List.map_cons, List.foldl_cons, ih]
      exact hidden_read state name

/-- The bound names that are not hidden. -/
def visible (rules : CaptureRules) (hidden names : List String) : List String :=
  names.filter fun name => name ∈ rules.bound ∧ name ∉ hidden

theorem found_read (isScoped : rules.policy = .scoped) (state : CaptureState) (name : String) :
    (state.read rules name).found =
      insertNames state.found (visible rules state.hidden [name]) := by
  by_cases seen : name ∈ rules.bound ∧ name ∉ state.hidden
  · simp [read, visible, isScoped, seen, insertNames]
  · have unseen : ¬ (name ∈ rules.bound ∧ ¬ (rules.policy = .scoped ∧ name ∈ state.hidden)) := by
      simpa [isScoped] using seen
    rw [read, if_neg unseen, visible, List.filter_cons_of_neg (by simpa using seen)]
    rfl

/-- What is met in order is found where it is free. -/
theorem found_meet (isScoped : rules.policy = .scoped) {mentioned : List Mention}
    (ordered : inOrder mentioned = true) (state : CaptureState) :
    (mentioned.foldl (meet rules) state).found =
      insertNames state.found (visible rules state.hidden (Mention.free mentioned)) := by
  induction mentioned generalizing state with
  | nil => rfl
  | cons mention later ih =>
      cases mention with
      | read name =>
          simp only [inOrder, Bool.and_eq_true, decide_eq_true_eq] at ordered
          have split : Mention.free (.read name :: later) = [name] ++ Mention.free later := by
            change outside (later.filterMap Mention.declared?) (name :: _) = _
            rw [outside, List.filter_cons, if_pos (decide_eq_true ordered.1)]
            rfl
          rw [List.foldl_cons, ih ordered.2, split, meet, found_read isScoped, hidden_read, visible,
            visible, visible, List.filter_append, insertNames_append]
      | declare name =>
          have declared : meet rules state (.declare name) =
              ⟨name :: state.hidden, state.found⟩ := by
            rw [meet, declare, isScoped]
          have same : visible rules (name :: state.hidden) (Mention.free later) =
              visible rules state.hidden (Mention.free (.declare name :: later)) := by
            simp only [visible, Mention.free, outside, List.filter_filter, Mention.read?,
              Mention.declared?, List.filterMap_cons]
            apply List.filter_congr
            intro other _
            by_cases own : other = name <;> simp [own]
          rw [List.foldl_cons, ih ordered, declared, same]

theorem meet_read (isScoped : rules.policy = .scoped) (state : CaptureState) (names : List String) :
    (names.map .read).foldl (meet rules) state =
      ⟨state.hidden, insertNames state.found (visible rules state.hidden names)⟩ := by
  have found := found_meet isScoped (inOrder_read names) state
  rw [Mention.free_map_read] at found
  rw [← found, ← hidden_meet_read]

/-- Behind a scope in which names are met in order, the free ones were read. -/
theorem leave_meet (isScoped : rules.policy = .scoped) {mentioned : List Mention}
    (ordered : inOrder mentioned = true) (state : CaptureState) :
    (mentioned.foldl (meet rules) state).leave state =
      ((Mention.free mentioned).map .read).foldl (meet rules) state := by
  rw [leave, found_meet isScoped ordered, meet_read isScoped]

end CaptureState

/-! ## Analysis of ordinary nodes -/

section Analysis

variable {rules : CaptureRules}

/-- An analysis of a node meets what the node mentions, and that is what it declares and what is
free in it. -/
structure Exact (rules : CaptureRules) (node : Node) : Prop where
  hoisted : functionScoped node = []
  declared : (mentions rules node).filterMap Mention.declared? = blockScoped node
  free : (mentions rules node).filterMap Mention.read? = freeNames rules node
  run : ∀ state, analyze rules node state =
    (mentions rules node).foldl (CaptureState.meet rules) state

/-- The same for nodes one after the other. -/
structure AllExact (rules : CaptureRules) (nodes : List Node) : Prop where
  hoisted : allFunctionScoped nodes = []
  declared : (allMentions rules nodes).filterMap Mention.declared? = allBlockScoped nodes
  free : (allMentions rules nodes).filterMap Mention.read? = allFreeNames rules nodes
  run : ∀ state, analyzeAll rules nodes state =
    (allMentions rules nodes).foldl (CaptureState.meet rules) state

theorem allExact_nil : AllExact rules [] :=
  ⟨rfl, rfl, rfl, fun _ => rfl⟩

theorem AllExact.cons {node : Node} {nodes : List Node} (exact : Exact rules node)
    (others : AllExact rules nodes) : AllExact rules (node :: nodes) := by
  constructor
  case hoisted => rw [allFunctionScoped, exact.hoisted, others.hoisted, List.nil_append]
  case declared =>
    rw [allMentions, List.filterMap_append, exact.declared, others.declared, allBlockScoped]
  case free => rw [allMentions, List.filterMap_append, exact.free, others.free, allFreeNames]
  case run =>
    intro state
    rw [analyzeAll, exact.run, others.run, allMentions, List.foldl_append]

theorem AllExact.of_forall {nodes : List Node} (each : ∀ node ∈ nodes, Exact rules node) :
    AllExact rules nodes := by
  induction nodes with
  | nil => exact allExact_nil
  | cons node nodes ih =>
      apply AllExact.cons (each node List.mem_cons_self)
      apply ih
      intro other member
      exact each other (List.mem_cons_of_mem _ member)

/-- The names that a function declares are those that its parts mention as declared. -/
theorem AllExact.declaredIn {nodes : List Node} (exact : AllExact rules nodes) :
    declaredIn nodes = (allMentions rules nodes).filterMap Mention.declared? := by
  rw [Loop.declaredIn, exact.hoisted, List.append_nil, exact.declared]

/-- A node whose parts may declare something hands out what they declare. -/
theorem Exact.of_parts {position : Position} {start : Nat} {form : Form} {parts : List Node}
    (declares : within position form ≠ .value) (notBlock : form ≠ .block)
    (notInitialized : ∀ pattern value, form = .declarator → parts = [pattern, value] → False)
    (exact : AllExact rules parts) : Exact rules (.mk start form parts) := by
  have same : functionScoped (.mk start form parts) = allFunctionScoped parts ∧
      blockScoped (.mk start form parts) = allBlockScoped parts ∧
      mentions rules (.mk start form parts) = allMentions rules parts ∧
      freeNames rules (.mk start form parts) = allFreeNames rules parts ∧
      ∀ state, analyze rules (.mk start form parts) state = analyzeAll rules parts state := by
    revert declares notBlock notInitialized
    fun_cases within position form
    case case13 =>
      intro _ notBlock
      exact absurd rfl notBlock
    case case14 =>
      intro declares
      exact absurd rfl declares
    all_goals
      intro _ _ notInitialized
      simp_all [functionScoped, blockScoped, mentions, closesScope, freeNames, ownScope,
        outside_nil, analyze]
  obtain ⟨hoisted, declared, mentioned, free, run⟩ := same
  constructor
  case hoisted => rw [hoisted, exact.hoisted]
  case declared => rw [mentioned, declared, exact.declared]
  case free => rw [mentioned, free, exact.free]
  case run =>
    intro state
    rw [run, mentioned, exact.run]

/-- A node that declares nothing mentions what is free in it. -/
theorem Exact.mentions_eq {node : Node} (exact : Exact rules node)
    (nothing : blockScoped node = []) :
    mentions rules node = (freeNames rules node).map .read := by
  rw [← exact.free, Mention.map_read]
  rw [exact.declared, nothing]

theorem exact_binding {start : Nat} {name : String}
    {parts : List Node} : Exact rules (.mk start (.binding name) parts) := by
  constructor
  case hoisted => rw [functionScoped]
  case declared =>
    rw [mentions, blockScoped]
    rfl
  case free =>
    rw [mentions, freeNames]
    rfl
  case run =>
    intro state
    rw [analyze, mentions]
    rfl

theorem exact_initialized {start : Nat} {pattern value : Node} (patternExact : Exact rules pattern)
    (valueExact : Exact rules value) (nothing : blockScoped value = []) :
    Exact rules (.mk start .declarator [pattern, value]) := by
  have mentioned : mentions rules (.mk start .declarator [pattern, value]) =
      mentions rules value ++ mentions rules pattern := by rw [mentions]
  constructor
  case hoisted =>
    simp [functionScoped, allFunctionScoped, patternExact.hoisted, valueExact.hoisted]
  case declared =>
    rw [mentioned, List.filterMap_append, valueExact.declared, patternExact.declared]
    simp [blockScoped, allBlockScoped, nothing]
  case free =>
    rw [mentioned, List.filterMap_append, valueExact.free, patternExact.free, freeNames]
  case run =>
    intro state
    rw [analyze, valueExact.run, patternExact.run, mentioned, List.foldl_append]

/-- Behind a function, what is free in it was read. What its body declares, its parameters do not
see. -/
theorem leave_analyzeAll (isScoped : rules.policy = .scoped) {lead body : List Node}
    (leadExact : AllExact rules lead) (bodyExact : AllExact rules body)
    (leadOrder : inOrder (allMentions rules lead) = true)
    (bodyOrder : inOrder (allMentions rules body) = true) (state : CaptureState) :
    (analyzeAll rules body (analyzeAll rules lead state)).leave state =
      ((outside (declaredIn lead)
        (allFreeNames rules lead ++ outside (declaredIn body) (allFreeNames rules body))).map
          .read).foldl (CaptureState.meet rules) state := by
  have bodyFree : Mention.free (allMentions rules body) =
      outside (declaredIn body) (allFreeNames rules body) := by
    rw [Mention.free, bodyExact.declaredIn, bodyExact.free]
  have free : Mention.free (allMentions rules lead ++
        (Mention.free (allMentions rules body)).map .read) =
      outside (declaredIn lead)
        (allFreeNames rules lead ++ outside (declaredIn body) (allFreeNames rules body)) := by
    rw [Mention.free, List.filterMap_append, List.filterMap_append, Mention.filterMap_read?_map,
      Mention.filterMap_declared?_map, List.append_nil, leadExact.free, bodyFree,
      leadExact.declaredIn]
  have behind := CaptureState.leave_meet isScoped bodyOrder (analyzeAll rules lead state)
  have found := congrArg (·.leave state) behind
  rw [bodyExact.run]
  refine Eq.trans found ?_
  rw [leadExact.run, ← List.foldl_append, ← free]
  exact CaptureState.leave_meet isScoped (inOrder_append_read leadOrder _) state

/-- A node that declares nothing is analysed by reading what is free in it. -/
theorem Exact.of_free {node : Node} (hoisted : functionScoped node = [])
    (nothing : blockScoped node = [])
    (mentioned : mentions rules node = (freeNames rules node).map .read)
    (run : ∀ state, analyze rules node state =
      ((freeNames rules node).map .read).foldl (CaptureState.meet rules) state) :
    Exact rules node := by
  constructor
  case hoisted => exact hoisted
  case declared => rw [mentioned, nothing, Mention.filterMap_declared?_map]
  case free => rw [mentioned, Mention.filterMap_read?_map]
  case run =>
    intro state
    rw [mentioned, run]

section Plain

variable {node : Node}

/-- Whether a node declares nothing by itself and has no scope for declarations. -/
def isPlain : Form → Bool
  | .binding _ | .function _ | .arrow _ | .block => false
  | _ => true

theorem allBlockScoped_eq_nil {nodes : List Node}
    (nothing : ∀ node ∈ nodes, blockScoped node = []) :
    allBlockScoped nodes = [] := by
  apply List.eq_nil_iff_forall_not_mem.2
  intro name declared
  obtain ⟨node, member, declared⟩ := mem_allBlockScoped.1 declared
  rw [nothing node member] at declared
  cases declared

theorem functionScoped_eq_nil (nothing : allBlockScoped node.parts = [])
    (hoisted : allFunctionScoped node.parts = []) : functionScoped node = [] := by
  fun_cases functionScoped node <;> simp_all [Node.parts]

theorem blockScoped_eq_nil (formPlain : isPlain node.form = true)
    (nothing : allBlockScoped node.parts = []) : blockScoped node = [] := by
  fun_cases blockScoped node <;> simp_all [isPlain, allBlockScoped, Node.parts, Node.form]

theorem ownScope_eq_nil {form : Form} {parts : List Node} (nothing : allBlockScoped parts = [])
    (hoisted : allFunctionScoped parts = []) : ownScope form parts = [] := by
  fun_cases ownScope form parts <;> simp_all [declaredIn]

/-- What is free in a node without declarations is free in its parts. -/
theorem freeNames_eq (formPlain : isPlain node.form = true)
    (nothing : allBlockScoped node.parts = []) (hoisted : allFunctionScoped node.parts = [])
    (notReference : ∀ name, node.form = .reference name → False)
    (notElement : ∀ opening children,
      node.form = .element → node.parts = opening :: children → False)
    (notDeclarator : ∀ pattern value,
      node.form = .declarator → node.parts = [pattern, value] → False) :
    freeNames rules node = allFreeNames rules node.parts := by
  fun_cases freeNames rules node <;>
    simp_all [isPlain, allBlockScoped, allFreeNames, outside_nil, ownScope_eq_nil, Node.parts,
      Node.form]

/-- Nodes without declarations mention what is free in them. -/
theorem allMentions_eq {nodes : List Node} (exact : AllExact rules nodes)
    (nothing : allBlockScoped nodes = []) :
    allMentions rules nodes = (allFreeNames rules nodes).map .read := by
  rw [← exact.free, Mention.map_read]
  rw [exact.declared, nothing]

theorem exact_element (isScoped : rules.policy = .scoped) {start : Nat} {opening : Node}
    {children : List Node} (openingExact : Exact rules opening)
    (openingNothing : blockScoped opening = []) (exact : AllExact rules children)
    (nothing : allBlockScoped children = []) :
    Exact rules (.mk start .element (opening :: children)) := by
  apply Exact.of_free
  case hoisted => simp [functionScoped, allFunctionScoped, openingExact.hoisted, exact.hoisted]
  case nothing => simp [blockScoped, allBlockScoped, openingNothing, nothing]
  case mentioned => simp [mentions, closesScope]
  case run =>
    intro state
    have within : ∀ before, CaptureState.visible rules (enterElement rules opening before).hidden
          (allFreeNames rules children) =
        CaptureState.visible rules before.hidden
          (outside (templateScope rules opening) (allFreeNames rules children)) := by
      intro before
      rw [CaptureState.visible, CaptureState.visible, outside, List.filter_filter]
      apply List.filter_congr
      intro name _
      simp [mem_hidden_enterElement isScoped, Bool.and_assoc, Bool.and_comm]
    rw [analyze, openingExact.run, openingExact.mentions_eq openingNothing, exact.run,
      allMentions_eq exact nothing, freeNames, List.map_append, List.foldl_append,
      CaptureState.meet_read isScoped (enterElement _ _ _), found_enterElement, within,
      CaptureState.meet_read isScoped (List.foldl _ _ _)]
    rfl

theorem exact_plain (isScoped : rules.policy = .scoped) (formPlain : isPlain node.form = true)
    (each : ∀ part ∈ node.parts, Exact rules part ∧ blockScoped part = []) : Exact rules node := by
  have exact : AllExact rules node.parts :=
    AllExact.of_forall fun part member => (each part member).1
  have nothing : allBlockScoped node.parts = [] :=
    allBlockScoped_eq_nil fun part member => (each part member).2
  fun_cases analyze rules node .empty
  case case1 start name parts =>
    apply Exact.of_free
    case hoisted => simpa [functionScoped] using exact.hoisted
    case nothing => simpa [blockScoped] using nothing
    case mentioned => simp [mentions, freeNames]
    case run => simp [analyze, freeNames, CaptureState.meet]
  case case2 start name parts => cases formPlain
  case case3 start opening children state =>
    obtain ⟨openingExact, openingNothing⟩ := each opening List.mem_cons_self
    have childrenExact : AllExact rules children :=
      AllExact.of_forall fun child member => (each child (List.mem_cons_of_mem _ member)).1
    simp only [Node.parts, allBlockScoped, List.append_eq_nil_iff] at nothing
    exact exact_element isScoped openingExact openingNothing childrenExact nothing.2
  case case4 start pattern value =>
    obtain ⟨valueExact, valueNothing⟩ := each value (by simp [Node.parts])
    exact exact_initialized (each pattern (by simp [Node.parts])).1 valueExact valueNothing
  case case5 | case6 | case7 => cases formPlain
  case case8 start form parts notReference notBinding notElement notDeclarator notFunction notArrow
      notBlock =>
    simp only [Node.parts] at exact nothing
    have free : freeNames rules (.mk start form parts) = allFreeNames rules parts :=
      freeNames_eq formPlain nothing exact.hoisted notReference notElement notDeclarator
    apply Exact.of_free
    case hoisted => exact functionScoped_eq_nil nothing exact.hoisted
    case nothing => exact blockScoped_eq_nil formPlain nothing
    case mentioned =>
      rw [mentions]
      · split
        case isTrue => rfl
        case isFalse => rw [free, allMentions_eq exact nothing]
      all_goals assumption
    case run =>
      intro state
      rw [analyze, free, exact.run, allMentions_eq exact nothing]
      all_goals assumption

end Plain

theorem exact_function (isScoped : rules.policy = .scoped) {start : Nat} {head : Tree.FunctionHead}
    {own parameters body : Node} (ownExact : Exact rules own)
    (parametersExact : Exact rules parameters) (bodyExact : Exact rules body)
    (ordered : inOrder (mentions rules own ++ mentions rules parameters) = true)
    (bodyOrdered : inOrder (mentions rules body) = true)
    (nothing : blockScoped (.mk start (.function head) [own, parameters, body]) = []) :
    Exact rules (.mk start (.function head) [own, parameters, body]) := by
  have behind := leave_analyzeAll isScoped (allExact_nil.cons parametersExact |>.cons ownExact)
    (allExact_nil.cons bodyExact) (by simpa [allMentions] using ordered)
    (by simpa [allMentions] using bodyOrdered)
  apply Exact.of_free
  case hoisted => rw [functionScoped]
  case nothing => exact nothing
  case mentioned => simp [mentions, closesScope]
  case run =>
    intro state
    simpa [analyze, freeNames, analyzeAll, allFreeNames] using behind state

theorem exact_arrow (isScoped : rules.policy = .scoped) {start : Nat} {head : Tree.ArrowHead}
    {parameters body : Node} (parametersExact : Exact rules parameters)
    (bodyExact : Exact rules body) (ordered : inOrder (mentions rules parameters) = true)
    (bodyOrdered : inOrder (mentions rules body) = true) :
    Exact rules (.mk start (.arrow head) [parameters, body]) := by
  have behind := leave_analyzeAll isScoped (allExact_nil.cons parametersExact)
    (allExact_nil.cons bodyExact) (by simpa [allMentions] using ordered)
    (by simpa [allMentions] using bodyOrdered)
  apply Exact.of_free
  case hoisted => rw [functionScoped]
  case nothing => rw [blockScoped]
  case mentioned => simp [mentions, closesScope]
  case run =>
    intro state
    simpa [analyze, freeNames, analyzeAll, allFreeNames] using behind state

theorem exact_block (isScoped : rules.policy = .scoped) {start : Nat} {statements : List Node}
    (exact : AllExact rules statements)
    (ordered : inOrder (allMentions rules statements) = true) :
    Exact rules (.mk start .block statements) := by
  apply Exact.of_free
  case hoisted => rw [functionScoped, exact.hoisted] <;> simp
  case nothing => rw [blockScoped]
  case mentioned => simp [mentions, closesScope]
  case run =>
    intro state
    rw [analyze, exact.run, CaptureState.leave_meet isScoped ordered]
    simp [freeNames, ownScope, Mention.free, exact.declared, exact.free]

/-- What is known of an ordinary node where it stands. -/
structure ExactAt (rules : CaptureRules) (position : Position) (node : Node) : Prop where
  exact : Exact rules node
  nothing : position = .value → blockScoped node = []
  ordered : position = .body → inOrder (mentions rules node) = true

theorem Exact.exactAt {position : Position} {node : Node} (exact : Exact rules node)
    (notValue : position ≠ .value) (notBody : position ≠ .body) : ExactAt rules position node :=
  ⟨exact, fun isValue => absurd isValue notValue, fun isBody => absurd isBody notBody⟩

/-- A node that declares nothing can stand anywhere. -/
theorem Exact.exactAt_value {position : Position} {node : Node} (exact : Exact rules node)
    (nothing : blockScoped node = []) : ExactAt rules position node := by
  refine ⟨exact, fun _ => nothing, fun _ => ?_⟩
  rw [exact.mentions_eq nothing]
  exact inOrder_read _

theorem exactAt_initialized {position : Position} {start : Nat} {pattern value : Node}
    (patternAt : ExactAt rules (within position .declarator) pattern)
    (valueAt : ExactAt rules .value value) :
    ExactAt rules position (.mk start .declarator [pattern, value]) := by
  have exact : Exact rules (.mk start .declarator [pattern, value]) :=
    exact_initialized patternAt.exact valueAt.exact (valueAt.nothing rfl)
  by_cases declarator : position = .declarator
  · subst declarator
    exact exact.exactAt (by simp) (by simp)
  · have isValue : within position .declarator = .value := by
      cases position <;> simp_all [within]
    apply exact.exactAt_value
    simp [blockScoped, allBlockScoped, patternAt.nothing isValue, valueAt.nothing rfl]

theorem exactAt_parts (isScoped : rules.policy = .scoped) {position : Position} {start : Nat}
    {form : Form} {parts : List Node} (notBinding : ∀ name, form = .binding name → False)
    (notFunction : ∀ head, form = .function head → False)
    (notArrow : ∀ head, form = .arrow head → False)
    (notInitialized : ∀ pattern value, form = .declarator → parts = [pattern, value] → False)
    (first : declaresFirst rules (.mk start form parts) = true)
    (each : ∀ part ∈ parts, ExactAt rules (within position form) part) :
    ExactAt rules position (.mk start form parts) := by
  have exact : AllExact rules parts :=
    AllExact.of_forall fun part member => (each part member).exact
  by_cases isBlock : form = .block
  · subst isBlock
    apply Exact.exactAt_value
    · exact exact_block isScoped exact first
    · rw [blockScoped]
  by_cases isValue : within position form = .value
  · have formPlain : isPlain form = true := by
      unfold isPlain
      split <;> simp_all
    have nothing := fun part member => (each part member).nothing isValue
    apply Exact.exactAt_value
    · exact exact_plain isScoped formPlain fun part member =>
        ⟨(each part member).exact, nothing part member⟩
    · exact blockScoped_eq_nil formPlain (allBlockScoped_eq_nil nothing)
  · refine ⟨Exact.of_parts isValue isBlock notInitialized exact, ?_, ?_⟩
    · rintro rfl
      unfold within at isValue
      split at isValue <;> simp_all
    · rintro rfl
      have isBody : ∃ closing, form = .body closing := by
        unfold within at isValue
        split at isValue <;> simp_all
      obtain ⟨closing, rfl⟩ := isBody
      simpa [mentions, closesScope, declaresFirst] using first

theorem exactAt_of_isOrdinary (isScoped : rules.policy = .scoped) :
    (∀ position node, isOrdinary position node = true →
      Node.Everywhere (declaresFirst rules · = true) [node] → ExactAt rules position node) ∧
    ∀ position nodes, allOrdinary position nodes = true →
      Node.Everywhere (declaresFirst rules · = true) nodes →
      ∀ node ∈ nodes, ExactAt rules position node := by
  apply isOrdinary.mutual_induct
  case case1 =>
    intro position start name parts ordinary declared
    apply exact_binding.exactAt
    · rintro rfl
      cases ordinary
    · rintro rfl
      cases ordinary
  case case2 =>
    intro position start head own parameters body ownIh parametersIh bodyIh ordinary declared
    simp only [isOrdinary, Bool.and_eq_true] at ordinary
    obtain ⟨first, declared⟩ := Node.everywhere_mk.1 declared
    obtain ⟨ownDeclared, declared⟩ := Node.everywhere_cons.1 declared
    obtain ⟨parametersDeclared, bodyDeclared⟩ := Node.everywhere_cons.1 declared
    have ownAt := ownIh ordinary.1.1 ownDeclared
    have parametersAt := parametersIh ordinary.1.2 parametersDeclared
    have bodyAt := bodyIh ordinary.2 bodyDeclared
    have nothing : blockScoped (.mk start (.function head) [own, parameters, body]) = [] := by
      rw [blockScoped]
      split
      case isTrue => rfl
      case isFalse declaration => exact ownAt.nothing (if_neg declaration)
    apply Exact.exactAt_value _ nothing
    exact exact_function isScoped ownAt.exact parametersAt.exact bodyAt.exact first
      (bodyAt.ordered rfl) nothing
  case case4 =>
    intro position start head parameters body parametersIh bodyIh ordinary declared
    simp only [isOrdinary, Bool.and_eq_true] at ordinary
    obtain ⟨first, declared⟩ := Node.everywhere_mk.1 declared
    obtain ⟨parametersDeclared, bodyDeclared⟩ := Node.everywhere_cons.1 declared
    have parametersAt := parametersIh ordinary.1 parametersDeclared
    have bodyAt := bodyIh ordinary.2 bodyDeclared
    apply Exact.exactAt_value
    · exact exact_arrow isScoped parametersAt.exact bodyAt.exact first
        (bodyAt.ordered rfl)
    · rw [blockScoped]
  case case3 | case5 =>
    intro position start head parts others ordinary
    rw [isOrdinary] at ordinary
    · cases ordinary
    · exact others
  case case6 =>
    intro position start pattern value patternIh valueIh ordinary declared
    simp only [isOrdinary, Bool.and_eq_true] at ordinary
    obtain ⟨-, declared⟩ := Node.everywhere_mk.1 declared
    obtain ⟨patternDeclared, valueDeclared⟩ := Node.everywhere_cons.1 declared
    exact exactAt_initialized (patternIh ordinary.1 patternDeclared)
      (valueIh ordinary.2 valueDeclared)
  case case7 =>
    intro position start form parts notBinding _ notFunction _ notArrow notInitialized partsIh
      ordinary declared
    obtain ⟨first, declared⟩ := Node.everywhere_mk.1 declared
    rw [isOrdinary] at ordinary
    · exact exactAt_parts isScoped notBinding notFunction notArrow notInitialized first
        (partsIh ordinary declared)
    all_goals assumption
  case case8 =>
    intro position _ _ node member
    cases member
  case case9 =>
    intro position node nodes nodeIh nodesIh ordinary declared
    simp only [allOrdinary, Bool.and_eq_true] at ordinary
    obtain ⟨nodeDeclared, declared⟩ := Node.everywhere_cons.1 declared
    exact List.forall_mem_cons.2 ⟨nodeIh ordinary.1 nodeDeclared, nodesIh ordinary.2 declared⟩

end Analysis

/-- Under `scoped` an analysis finds just the bound names that are free in a node, in the
order in which they are first read, where names are declared in the ordinary ways and before
they are read. -/
theorem captures_eq_freeNames {rules : CaptureRules} {node : Node}
    (isScoped : rules.policy = .scoped) (ordinary : isOrdinary .value node = true)
    (declared : Node.Everywhere (declaresFirst rules · = true) [node]) :
    captures rules node = ((freeNames rules node).filter (· ∈ rules.bound)).eraseDups := by
  have exactAt := (exactAt_of_isOrdinary isScoped).1 .value node ordinary declared
  rw [captures, exactAt.exact.run, exactAt.exact.mentions_eq (exactAt.nothing rfl),
    CaptureState.meet_read isScoped, ← namesOf_eq_eraseDups]
  simp [CaptureState.visible, CaptureState.empty, namesOf]

/-- A loop of the template with a function before it that binds its names again:
`<block key={function own({a: [item]}, ...rest) { const total = index; { const index = own; index; }
item; index; rest; }} a:for-item="item" a:for-index="index">{index}{total}{item}</block>`. -/
def reboundNames : Node :=
  .mk 0 .element [
    .mk 0 (.opening (.plain "block") false) [
      .mk 0 (.attribute (.plain "key")) [.mk 0 .container [
        .mk 0 (.function ⟨true, false, false, false, false⟩) [
          .mk 0 (.binding "own") [],
          .mk 0 .parameters [
            .mk 0 .parameter [.mk 0 (.objectPattern .declaring) [
              .mk 0 (.patternProperty .declaring false false) [
                .mk 0 (.word "a") [],
                .mk 0 (.arrayPattern .declaring) [.mk 0 (.binding "item") []]]]],
            .mk 0 .restParameter [.mk 0 (.binding "rest") []]],
          .mk 0 (.body 0) [
            .mk 0 (.variableList .constant) [
              .mk 0 .declarator [.mk 0 (.binding "total") [], .mk 0 (.reference "index") []]],
            .mk 0 .block [
              .mk 0 (.variableList .constant) [
                .mk 0 .declarator [.mk 0 (.binding "index") [], .mk 0 (.reference "own") []]],
              readingOf "index"],
            readingOf "item", readingOf "index", readingOf "rest"]]]],
      .mk 0 (.attribute (.namespaced "a" "for-item")) [.mk 0 (.quoted "item") []],
      .mk 0 (.attribute (.namespaced "a" "for-index")) [.mk 0 (.quoted "index") []]],
    .mk 0 .container [.mk 0 (.reference "index") []],
    .mk 0 .container [.mk 0 (.reference "total") []],
    .mk 0 .container [.mk 0 (.reference "item") []]]

/-- The index is found, which a block hides between its readings. The item is not, since what
reads it is bound in the function or in the loop. -/
theorem captures_eq_freeNames_reboundNames :
    isOrdinary .value reboundNames = true ∧
      captures ⟨["item", "index", "total"], .scoped, some ("a:for-item", "a:for-index")⟩
        reboundNames = ["index", "total"] := by
  have ordinary : isOrdinary .value reboundNames = true := by decide +kernel
  have declared : ∀ inner ∈ Node.allNodes [reboundNames], declaresFirst
      ⟨["item", "index", "total"], .scoped, some ("a:for-item", "a:for-index")⟩ inner = true := by
    decide +kernel
  refine ⟨ordinary, (captures_eq_freeNames rfl ordinary declared).trans ?_⟩
  decide +kernel

/-- A function whose first parameter reads a name that its second parameter declares:
`({[item]: value}, item) => value`. -/
def earlyKey : Node :=
  .mk 0 (.arrow ⟨false, false, false⟩) [
    .mk 0 .parameters [
      .mk 0 .parameter [.mk 0 (.objectPattern .declaring) [
        .mk 0 (.patternProperty .declaring true false) [
          .mk 0 (.reference "item") [], .mk 0 (.binding "value") []]]],
      .mk 0 .parameter [.mk 0 (.binding "item") []]],
    .mk 0 (.reference "value") []]

/-- Variables are not the only names that can be read before they are declared. A parameter that
reads a later one is not hidden from the analysis, although nothing is free in the function. -/
theorem captures_earlyKey :
    isOrdinary .value earlyKey = true ∧
      (∀ inner ∈ earlyKey.nodes, ∀ kind, inner.form ≠ .variableList kind) ∧
      freeNames ⟨["item"], .scoped, some ("a:for-item", "a:for-index")⟩ earlyKey = [] ∧
      captures ⟨["item"], .scoped, some ("a:for-item", "a:for-index")⟩ earlyKey = ["item"] := by
  refine ⟨by decide_cbv, ?_, by decide_cbv, by decide_cbv⟩
  simp [earlyKey, Node.nodes, Node.allNodes, Node.form]

end LoopTemplate.Loop
