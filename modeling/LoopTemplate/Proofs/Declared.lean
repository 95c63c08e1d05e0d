import LoopTemplate.Proofs.RewrittenList

/-!
# Where names come from

All names that a rewrite handles are declared in the tree, or are those of an item and an index that
were left out. So what holds of these holds of every name in the loops of a rewrite.
-/

namespace LoopTemplate.Loop

open LoopTemplate.Tree (Form Node)

/-! ## Declared names -/

theorem mem_allPatternNames {nodes : List Node} {name : String} :
    name ∈ allPatternNames nodes ↔ ∃ node ∈ nodes, name ∈ patternNames node := by
  induction nodes with
  | nil => simp [allPatternNames]
  | cons node nodes ih => simp [allPatternNames, ih]

/-- A pattern binds a name by being it or in one of its parts. -/
theorem mem_patternNames {node : Node} {name : String} (member : name ∈ patternNames node) :
    node.form = .binding name ∨ ∃ part ∈ node.parts, name ∈ patternNames part := by
  fun_cases patternNames node with
  | case1 start other parts =>
      rw [patternNames, List.mem_singleton] at member
      exact .inl (by rw [member]; rfl)
  | case2 start role parts =>
      rw [patternNames] at member
      exact .inr (mem_allPatternNames.1 member)
  | case3 start role parts =>
      rw [patternNames] at member
      exact .inr (mem_allPatternNames.1 member)
  | case4 start role computed shorthand key pattern =>
      rw [patternNames] at member
      exact .inr ⟨pattern, by simp, member⟩
  | case5 start pattern rest =>
      rw [patternNames] at member
      exact .inr ⟨pattern, by simp, member⟩
  | case6 start pattern =>
      rw [patternNames] at member
      exact .inr ⟨pattern, by simp, member⟩
  | case7 =>
      rw [patternNames] at member
      · cases member
      all_goals assumption

theorem declares_of_part {node part : Node} {name : String} (member : part ∈ node.parts)
    (declares : part.Declares name) : node.Declares name := by
  obtain ⟨inner, inside, form_eq⟩ := declares
  exact ⟨inner, Node.mem_nodes_of_part member inside, form_eq⟩

theorem declares_of_patternNames {node : Node} {name : String} (member : name ∈ patternNames node) :
    node.Declares name := by
  induction node using Node.induction_on_parts with
  | step start form parts ih =>
      rcases mem_patternNames member with form_eq | ⟨part, inside, member⟩
      · exact ⟨_, Node.mem_nodes_self _, form_eq⟩
      · exact declares_of_part inside (ih part inside member)

theorem declares_of_statementNames {node : Node} {name : String}
    (member : name ∈ statementNames node) : node.Declares name := by
  fun_cases statementNames node with
  | case1 start kind declarators =>
      rw [statementNames] at member
      obtain ⟨⟨_, form, parts⟩, inside, member⟩ := List.mem_flatMap.1 member
      refine declares_of_part inside ?_
      cases parts with
      | nil => cases member
      | cons pattern rest =>
          exact declares_of_part List.mem_cons_self (declares_of_patternNames member)
  | case2 start head first rest =>
      rw [statementNames] at member
      exact declares_of_part (by simp) (declares_of_patternNames member)
  | case3 start expression decorators first rest =>
      rw [statementNames] at member
      exact declares_of_part (by simp) (declares_of_patternNames member)
  | case4 =>
      rw [statementNames] at member
      · cases member
      all_goals assumption

theorem declares_of_declaredNames {node : Node} {name : String}
    (member : name ∈ declaredNames node) :
    node.Declares name := by
  fun_cases declaredNames node with
  | case1 start closing statements =>
      rw [declaredNames, namesOf, mem_insertNames, List.mem_flatMap] at member
      obtain ⟨statement, inside, member⟩ := member.resolve_left (by simp)
      exact declares_of_part inside (declares_of_statementNames member)
  | case2 =>
      rw [declaredNames] at member
      · cases member
      · assumption

/-- The names of plain parameters are declared there. -/
theorem declares_of_parameterNames? {parameters : Node} {names : List String} {name : String}
    (declared : parameterNames? parameters = some names) (member : name ∈ names) :
    parameters.Declares name := by
  have found : some name ∈ parameters.parts.map parameterName? := by
    rw [(plain_of_parameterNames? declared).2]
    exact List.mem_map.2 ⟨name, member, rfl⟩
  obtain ⟨parameter, inside, named⟩ := List.mem_map.1 found
  refine declares_of_part inside ?_
  obtain ⟨start, bindingStart, bindingParts, rest, rfl⟩ := parameter_of_parameterName? named
  exact ⟨_, Node.mem_nodes_of_part List.mem_cons_self (Node.mem_nodes_self _), rfl⟩

/-! ## Captured names -/

/-- A name that an analysis of nodes may find: it looks for the name, and under `scoped` the name is
read there. -/
structure MayFind (rules : CaptureRules) (nodes : List Node) (name : String) : Prop where
  bound : name ∈ rules.bound
  read : rules.policy = .scoped → ∃ node ∈ nodes, node.Reads name

namespace MayFind

variable {rules : CaptureRules} {nodes others : List Node} {name : String}

theorem mono (found : MayFind rules nodes name) (among : ∀ node ∈ nodes, node ∈ others) :
    MayFind rules others name where
  bound := found.bound
  read isScoped := by
    obtain ⟨node, member, reads⟩ := found.read isScoped
    exact ⟨node, among node member, reads⟩

theorem ofParts {start : Nat} {form : Form} (found : MayFind rules nodes name) :
    MayFind rules [.mk start form nodes] name where
  bound := found.bound
  read isScoped := by
    obtain ⟨node, member, inner, inside, form_eq⟩ := found.read isScoped
    exact ⟨_, List.mem_singleton_self _, inner, Node.mem_nodes_of_part member inside, form_eq⟩

end MayFind

/-- What an analysis finds in nodes was found before or may be found in them. -/
def FindsOnly (rules : CaptureRules) (nodes : List Node) (before after : CaptureState) : Prop :=
  ∀ name ∈ after.found, name ∈ before.found ∨ MayFind rules nodes name

namespace FindsOnly

variable {rules : CaptureRules} {nodes later : List Node} {before between after : CaptureState}

theorem ofParts {start : Nat} {form : Form} (finds : FindsOnly rules nodes before after) :
    FindsOnly rules [.mk start form nodes] before after :=
  fun name member => (finds name member).imp_right MayFind.ofParts

theorem append (first : FindsOnly rules nodes before between)
    (second : FindsOnly rules later between after) :
    FindsOnly rules (nodes ++ later) before after := by
  intro name member
  rcases second name member with found | found
  · exact (first name found).imp_right fun among => among.mono fun _ => List.mem_append_left _
  · exact .inr (found.mono fun _ => List.mem_append_right _)

end FindsOnly

/-- An analysis finds no names but those that it looks for, and under `scoped` none but those that
are read. -/
theorem findsOnly_analyze (rules : CaptureRules) :
    (∀ node state, FindsOnly rules [node] state (analyze rules node state)) ∧
      (∀ nodes state, FindsOnly rules nodes state (analyzeAll rules nodes state)) := by
  apply analyze.mutual_induct rules
  case case1 =>
    intro start other parts state name member
    rw [analyze, CaptureState.read] at member
    split at member
    case isTrue known =>
      rcases mem_insertName.1 member with before | rfl
      · exact .inl before
      · exact .inr ⟨known.1, fun _ => ⟨_, List.mem_singleton_self _, _, Node.mem_nodes_self _, rfl⟩⟩
    case isFalse => exact .inl member
  case case2 =>
    intro start other parts state name member
    rw [analyze, CaptureState.declare] at member
    split at member
    case h_1 flat =>
      unfold CaptureState.read at member
      split at member
      case isTrue known =>
        rcases mem_insertName.1 member with before | rfl
        · exact .inl before
        · exact .inr ⟨known.1, fun isScoped => nomatch flat.symm.trans isScoped⟩
      case isFalse => exact .inl member
    case h_2 => exact .inl member
  case case3 =>
    intro start opening children state before openingFinds childrenFind
    rw [analyze]
    have entered : (enterElement rules opening before).found = before.found := by
      unfold enterElement
      split <;> rfl
    have rest : FindsOnly rules children before
        (analyzeAll rules children (enterElement rules opening before)) := by
      intro name member
      exact entered ▸ childrenFind name member
    exact (openingFinds.append rest).ofParts
  case case4 =>
    intro start pattern value state valueFinds patternFinds name member
    rw [analyze] at member
    refine (valueFinds.append patternFinds name member).imp_right fun found => ?_
    exact (found.mono (by simp [or_comm])).ofParts
  case case5 | case6 =>
    intro start head parts state partsFind
    rw [analyze]
    exact FindsOnly.ofParts partsFind
  case case7 =>
    intro start parts state partsFind
    rw [analyze]
    exact FindsOnly.ofParts partsFind
  case case8 =>
    intro start form parts state
    intros
    rename_i partsFind
    rw [analyze]
    · exact FindsOnly.ofParts partsFind
    all_goals assumption
  case case9 =>
    intro state name member
    exact .inl member
  case case10 =>
    intro node nodes state nodeFinds nodesFind
    rw [analyzeAll]
    exact nodeFinds.append nodesFind

/-- A callback hands over names that its loop binds, that the loops around it bind, or that the
lists in its body bind or hand over. -/
theorem mem_handedNames {rules : RewriteRules} {frame : Frame} {outer : Names} {markup : Node}
    {name : String} (member : name ∈ handedNames rules frame outer markup) :
    name ∈ frame.bindings ∨ name ∈ outer ∨ name ∈ frame.innerBindings ∨
      name ∈ frame.innerCaptures := by
  have own : ∀ {name : String}, name ∈ insertNames (insertNames (namesOf [frame.item, frame.index])
      frame.locals) outer → name ∈ frame.bindings ∨ name ∈ outer := by
    intro name inside
    simp only [namesOf, mem_insertNames, List.not_mem_nil, false_or] at inside
    simpa [Frame.bindings, or_assoc] using inside
  unfold handedNames at member
  rcases mem_insertNames.1 member with captured | inner
  · have found :=
      ((findsOnly_analyze _).1 markup .empty name captured).resolve_left List.not_mem_nil
    have bound := found.bound
    dsimp only at bound
    split at bound
    · rcases mem_insertNames.1 bound with inside | inside
      · exact (own inside).imp_right .inl
      · exact .inr (.inr (.inl inside))
    · exact (own bound).imp_right .inl
  · exact .inr (.inr (.inr inner))

/-! ## Names in loops -/

/-- A loop with only names of the given kind. -/
structure Frame.Only (Known : String → Prop) (frame : Frame) : Prop where
  bindings : ∀ name ∈ frame.bindings, Known name
  captures : ∀ name ∈ frame.captures, Known name
  innerBindings : ∀ name ∈ frame.innerBindings, Known name
  innerCaptures : ∀ name ∈ frame.innerCaptures, Known name

section Known

variable {Known : String → Prop}

namespace Frame.Only

variable {frame finished : Frame}

theorem item (only : frame.Only Known) : Known frame.item := only.bindings _ List.mem_cons_self

theorem index (only : frame.Only Known) : Known frame.index :=
  only.bindings _ (List.mem_cons_of_mem _ List.mem_cons_self)

theorem absorb (only : frame.Only Known) (finishedOnly : finished.Only Known) :
    (frame.absorb finished).Only Known where
  bindings := only.bindings
  captures := only.captures
  innerBindings := by
    intro name member
    simp only [Frame.absorb, mem_insertNames, mem_insertName] at member
    rcases member with ((inside | rfl) | rfl) | inside
    · exact only.innerBindings name inside
    · exact finishedOnly.item
    · exact finishedOnly.index
    · exact finishedOnly.innerBindings name inside
  innerCaptures := by
    intro name member
    simp only [Frame.absorb, mem_insertNames] at member
    rcases member with inside | inside
    · exact only.innerCaptures name inside
    · exact finishedOnly.captures name (List.mem_filter.1 inside).1

theorem noteAll {traces : List Trace} (only : frame.Only Known)
    (tracesOnly : ∀ finished wrapper inside, .list finished wrapper inside ∈ traces →
      finished.Only Known) : (frame.noteAll traces).Only Known := by
  induction traces generalizing frame with
  | nil => exact only
  | cons trace traces ih =>
      refine ih ?_ fun finished wrapper inside member =>
        tracesOnly finished wrapper inside (List.mem_cons_of_mem _ member)
      cases trace with
      | skipped offset => exact only
      | list finished wrapper inside =>
          exact only.absorb (tracesOnly finished wrapper inside List.mem_cons_self)

end Frame.Only

/-- Whether a node declares only names of the given kind. -/
def DeclaresOnly (Known : String → Prop) (node : Node) : Prop :=
  ∀ name, node.form = .binding name → Known name

theorem known_of_declares {node : Node} {name : String}
    (declared : Node.Everywhere (DeclaresOnly Known) [node]) (declares : node.Declares name) :
    Known name := by
  obtain ⟨inner, inside, form_eq⟩ := declares
  exact declared inner (by simpa using inside) name form_eq

/-- A loop that was just opened has no names but those that it binds. -/
theorem Frame.Only.of_bindings {iteration : Iteration} {body : Node}
    (known : ∀ name ∈ (loopOf iteration body).bindings, Known name) :
    (loopOf iteration body).Only Known where
  bindings := known
  captures := by simp [loopOf, Frame.of]
  innerBindings := by simp [loopOf, Frame.of]
  innerCaptures := by simp [loopOf, Frame.of]

/-- The loop that a list opens binds the names that its callback declares, and the names of an item
and an index left out. -/
theorem only_loopOf {value : Node} {iteration : Iteration} (list : MatchedList value iteration)
    (item : Known "item") (index : Known "index")
    (declared : Node.Everywhere (DeclaresOnly Known) [value]) :
    (loopOf iteration list.body).Only Known := by
  obtain ⟨-, parametersDeclared, bodyDeclared⟩ := list.everywhere declared
  have parameter : ∀ {position : Nat} {name : String}, list.names[position]? = some name →
      Known name := fun found => known_of_declares parametersDeclared
    (declares_of_parameterNames? list.declared (List.mem_of_getElem? found))
  refine .of_bindings fun name member => ?_
  simp only [Frame.bindings, loopOf, Frame.of, List.mem_cons] at member
  rcases member with rfl | rfl | inside
  · rw [Iteration.itemName, list.item_eq]
    cases found : list.names[0]? with
    | none => exact item
    | some name => exact parameter found
  · rw [Iteration.indexName, list.index_eq]
    cases found : list.names[1]? with
    | none => exact index
    | some name => exact parameter found
  · exact known_of_declares bodyDeclared (declares_of_declaredNames inside)

theorem only_finishedLoop {rules : RewriteRules} {outer : Names} {iteration : Iteration}
    {body markup : Node} {inside : List Trace} (around : ∀ name ∈ outer, Known name)
    (only : ((loopOf iteration body).noteAll inside).Only Known) :
    (finishedLoop rules outer iteration body inside markup).Only Known where
  bindings := only.bindings
  captures := by
    intro name member
    rcases mem_handedNames member with own | among | inner | inner
    · exact only.bindings name own
    · exact around name among
    · exact only.innerBindings name inner
    · exact only.innerCaptures name inner
  innerBindings := only.innerBindings
  innerCaptures := only.innerCaptures

/-- Whether the loop that a node opens, if it is a mapped list, binds only names of the given
kind. -/
def BindsOnly (Known : String → Prop) (node : Node) : Prop :=
  ∀ iteration (list : MatchedList node iteration), iteration? node = some iteration →
    (loopOf iteration list.body).Only Known

/-- Lists bind what is declared in them, and the names of an item and an index left out. -/
theorem bindsOnly_of_declaresOnly {nodes : List Node} (item : Known "item") (index : Known "index")
    (declared : Node.Everywhere (DeclaresOnly Known) nodes) :
    Node.Everywhere (BindsOnly Known) nodes := by
  intro node member iteration list _
  refine only_loopOf list item index fun inner inside => declared inner ?_
  rw [Node.mem_allNodes] at member inside ⊢
  obtain ⟨top, among, within⟩ := member
  obtain ⟨single, same, deeper⟩ := inside
  rw [List.mem_singleton.1 same] at deeper
  exact ⟨top, among, Node.mem_nodes_trans deeper within⟩

/-- The loops of a rewrite have only names of a kind, if all names bound by the lists among the
nodes and around them are of that kind. -/
theorem Expanded.only_of_bindsOnly {rules : RewriteRules} {outer : Names} {slot : Slot}
    {nodes expanded : List Node} {traces : List Trace}
    (derived : Expanded rules outer slot nodes expanded traces)
    (around : ∀ name ∈ outer, Known name) (binds : Node.Everywhere (BindsOnly Known) nodes) :
    ∀ frame wrapper inside, .list frame wrapper inside ∈ traces → frame.Only Known := by
  intro frame wrapper inside member
  induction frame, wrapper, inside using Trace.list_induction
    generalizing outer slot nodes expanded traces with
  | step frame wrapper inside ih =>
      obtain ⟨rewrote⟩ := derived.rewrote member
      have valueBinds := rewrote.found _ binds
      have bodyBinds := (rewrote.list.everywhere valueBinds).2.2
      have opened := valueBinds.own _ rewrote.list rewrote.matched
      have bound : ∀ name ∈ insertNames outer frame.bindings, Known name := by
        intro name among
        rw [rewrote.rewritten.bindings_eq] at among
        exact (mem_insertNames.1 among).elim (around name) (opened.bindings name)
      have nestedOnly : ∀ nested element inner, .list nested element inner ∈ inside →
          nested.Only Known :=
        fun nested element inner among =>
          ih nested element inner among rewrote.inner bound bodyBinds among
      rw [rewrote.rewritten.frame_eq]
      exact only_finishedLoop around (opened.noteAll nestedOnly)

/-- The loops of a rewrite have only names of a kind, if all names declared in the nodes and bound
around them are of that kind and those of an item and an index left out are. -/
theorem Expanded.only {rules : RewriteRules} {outer : Names} {slot : Slot}
    {nodes expanded : List Node}
    {traces : List Trace} (derived : Expanded rules outer slot nodes expanded traces)
    (item : Known "item") (index : Known "index") (around : ∀ name ∈ outer, Known name)
    (declared : Node.Everywhere (DeclaresOnly Known) nodes) :
    ∀ frame wrapper inside, .list frame wrapper inside ∈ traces → frame.Only Known :=
  derived.only_of_bindsOnly around (bindsOnly_of_declaresOnly item index declared)

end Known

end LoopTemplate.Loop
