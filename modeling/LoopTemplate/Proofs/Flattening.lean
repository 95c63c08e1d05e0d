import LoopTemplate.Proofs.Kept
import LoopTemplate.Proofs.Threading

/-!
# What flattened loops hand over

Where names of inner loops are merged into the loops around them, the captured names of a list are
determined by what occurs in its markup: those names in the scope of the list, in the order in which
they first occur, and then what the lists in its body hand over but do not bind.
-/

namespace LoopTemplate.Loop

open LoopTemplate.Grammar (IsName plainParameter)
open LoopTemplate.Tree (Form Node)

/-! ## Occurrences -/

mutual

/-- The names that occur in a node, read or declared, in the order of a visit. The value of a
variable is visited before its pattern. -/
def occurrences : Node → List String
  | .mk _ (.reference name) _ => [name]
  | .mk _ (.binding name) _ => [name]
  | .mk _ .declarator [pattern, value] => occurrences value ++ occurrences pattern
  | .mk _ _ parts => allOccurrences parts

/-- The names that occur in nodes one after the other. -/
def allOccurrences : List Node → List String
  | [] => []
  | node :: nodes => occurrences node ++ allOccurrences nodes

end

theorem allOccurrences_eq_flatMap (nodes : List Node) :
    allOccurrences nodes = nodes.flatMap occurrences := by
  induction nodes with
  | nil => rfl
  | cons node nodes ih => rw [allOccurrences, ih, List.flatMap_cons]

/-- The names that occur in a part occur in the node, unless that is itself a name. -/
theorem mem_occurrences_of_part {node part : Node} {name : String} (member : part ∈ node.parts)
    (noReference : ∀ other, node.form ≠ .reference other)
    (noBinding : ∀ other, node.form ≠ .binding other) (occurs : name ∈ occurrences part) :
    name ∈ occurrences node := by
  fun_cases occurrences node with
  | case1 => exact absurd rfl (noReference _)
  | case2 => exact absurd rfl (noBinding _)
  | case3 start pattern value =>
      simp only [Node.parts_mk, List.mem_cons, List.not_mem_nil, or_false] at member
      rcases member with rfl | rfl
      · exact List.mem_append_right _ occurs
      · exact List.mem_append_left _ occurs
  | case4 =>
      rw [allOccurrences_eq_flatMap]
      exact List.mem_flatMap.2 ⟨part, member, occurs⟩

namespace CaptureState

/-- Names are read one after the other, whatever is hidden. -/
def readAll (state : CaptureState) (rules : CaptureRules) (names : List String) : CaptureState :=
  { state with found := insertNames state.found (names.filter (· ∈ rules.bound)) }

theorem readAll_append (state : CaptureState) (rules : CaptureRules) (left right : List String) :
    state.readAll rules (left ++ right) = (state.readAll rules left).readAll rules right := by
  simp only [readAll, List.filter_append, insertNames_append]

theorem read_eq_readAll {rules : CaptureRules} (flat : rules.policy = .flatten)
    (state : CaptureState) (name : String) :
    state.read rules name = state.readAll rules [name] := by
  by_cases bound : name ∈ rules.bound
  · simp [read, readAll, flat, bound, insertNames]
  · simp [read, readAll, bound, insertNames]

@[simp] theorem leave_readAll (state : CaptureState) (rules : CaptureRules) (names : List String) :
    (state.readAll rules names).leave state = state.readAll rules names := rfl

end CaptureState

/-- Under `flatten` an analysis reads what occurs, in order. -/
theorem analyze_flatten {rules : CaptureRules} (flat : rules.policy = .flatten) :
    (∀ node state, analyze rules node state = state.readAll rules (occurrences node)) ∧
      (∀ nodes state,
        analyzeAll rules nodes state = state.readAll rules (allOccurrences nodes)) := by
  apply analyze.mutual_induct rules
  case case1 =>
    intro start name parts state
    rw [analyze, occurrences, CaptureState.read_eq_readAll flat]
  case case2 =>
    intro start name parts state
    rw [analyze, occurrences, CaptureState.declare, flat]
    exact CaptureState.read_eq_readAll flat state name
  case case3 =>
    intro start opening children state before openingReads childrenRead
    have entered : enterElement rules opening before = before := by rw [enterElement, flat]
    have order : occurrences (.mk start .element (opening :: children)) =
        occurrences opening ++ allOccurrences children := by
      simp [occurrences, allOccurrences]
    rw [entered] at childrenRead
    rw [order, CaptureState.readAll_append, ← openingReads, analyze, entered, childrenRead]
    exact CaptureState.leave_readAll before rules (allOccurrences children)
  case case4 =>
    intro start pattern value state valueReads patternReads
    rw [analyze, occurrences, CaptureState.readAll_append, patternReads, valueReads]
  case case5 =>
    intro start head parts state partsRead
    rw [analyze, partsRead, occurrences, CaptureState.leave_readAll]
    all_goals simp
  case case6 =>
    intro start head parts state partsRead
    rw [analyze, partsRead, occurrences, CaptureState.leave_readAll]
    all_goals simp
  case case7 =>
    intro start parts state partsRead
    rw [analyze, partsRead, occurrences, CaptureState.leave_readAll]
    all_goals simp
  case case8 =>
    intro start form parts state
    intros
    rename_i partsRead
    rw [analyze, partsRead, occurrences]
    all_goals assumption
  case case9 =>
    intro state
    rw [analyzeAll, allOccurrences]
    rfl
  case case10 =>
    intro node nodes state nodeReads nodesRead
    rw [analyzeAll, allOccurrences, CaptureState.readAll_append, nodesRead, nodeReads]

/-! ## Scopes -/

namespace Trace

mutual

/-- The items and indices of a list and of all lists in its body. -/
def loopNames : Trace → List String
  | skipped _ => []
  | list frame _ inside => frame.item :: frame.index :: allLoopNames inside

/-- The items and indices of lists and of all lists in their bodies. -/
def allLoopNames : List Trace → List String
  | [] => []
  | trace :: traces => loopNames trace ++ allLoopNames traces

end

end Trace

/-- The names in the scope of a list: those that it binds, those that the lists around it bind, and
the items and indices of all lists in its body. -/
def loopScope (enclosing : List Trace) (frame : Frame) (inside : List Trace) : List String :=
  frame.bindings ++ enclosing.flatMap Trace.bindings ++ Trace.allLoopNames inside

/-- A loop notes the items and indices of the lists in its body, if these noted theirs. -/
theorem Frame.mem_innerBindings_noteAll {frame : Frame} {traces : List Trace} {name : String}
    (noted : ∀ nested element inner, .list nested element inner ∈ traces →
      (name ∈ nested.innerBindings ↔ name ∈ Trace.allLoopNames inner)) :
    name ∈ (frame.noteAll traces).innerBindings ↔
      name ∈ frame.innerBindings ∨ name ∈ Trace.allLoopNames traces := by
  induction traces generalizing frame with
  | nil => simp [Frame.noteAll, Trace.allLoopNames]
  | cons trace traces ih =>
      have step : name ∈ (frame.note trace).innerBindings ↔
          name ∈ frame.innerBindings ∨ name ∈ trace.loopNames := by
        cases trace with
        | skipped offset => simp [Frame.note, Trace.loopNames]
        | list nested element inner =>
            simp [Frame.note, Frame.absorb, Trace.loopNames,
              noted nested element inner List.mem_cons_self, or_assoc]
      have rest : name ∈ ((frame.note trace).noteAll traces).innerBindings ↔ _ :=
        ih fun nested element inner member =>
          noted nested element inner (List.mem_cons_of_mem _ member)
      rw [Trace.allLoopNames, List.mem_append, ← or_assoc, ← step]
      exact rest

section Flattening

variable {rules : RewriteRules} {outer : Names} {slot : Slot} {nodes expanded : List Node}
  {traces enclosing inside : List Trace} {frame : Frame} {wrapper : Node}

/-- In the loop of a list the items and indices of all lists in its body are noted. -/
theorem Expanded.mem_innerBindings (derived : Expanded rules outer slot nodes expanded traces)
    (member : .list frame wrapper inside ∈ traces) {name : String} :
    name ∈ frame.innerBindings ↔ name ∈ Trace.allLoopNames inside := by
  induction frame, wrapper, inside using Trace.list_induction
    generalizing outer slot nodes expanded traces with
  | step frame wrapper inside ih =>
      obtain ⟨rewrote⟩ := derived.rewrote member
      have finished : frame.innerBindings =
          ((loopOf rewrote.iteration rewrote.list.body).noteAll inside).innerBindings :=
        (congrArg Frame.innerBindings rewrote.rewritten.frame_eq).trans rfl
      rw [finished, Frame.mem_innerBindings_noteAll fun nested element inner among =>
        ih nested element inner among rewrote.inner among]
      simp [loopOf, Frame.of]

/-- Under `flatten` a loop hands over the names of its scope that occur in the markup, and then what
the lists in its body hand over. -/
theorem handedNames_flatten (flat : rules.policy = .flatten) {markup : Node}
    {scope handed : List String} (inScope : ∀ name, name ∈ scope ↔
      name ∈ frame.bindings ∨ name ∈ outer ∨ name ∈ frame.innerBindings)
    (reported : frame.innerCaptures = namesOf handed) :
    handedNames rules frame outer markup =
      namesOf ((occurrences markup).filter (· ∈ scope) ++ handed) := by
  have bound : ∀ name, name ∈ insertNames (insertNames (insertNames (namesOf [frame.item,
      frame.index]) frame.locals) outer) frame.innerBindings ↔ name ∈ scope := by
    intro name
    rw [inScope]
    simp [namesOf, Frame.bindings, or_assoc]
  simp only [handedNames, flat, captures, reported]
  rw [(analyze_flatten rfl).1]
  simp only [CaptureState.readAll, CaptureState.empty, bound]
  rw [namesOf_append, namesOf, namesOf, insertNames_insertNames]
  rfl

/-- Under `flatten` a loop hands over the names that it binds or that are bound around it, if they
occur in the markup. -/
theorem mem_handedNames_flatten (flat : rules.policy = .flatten) {markup : Node} {name : String}
    (bound : name ∈ frame.bindings ∨ name ∈ outer) (occurs : name ∈ occurrences markup) :
    name ∈ handedNames rules frame outer markup := by
  simp only [handedNames, flat, captures, mem_insertNames]
  rw [(analyze_flatten rfl).1]
  left
  simp only [CaptureState.readAll, CaptureState.empty, mem_insertNames, List.mem_filter]
  right
  refine ⟨occurs, ?_⟩
  rcases bound with own | around
  · rcases List.mem_cons.1 own with rfl | own
    · simp [namesOf]
    rcases List.mem_cons.1 own with rfl | inLocals
    · simp [namesOf]
    · simp [inLocals]
  · simp [around]

/-- The names that a list hands over under `flatten`. -/
theorem Rewrote.captures_flatten
    (rewrote : Rewrote rules (boundAround [] enclosing) nodes expanded frame wrapper inside)
    (flat : rules.policy = .flatten) :
    frame.captures = namesOf
      ((occurrences rewrote.rewritten.result.withoutParentheses).filter
          (· ∈ loopScope enclosing frame inside) ++ inside.flatMap Trace.handed) := by
  rw [rewrote.rewritten.captures_eq]
  refine handedNames_flatten flat (fun name => ?_) ?_
  · rw [Frame.mem_innerBindings_noteAll fun _ _ _ among => rewrote.inner.mem_innerBindings among,
      Frame.bindings_noteAll, ← rewrote.rewritten.bindings_eq, mem_boundAround]
    simp [loopScope, loopOf, Frame.of]
  · rw [Frame.innerCaptures_noteAll]
    rfl

end Flattening

/-! ## Proper names -/

/-- Whether a node that is a name has nothing inside, and can be spelled if it is declared. -/
def ProperName : Node → Prop
  | .mk _ (.reference _) parts => parts = []
  | .mk _ (.binding name) parts => IsName name ∧ parts = []
  | _ => True

instance (node : Node) : Decidable (ProperName node) := by
  unfold ProperName
  split <;> infer_instance

theorem declaresOnly_of_properName {nodes : List Node} (proper : Node.Everywhere ProperName nodes) :
    Node.Everywhere (DeclaresOnly IsName) nodes := by
  intro node member name form_eq
  have own := proper node member
  obtain ⟨start, form, parts⟩ := node
  cases form_eq
  exact own.1

/-- A name that occurs in a node occurs in every node around it. -/
theorem mem_occurrences_of_mem {node inner : Node} {name : String}
    (proper : Node.Everywhere ProperName [node]) (inside : inner ∈ node.nodes)
    (occurs : name ∈ occurrences inner) : name ∈ occurrences node := by
  induction node using Node.induction_on_parts with
  | step start form parts ih =>
      obtain ⟨own, partsProper⟩ := Node.everywhere_mk.1 proper
      rcases Node.mem_nodes_mk.1 inside with rfl | ⟨part, member, within⟩
      · exact occurs
      · refine mem_occurrences_of_part member ?_ ?_ (ih part member ?_ within)
        · rintro other rfl
          rw [show parts = [] from own] at member
          cases member
        · rintro other rfl
          rw [own.2] at member
          cases member
        · exact fun node among => partsProper node (by simp_all; exact ⟨part, member, among⟩)

theorem mem_occurrences_of_declares {node : Node} {name : String}
    (proper : Node.Everywhere ProperName [node]) (declares : node.Declares name) :
    name ∈ occurrences node := by
  obtain ⟨⟨start, form, parts⟩, inside, form_eq⟩ := declares
  cases form_eq
  exact mem_occurrences_of_mem proper inside (by simp [occurrences])

theorem mem_occurrences_of_reads {node : Node} {name : String}
    (proper : Node.Everywhere ProperName [node]) (reads : node.Reads name) :
    name ∈ occurrences node := by
  obtain ⟨⟨start, form, parts⟩, inside, form_eq⟩ := reads
  cases form_eq
  exact mem_occurrences_of_mem proper inside (by simp [occurrences])

section Proper

variable {rules : RewriteRules} {outer : Names} {slot : Slot} {nodes expanded : List Node}
  {traces : List Trace}

theorem stable_properName : Stable ProperName where
  scaffold start form parts scaffold := by
    cases form with
    | reference name | binding name => cases scaffold
    | _ => trivial
  element start parts := trivial
  parameters start first second item index itemValid indexValid := by
    simp [Node.Everywhere, Node.mem_nodes_mk, ProperName, plainParameter, or_imp, forall_and,
      itemValid, indexValid]
  parts start form parts others noParts own := by
    cases form with
    | reference name => exact noParts own
    | binding name => exact ⟨own.1, noParts own.2⟩
    | _ => trivial

theorem objectsHold_properName : ObjectsHold rules ProperName := by
  intro outer value callee body wrapper iteration list inside frame rewritten _ _ _ only _
  exact everywhere_handsOver (handsOver_of_captureObject only.captures rewritten.handed)
    (fun _ _ => trivial) (fun _ _ => trivial) (fun _ _ => trivial) fun _ _ _ => rfl

/-- Names are proper after a rewrite as well. -/
theorem Expanded.properName (derived : Expanded rules outer slot nodes expanded traces)
    (around : ∀ name ∈ outer, IsName name) (proper : Node.Everywhere ProperName nodes) :
    Node.Everywhere ProperName expanded :=
  derived.everywhere stable_properName objectsHold_properName around
    (declaresOnly_of_properName proper) proper

theorem properName_rowsOfCells : Node.Everywhere ProperName [rowsOfCells] := by
  unfold Node.Everywhere
  decide +kernel

end Proper

/-! ## Nested lists -/

theorem Trace.mem_allLoopNames {traces : List Trace} {name : String} :
    name ∈ allLoopNames traces ↔ ∃ trace ∈ traces, name ∈ trace.loopNames := by
  induction traces with
  | nil => simp [allLoopNames]
  | cons trace traces ih => simp [allLoopNames, ih]

/-- The item and index of a list at any depth are among the names of the loops. -/
theorem Within.mem_allLoopNames {forest enclosing inside : List Trace} {frame : Frame}
    {wrapper : Node} (within : Within forest enclosing frame wrapper inside) {name : String}
    (named : name ∈ (Trace.list frame wrapper inside).loopNames) :
    name ∈ Trace.allLoopNames forest := by
  induction within with
  | here member => exact Trace.mem_allLoopNames.2 ⟨_, member, named⟩
  | inside enclosed member ih =>
      refine ih (List.mem_cons_of_mem _ (List.mem_cons_of_mem _ ?_))
      exact Trace.mem_allLoopNames.2 ⟨_, member, named⟩

/-- The loop that replaced a list declares the item and the index. -/
theorem RewrittenList.declares {rules : RewriteRules} {outer : Names}
    {value callee body wrapper : Node} {iteration : Iteration} {list : MatchedList value iteration}
    {inside : List Trace} {frame : Frame}
    (rewritten : RewrittenList rules outer list callee body inside frame wrapper)
    (only : frame.Only IsName) {name : String} (member : name ∈ [frame.item, frame.index]) :
    wrapper.Declares name := by
  obtain ⟨inner, inParameters, form_eq⟩ :=
    declares_of_parameterNames? (rewritten.parameterNames_eq only) member
  have inCallback : inner ∈ (list.mapping.callback rewritten.parameters
      (rewritten.context.fill rewritten.object)).nodes :=
    Node.mem_nodes_of_part (List.mem_append_right _ List.mem_cons_self) inParameters
  have inCall : inner ∈ (list.mapping.call callee rewritten.parameters
      (rewritten.context.fill rewritten.object)).nodes :=
    Node.mem_nodes_of_part (List.mem_cons_of_mem _ List.mem_cons_self) inCallback
  exact ⟨inner, Node.mem_nodes_trans inCall (parts_of_loopWrapper rewritten.wrapped).2.1, form_eq⟩

section Nested

variable {rules : RewriteRules} {outer : Names} {nodes expanded : List Node} {frame : Frame}
  {wrapper : Node} {inside between inner : List Trace} {nested : Frame} {element : Node}

/-- A list in the markup of another has its item and index occur there. -/
theorem Rewrote.occurs_of_nested
    (rewrote : Rewrote rules outer nodes expanded frame wrapper inside)
    (proper : Node.Everywhere ProperName nodes)
    (around : ∀ name ∈ insertNames outer frame.bindings, IsName name)
    (within : Within inside between nested element inner)
    (among : element ∈ rewrote.rewritten.result.withoutParentheses.nodes) {name : String}
    (member : name ∈ [nested.item, nested.index]) :
    name ∈ occurrences rewrote.rewritten.result.withoutParentheses := by
  have listProper := (rewrote.list.everywhere (rewrote.found _ proper)).2.2
  have bodyProper := rewrote.inner.properName around listProper
  rw [rewrote.rewritten.body_eq] at bodyProper
  obtain ⟨only, -⟩ :=
    within.only rewrote.inner (declaresOnly_of_properName listProper) around
  obtain ⟨others, otherExpanded, ⟨nestedRewrote⟩, -⟩ := within.rewrote rewrote.inner
  obtain ⟨binding, inElement, form_eq⟩ := nestedRewrote.rewritten.declares only member
  have markupProper : Node.Everywhere ProperName [rewrote.rewritten.result.withoutParentheses] :=
    bodyProper.of_mem (rewrote.rewritten.context.markup_mem_fill rewrote.rewritten.result)
  exact mem_occurrences_of_declares markupProper
    ⟨binding, Node.mem_nodes_trans inElement among, form_eq⟩

end Nested

/-- Under `flatten` the captured names of a rewritten list are exactly the names in its scope that
occur in its markup, in the order in which they first occur, and then the names that the lists in
its body hand over but do not bind. So every name of its scope that the markup reads is handed
over, and so are the item and the index of every list in the markup. -/
theorem flatten_captures {adapter : Adapter} {tree : Node} {rewritten : Rewritten}
    (proper : Node.Everywhere ProperName [tree])
    (done : rewrite ⟨adapter, .flatten⟩ tree = .ok rewritten) :
    rewritten.events = Trace.allEvents 0 (tracesOf ⟨adapter, .flatten⟩ tree) ++
        [.finished (Trace.allLists (tracesOf ⟨adapter, .flatten⟩ tree))] ∧
      ∀ enclosing frame wrapper inside,
        Within (tracesOf ⟨adapter, .flatten⟩ tree) enclosing frame wrapper inside →
        ∃ child body, templateLoop? adapter wrapper = some (.ofFrame frame child body) ∧
          StandsIn adapter rewritten.tree wrapper enclosing ∧
          frame.captures = ((occurrences child).filter (· ∈ loopScope enclosing frame inside) ++
            inside.flatMap Trace.handed).eraseDups ∧
          (∀ name ∈ loopScope enclosing frame inside, name ∈ occurrences child →
            name ∈ frame.captures) ∧
          ∀ between nested element inner, Within inside between nested element inner →
            element ∈ child.nodes →
              nested.item ∈ frame.captures ∧ nested.index ∈ frame.captures := by
  obtain ⟨expansion, events_eq⟩ := expand_of_rewrite done
  have declared := declaresOnly_of_properName proper
  have derived := (expanded_of_expansion _).1 [] .inner tree rewritten.tree _ expansion
  refine ⟨events_eq, fun enclosing frame wrapper inside within => ?_⟩
  obtain ⟨only, outside⟩ := within.only derived declared nofun
  obtain ⟨others, otherExpanded, ⟨rewrote⟩, found⟩ := within.rewrote derived
  have captures_eq := rewrote.captures_flatten rfl
  have supplied : ∀ name ∈ loopScope enclosing frame inside,
      name ∈ occurrences rewrote.rewritten.result.withoutParentheses → name ∈ frame.captures := by
    intro name inScope occurs
    rw [captures_eq, namesOf, mem_insertNames, List.mem_append, List.mem_filter]
    exact .inr (.inl ⟨occurs, by simpa using inScope⟩)
  have bodyAround : ∀ name ∈ insertNames (boundAround [] enclosing) frame.bindings, IsName name :=
    fun name member => (mem_insertNames.1 member).elim (outside name) (only.bindings name)
  have read := rewrote.rewritten.templateLoop?_eq rewrote.inner only
  have stands := within.standsIn derived declared nofun
  rw [namesOf_eq_eraseDups] at captures_eq
  refine ⟨_, _, read, stands, captures_eq, supplied, ?_⟩
  intro between nested element inner nestedWithin among
  have captured : ∀ name ∈ [nested.item, nested.index], name ∈ frame.captures := by
    intro name member
    refine supplied name (List.mem_append_right _ (nestedWithin.mem_allLoopNames ?_))
      (rewrote.occurs_of_nested (found _ proper) bodyAround nestedWithin among member)
    simp only [Trace.loopNames, List.mem_cons, List.not_mem_nil, or_false] at member ⊢
    exact member.imp_right .inl
  exact ⟨captured _ (by simp), captured _ (by simp)⟩

/-- The list of rows hands over its row, and the cell and the index of the list in its markup. -/
theorem flatten_captures_rowsOfCells :
    Node.Everywhere ProperName [rowsOfCells] ∧
      ∃ rewritten frame wrapper inside child body,
        rewrite ⟨.wechat, .flatten⟩ rowsOfCells = .ok rewritten ∧
        Within (tracesOf ⟨.wechat, .flatten⟩ rowsOfCells) [] frame wrapper inside ∧
        templateLoop? .wechat wrapper = some (.ofFrame frame child body) ∧
        frame.captures = ["row", "cell", "index"] ∧
        frame.captures = ((occurrences child).filter (· ∈ loopScope [] frame inside) ++
          inside.flatMap Trace.handed).eraseDups := by
  have proper : Node.Everywhere ProperName [rowsOfCells] := by
    unfold Node.Everywhere
    decide +kernel
  obtain ⟨rewritten, rows, rowsLoop, cells, cellsLoop, done, traces_eq, rows_eq, -⟩ :=
    rewrite_rowsOfCells
  have within : Within (tracesOf ⟨.wechat, .flatten⟩ rowsOfCells) [] rows rowsLoop
      [.list cells cellsLoop []] :=
    .here (traces_eq ▸ List.mem_cons_self)
  obtain ⟨child, body, read, -, captures_eq, -⟩ :=
    (flatten_captures proper done).2 [] rows rowsLoop _ within
  exact ⟨proper, rewritten, rows, rowsLoop, _, child, body, done, within, read, rows_eq,
    captures_eq⟩

end LoopTemplate.Loop
