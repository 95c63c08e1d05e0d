import LoopTemplate.Proofs.Kept
import LoopTemplate.Proofs.Undo
import Mathlib.Data.List.Forall2

/-!
# No list is left

A rewrite enters every place where a mapped list can stand, so it leaves none behind. Nor does it
make one: outside of tags each node stays what it is, and what decides whether a node is a mapped
list does not change (`RewroteTo`). So nothing between tags is a mapped list any more, and a
second rewrite finds nothing to do.
-/

namespace LoopTemplate.Loop

open LoopTemplate.Grammar (IsName)
open LoopTemplate.Tree (Form Node)

/-! ## Nodes outside of tags -/

/-- A node outside of tags, and what it was rewritten to. -/
def RewroteTo (rules : RewriteRules) (outer : Names) (node result : Node) : Prop :=
  ∃ traces, Expanded rules outer (.place .inner) [node] [result] traces

/-- Nodes are rewritten one by one. -/
theorem Expanded.pointwise {rules : RewriteRules} {outer : Names} {slot : Slot}
    {nodes expanded : List Node} {traces : List Trace}
    (derived : Expanded rules outer slot nodes expanded traces) :
    List.Forall₂ (fun node result => ∃ traces, Expanded rules outer slot [node] [result] traces)
      nodes expanded := by
  induction derived with
  | nil => exact .nil
  | cons head tail headIh tailIh => exact .cons ⟨_, head⟩ tailIh
  | container unmatched inner => exact .cons ⟨_, .container unmatched inner⟩ .nil
  | list matched collection inner rewritten =>
      exact .cons ⟨_, .list matched collection inner rewritten⟩ .nil
  | element head tail => exact .cons ⟨_, .element head tail⟩ .nil
  | fragment inner => exact .cons ⟨_, .fragment inner⟩ .nil
  | plain plain unbraced inner => exact .cons ⟨_, .plain plain unbraced inner⟩ .nil
  | parenthesized inner => exact .cons ⟨_, .parenthesized inner⟩ .nil
  | member inner => exact .cons ⟨_, .member inner⟩ .nil
  | kept notParenthesized notMember => exact .cons ⟨_, .kept notParenthesized notMember⟩ .nil

namespace RewroteTo

variable {rules : RewriteRules} {outer : Names} {node result : Node}

theorem form_eq (rewrote : RewroteTo rules outer node result) : result.form = node.form := by
  obtain ⟨traces, derived⟩ := rewrote
  simpa using derived.map_form rfl

theorem parts (rewrote : RewroteTo rules outer node result) (notElement : node.form ≠ .element)
    (notFragment : node.form ≠ .fragment) :
    List.Forall₂ (RewroteTo rules outer) node.parts result.parts := by
  obtain ⟨traces, derived⟩ := rewrote
  cases derived with
  | element => exact absurd rfl notElement
  | fragment => exact absurd rfl notFragment
  | plain plain unbraced inner => exact inner.pointwise

theorem withoutParentheses (rewrote : RewroteTo rules outer node result) :
    RewroteTo rules outer node.withoutParentheses result.withoutParentheses := by
  fun_induction Node.withoutParentheses node generalizing result with
  | case1 start inner ih =>
      have partsRewrote := rewrote.parts (by simp) (by simp)
      have form_eq := rewrote.form_eq
      obtain ⟨resultStart, form, parts⟩ := result
      cases form_eq
      obtain ⟨value, rest, valueRewrote, restRewrote, rfl⟩ :=
        List.forall₂_cons_left_iff.1 partsRewrote
      obtain rfl := List.forall₂_nil_left_iff.1 restRewrote
      simpa only [Node.withoutParentheses] using ih valueRewrote
  | case2 node other =>
      have kept : result.withoutParentheses = result := by
        rw [Node.withoutParentheses]
        rintro start inner rfl
        have form_eq := rewrote.form_eq
        obtain ⟨nodeStart, form, parts⟩ := node
        cases form_eq
        have length_eq := (rewrote.parts (by simp) (by simp)).length_eq
        obtain ⟨value, rfl⟩ := List.length_eq_one_iff.1 length_eq
        exact other nodeStart value rfl
      rwa [kept]

theorem isMarkup_eq (rewrote : RewroteTo rules outer node result) :
    isMarkup result = isMarkup node := by
  rw [isMarkup, isMarkup, rewrote.withoutParentheses.form_eq]

theorem isMapCallee_eq (rewrote : RewroteTo rules outer node result) :
    isMapCallee result = isMapCallee node := by
  rw [isMapCallee, isMapCallee, rewrote.withoutParentheses.form_eq]

/-- A statement returns markup before a rewrite if it does after it. -/
theorem returned?_eq (rewrote : RewroteTo rules outer node result) :
    (returned? result).any isMarkup = (returned? node).any isMarkup := by
  by_cases isReturn : node.form = .returnStatement
  · have partsRewrote := rewrote.parts (by simp [isReturn]) (by simp [isReturn])
    have form_eq := rewrote.form_eq
    obtain ⟨start, form, parts⟩ := node
    obtain ⟨resultStart, resultForm, resultParts⟩ := result
    cases isReturn
    cases form_eq
    cases partsRewrote with
    | nil => rfl
    | cons valueRewrote rest =>
        cases rest with
        | nil => exact valueRewrote.isMarkup_eq
        | cons => rfl
  · have stays : NoReturn result := by
      rw [NoReturn, rewrote.form_eq]
      exact isReturn
    rw [returned?_eq_none isReturn, returned?_eq_none stays]

end RewroteTo

/-! ## Returns -/

/-- A node has no fewer returns than another of its form, if its parts have not. -/
theorem countAllReturns_mono {start : Nat} {form : Form} {parts others : List Node}
    (fewer : countAllReturns parts ≤ countAllReturns others) :
    countAllReturns [.mk start form parts] ≤ countAllReturns [.mk start form others] := by
  cases form <;> simp [countAllReturns, countReturns, fewer]

theorem countReturns_withoutParentheses (node : Node) :
    countReturns node.withoutParentheses = countReturns node := by
  fun_induction Node.withoutParentheses node with
  | case1 start inner ih => simp [countReturns, countAllReturns, ih]
  | case2 node other => rfl

/-- The returns in a callback are not those of a call. -/
theorem countReturns_call (mapping : Mapping) (callee parameters body : Node) :
    countReturns (mapping.call callee parameters body) = countReturns callee := by
  obtain ⟨start, optional, pure, closing, callbackStart, form, lead, callable⟩ := mapping
  cases callable <;> simp [Mapping.call, Mapping.callback, countReturns, countAllReturns]

section Returns

variable {rules : RewriteRules} {outer : Names} {value callee body wrapper : Node}
  {iteration : Iteration} {list : MatchedList value iteration} {inside : List Trace} {frame : Frame}

/-- The loop of a list has the returns of the collection, and those of the markup. -/
theorem RewrittenList.countReturns_le
    (rewritten : RewrittenList rules outer list callee body inside frame wrapper)
    (only : frame.Only IsName) : countReturns callee ≤ countReturns wrapper := by
  obtain ⟨outer, first, firstInner, second, secondInner, third, thirdInner, wrapper_eq⟩ :=
    loopElement_of_loopWrapper only.item only.index rewritten.wrapped
  rw [wrapper_eq]
  simp only [loopElement, Grammar.quotedAttribute, countReturns, countAllReturns, countReturns_call]
  omega

variable {slot : Slot} {nodes expanded : List Node} {traces : List Trace}

/-- A rewrite makes no `return` disappear. -/
theorem Expanded.countAllReturns_le (derived : Expanded rules outer slot nodes expanded traces)
    (around : ∀ name ∈ outer, IsName name)
    (declared : Node.Everywhere (DeclaresOnly IsName) nodes) :
    countAllReturns nodes ≤ countAllReturns expanded := by
  induction derived with
  | nil => exact Nat.le_refl _
  | cons head tail headIh tailIh =>
      obtain ⟨headDeclared, tailDeclared⟩ := Node.everywhere_cons.1 declared
      have headFewer := headIh around headDeclared
      have tailFewer := tailIh around tailDeclared
      simp only [countAllReturns] at headFewer tailFewer ⊢
      omega
  | @list outer start value callee body wrapper iteration list before inside frame matched
      collection inner rewritten collectionIh innerIh =>
      obtain ⟨only, -⟩ := names_of_list matched collection inner rewritten declared around
      obtain ⟨calleeDeclared, -, -⟩ := list.everywhere (Node.everywhere_mk.1 declared).2
      have calleeFewer := collectionIh around calleeDeclared
      have wrapperMore := rewritten.countReturns_le only
      have value_eq : countReturns value = countReturns list.callee := by
        rw [← countReturns_withoutParentheses, list.shape_body, countReturns_call]
      simp only [countAllReturns, countReturns] at calleeFewer ⊢
      omega
  | element head tail headIh tailIh =>
      obtain ⟨headDeclared, tailDeclared⟩ :=
        Node.everywhere_cons.1 (Node.everywhere_mk.1 declared).2
      have headFewer := headIh around headDeclared
      have tailFewer := tailIh around tailDeclared
      simp only [countAllReturns, countReturns] at headFewer tailFewer ⊢
      omega
  | container unmatched inner ih | fragment inner ih | plain plain unbraced inner ih
  | parenthesized inner ih | member inner ih =>
      exact countAllReturns_mono (ih around (Node.everywhere_mk.1 declared).2)
  | kept notParenthesized notMember => exact Nat.le_refl _

end Returns

/-! ## Mapped lists -/

theorem parameterName?_congr (start : Nat) (form : Form) {parts others : List Node}
    (same : parts.map Node.form = others.map Node.form) :
    parameterName? (.mk start form parts) = parameterName? (.mk start form others) := by
  cases form with
  | parameter =>
      cases parts with
      | nil =>
          obtain rfl : others = [] := by simpa using same.symm
          rfl
      | cons part parts =>
          cases others with
          | nil => cases same
          | cons other others =>
              obtain ⟨partStart, partForm, inner⟩ := part
              obtain ⟨otherStart, otherForm, otherInner⟩ := other
              simp only [List.map_cons, Node.form_mk, List.cons.injEq] at same
              obtain ⟨rfl, -⟩ := same
              cases partForm <;> rfl
  | _ => rfl

section Lists

variable {rules : RewriteRules} {outer : Names} {slot : Slot} {nodes expanded : List Node}
  {traces : List Trace} {node result : Node}

/-- A rewrite keeps the names of parameters. -/
theorem Expanded.map_parameterName? (derived : Expanded rules outer slot nodes expanded traces) :
    expanded.map parameterName? = nodes.map parameterName? := by
  induction derived with
  | nil => rfl
  | cons head tail headIh tailIh =>
      rw [List.map_cons, List.map_cons, tailIh]
      exact congrArg (· ++ _) headIh
  | @list outer start value callee body wrapper iteration list before inside frame matched
      collection inner rewritten =>
      have element := (parts_of_loopWrapper rewritten.wrapped).1
      obtain ⟨wrapperStart, form, parts⟩ := wrapper
      cases element
      rfl
  | plain plain unbraced inner =>
      rw [List.map_singleton, List.map_singleton, parameterName?_congr _ _ (inner.map_form rfl)]
  | container | element | fragment | parenthesized | member | kept => rfl

theorem parameterNames?_congr {parameters others : Node}
    (same : parameters.parts.map parameterName? = others.parts.map parameterName?) :
    parameterNames? parameters = parameterNames? others := by
  have length_eq : parameters.parts.length = others.parts.length := by
    simpa using congrArg List.length same
  have mapM_eq : ∀ parts : List Node, parts.mapM parameterName? =
      (parts.map parameterName?).mapM id := fun parts => by rw [List.mapM_map]; rfl
  rw [parameterNames?, parameterNames?, mapM_eq, mapM_eq others.parts, same, length_eq]

theorem RewroteTo.parameterNames?_eq (rewrote : RewroteTo rules outer node result) :
    parameterNames? result = parameterNames? node := by
  obtain ⟨traces, derived⟩ := rewrote
  apply parameterNames?_congr
  cases derived with
  | element head tail =>
      have headSame := head.map_parameterName?
      simp only [List.map_singleton, List.cons.injEq, and_true] at headSame
      simp only [Node.parts_mk, List.map_cons, headSame, tail.map_parameterName?]
  | fragment inner | plain plain unbraced inner => exact inner.map_parameterName?

/-- A callback was a callback before a rewrite. -/
theorem RewroteTo.callback? (rewrote : RewroteTo rules outer node result) {parameters body : Node}
    (found : callback? result = some (parameters, body)) :
    ∃ oldParameters oldBody, Loop.callback? node = some (oldParameters, oldBody) ∧
      RewroteTo rules outer oldParameters parameters ∧ RewroteTo rules outer oldBody body := by
  obtain ⟨start, form, lead, callable, rfl⟩ := callable_of_callback? found
  have form_eq := rewrote.form_eq
  obtain ⟨nodeStart, nodeForm, parts⟩ := node
  cases form_eq
  cases callable with
  | arrow head sync =>
      obtain ⟨async, wrapped, effectFree⟩ := head
      cases sync
      obtain ⟨oldParameters, rest, parametersRewrote, restRewrote, rfl⟩ :=
        List.forall₂_cons_right_iff.1 (rewrote.parts (by simp) (by simp))
      obtain ⟨oldBody, rest, bodyRewrote, noneRewrote, rfl⟩ :=
        List.forall₂_cons_right_iff.1 restRewrote
      obtain rfl := List.forall₂_nil_right_iff.1 noneRewrote
      exact ⟨oldParameters, oldBody, rfl, parametersRewrote, bodyRewrote⟩
  | function head name sync single =>
      obtain ⟨expression, async, generator, wrapped, effectFree⟩ := head
      cases sync
      cases single
      obtain ⟨oldName, rest, -, restRewrote, rfl⟩ :=
        List.forall₂_cons_right_iff.1 (rewrote.parts (by simp) (by simp))
      obtain ⟨oldParameters, rest, parametersRewrote, lastRewrote, rfl⟩ :=
        List.forall₂_cons_right_iff.1 restRewrote
      obtain ⟨oldBody, rest, bodyRewrote, noneRewrote, rfl⟩ :=
        List.forall₂_cons_right_iff.1 lastRewrote
      obtain rfl := List.forall₂_nil_right_iff.1 noneRewrote
      exact ⟨oldParameters, oldBody, rfl, parametersRewrote, bodyRewrote⟩

/-- Statements that return markup after a rewrite did so before it. -/
theorem returnsMarkup_of_expanded {statements : List Node}
    (derived : Expanded rules outer (.place .inner) statements expanded traces)
    (around : ∀ name ∈ outer, IsName name)
    (declared : Node.Everywhere (DeclaresOnly IsName) statements)
    (returns : returnsMarkup expanded = true) : returnsMarkup statements = true := by
  have same : ∀ {before after : List Node}, List.Forall₂ (RewroteTo rules outer) before after →
      (after.any fun statement => (returned? statement).any isMarkup) =
        before.any fun statement => (returned? statement).any isMarkup := by
    intro before after rewrote
    induction rewrote with
    | nil => rfl
    | cons head tail ih => rw [List.any_cons, List.any_cons, head.returned?_eq, ih]
  have fewer := derived.countAllReturns_le around declared
  rw [returnsMarkup, Bool.and_eq_true, beq_iff_eq] at returns ⊢
  obtain ⟨one, found⟩ := returns
  rw [same derived.pointwise] at found
  refine ⟨?_, found⟩
  have some : countAllReturns statements ≠ 0 := by
    intro none
    obtain ⟨statement, member, markup⟩ := List.any_eq_true.1 found
    rw [returned?_eq_none (noReturn_of_countAllReturns none statement member)] at markup
    cases markup
  omega

theorem bodyShape?_of_noBody (noBody : NoBody node) :
    bodyShape? node = if isMarkup node then some .expression else none := by
  obtain ⟨start, form, parts⟩ := node
  rw [bodyShape?]
  rintro _ closing _ same
  cases same
  exact noBody closing rfl

/-- A body that renders markup after a rewrite did so before it. -/
theorem RewroteTo.bodyShape? (rewrote : RewroteTo rules outer node result)
    (around : ∀ name ∈ outer, IsName name)
    (declared : Node.Everywhere (DeclaresOnly IsName) [node]) {shape : BodyShape}
    (found : bodyShape? result = some shape) : Loop.bodyShape? node = some shape := by
  by_cases isBody : ∃ closing, node.form = .body closing
  · obtain ⟨closing, form_eq⟩ := isBody
    obtain ⟨start, form, statements⟩ := node
    cases form_eq
    obtain ⟨traces, derived⟩ := rewrote
    cases derived with
    | plain plain unbraced inner =>
        rw [Loop.bodyShape?] at found ⊢
        split at found
        case isTrue returns =>
          rw [if_pos (returnsMarkup_of_expanded inner around (Node.everywhere_mk.1 declared).2
            returns)]
          exact found
        case isFalse => cases found
  · have noBody : NoBody node := fun closing form_eq => isBody ⟨closing, form_eq⟩
    have resultNoBody : NoBody result := fun closing => rewrote.form_eq ▸ noBody closing
    rwa [bodyShape?_of_noBody resultNoBody, rewrote.isMarkup_eq,
      ← bodyShape?_of_noBody noBody] at found

theorem mem_nodes_of_callback? {callback parameters body : Node}
    (found : callback? callback = some (parameters, body)) : body ∈ callback.nodes := by
  obtain ⟨start, form, lead, -, rfl⟩ := callable_of_callback? found
  exact Node.mem_nodes_of_part (by simp) (Node.mem_nodes_self body)

/-- A mapped list outside of tags was one before a rewrite. -/
theorem RewroteTo.iteration? (rewrote : RewroteTo rules outer node result)
    (around : ∀ name ∈ outer, IsName name)
    (declared : Node.Everywhere (DeclaresOnly IsName) [node]) {iteration : Iteration}
    (found : iteration? result = some iteration) : Loop.iteration? node = some iteration := by
  have opened := rewrote.withoutParentheses
  have openedDeclared : Node.Everywhere (DeclaresOnly IsName) [node.withoutParentheses] :=
    declared.of_mem (Node.mem_nodes_of_withoutParentheses (Node.mem_nodes_self _))
  rw [Loop.iteration?] at found ⊢
  generalize node.withoutParentheses = inner at opened openedDeclared ⊢
  split at found
  case h_2 => cases found
  case h_1 start optional pure closing callee argument shape =>
    rw [shape] at opened
    have form_eq := opened.form_eq
    obtain ⟨innerStart, form, parts⟩ := inner
    cases form_eq
    obtain ⟨oldCallee, rest, calleeRewrote, restRewrote, rfl⟩ :=
      List.forall₂_cons_right_iff.1 (opened.parts (by simp) (by simp))
    obtain ⟨oldArgument, rest, argumentRewrote, noneRewrote, rfl⟩ :=
      List.forall₂_cons_right_iff.1 restRewrote
    obtain rfl := List.forall₂_nil_right_iff.1 noneRewrote
    split at found
    case isFalse => cases found
    case isTrue isMap =>
      simp only [Option.bind_eq_bind, Option.bind_eq_some_iff, Prod.exists] at found
      obtain ⟨parameters, body, called, names, named, shown, rendered, returning⟩ := found
      obtain ⟨oldParameters, oldBody, oldCalled, parametersRewrote, bodyRewrote⟩ :=
        argumentRewrote.callback? called
      have bodyDeclared : Node.Everywhere (DeclaresOnly IsName) [oldBody] := openedDeclared.of_mem
        (Node.mem_nodes_of_part (by simp) (mem_nodes_of_callback? oldCalled))
      rw [calleeRewrote.isMapCallee_eq] at isMap
      rw [parametersRewrote.parameterNames?_eq] at named
      simp only [isMap, oldCalled, named, bodyRewrote.bodyShape? around bodyDeclared rendered,
        Option.bind_eq_bind, Option.bind_some, if_true]
      exact returning

end Lists

/-! ## Settled trees -/

/-- Whether no mapped list is between the tags of a node. -/
def Settled (node : Node) : Prop := ∀ child ∈ childrenOf node, isMatched child = false

theorem settled_of_form {start : Nat} {form : Form} {parts : List Node}
    (notElement : form ≠ .element)
    (notFragment : form ≠ .fragment) : Settled (.mk start form parts) := by
  intro child member
  unfold childrenOf at member
  split at member
  case h_1 same =>
    cases same
    exact absurd rfl notElement
  case h_2 same =>
    cases same
    exact absurd rfl notFragment
  case h_3 => cases member

theorem settled_scaffold (start : Nat) (form : Form) (parts : List Node)
    (scaffold : isScaffold form = true) : Settled (.mk start form parts) := by
  apply settled_of_form
  · rintro rfl
    cases scaffold
  · rintro rfl
    cases scaffold

/-- Nodes without elements and fragments are settled. -/
theorem everywhere_settled {nodes : List Node}
    (plain : Node.Everywhere (fun node => node.form ≠ .element ∧ node.form ≠ .fragment) nodes) :
    Node.Everywhere Settled nodes := by
  intro node member
  obtain ⟨notElement, notFragment⟩ := plain node member
  obtain ⟨start, form, parts⟩ := node
  exact settled_of_form notElement notFragment

theorem isMatched_of_form {node : Node} (other : node.form ≠ .container) :
    isMatched node = false := by
  unfold isMatched
  split
  case h_1 => exact absurd rfl other
  case h_2 => rfl

theorem settled_plainParameters {parameters : Node} (plain : PlainParameters parameters) :
    Node.Everywhere Settled [parameters] := by
  obtain ⟨start, parts, rfl, plain⟩ := plain
  refine Node.everywhere_mk.2 ⟨settled_of_form (by simp) (by simp), everywhere_settled ?_⟩
  intro node member
  obtain ⟨parameter, among, inside⟩ := Node.mem_allNodes.1 member
  obtain ⟨name, parameterStart, bindingStart, rfl⟩ := plain parameter among
  simp only [Node.mem_nodes_mk, List.mem_singleton, exists_eq_left, List.not_mem_nil, false_and,
    exists_false, or_false] at inside
  rcases inside with rfl | rfl <;> simp

theorem settled_lead {lead : List Node} (plain : ∀ name ∈ lead, isOptionalName name = true) :
    Node.Everywhere Settled lead := by
  apply everywhere_settled
  intro node member
  obtain ⟨name, among, inside⟩ := Node.mem_allNodes.1 member
  have named := plain name among
  unfold isOptionalName at named
  split at named
  case h_1 | h_2 =>
    obtain rfl : node = _ := by simpa [Node.mem_nodes_mk] using inside
    simp
  case h_3 => cases named

section Settled

variable {rules : RewriteRules} {outer : Names} {Good : Node → Prop}

/-- The loop of a list holds no mapped list between tags, if its collection and its body hold
none. -/
theorem RewrittenList.settled {start : Nat} {value callee body wrapper : Node}
    {iteration : Iteration} {list : MatchedList value iteration} {inside : List Trace}
    {frame : Frame} (rewritten : RewrittenList rules outer list callee body inside frame wrapper)
    (suits : Suits Good (.place .child) [.mk start .container [value]])
    (matched : iteration? value = some iteration) (only : frame.Only IsName)
    (calleeSettled : Node.Everywhere Settled [callee])
    (bodySettled : Node.Everywhere Settled [body]) : Node.Everywhere Settled [wrapper] := by
  obtain ⟨leadPlain, rewritable, form_eq, alone⟩ := suits.callback list matched
  have parametersPlain := plainParameters_of_spellParameters rewritable form_eq alone
    (rewritten.item_eq ▸ only.item) (rewritten.index_eq ▸ only.index) rewritten.spelled
  have objectSettled : Node.Everywhere Settled [rewritten.object] :=
    everywhere_handsOver (handsOver_of_captureObject only.captures rewritten.handed)
      (fun _ _ => settled_of_form (by simp) (by simp))
      (fun _ _ => settled_of_form (by simp) (by simp))
      (fun _ _ => settled_of_form (by simp) (by simp))
      fun _ _ _ => settled_of_form (by simp) (by simp)
  have own : Settled wrapper := by
    obtain ⟨outer, first, firstInner, second, secondInner, third, thirdInner, wrapper_eq⟩ :=
      loopElement_of_loopWrapper only.item only.index rewritten.wrapped
    rw [wrapper_eq]
    intro child member
    rw [List.mem_singleton.1 member]
    apply isMatched_of_form
    rcases form_of_isMarkup rewritten.markup with form_eq | form_eq <;> simp [form_eq]
  exact rewritten.everywhere settled_scaffold only own (settled_lead leadPlain) calleeSettled
    (settled_plainParameters parametersPlain) bodySettled objectSettled

/-- A rewrite leaves no mapped list between tags. -/
theorem Expanded.settled {slot : Slot} {nodes expanded : List Node} {traces : List Trace}
    (derived : Expanded rules outer slot nodes expanded traces) (suits : Suits Good slot nodes)
    (around : ∀ name ∈ outer, IsName name) :
    Node.Everywhere Settled expanded ∧
      (slot = .place .child → ∀ node ∈ expanded, isMatched node = false) := by
  induction derived with
  | nil => exact ⟨Node.everywhere_nil, by simp⟩
  | cons head tail headIh tailIh =>
      obtain ⟨headSuits, tailSuits⟩ := suits.cons
      obtain ⟨headSettled, headUnmatched⟩ := headIh headSuits around
      obtain ⟨tailSettled, tailUnmatched⟩ := tailIh tailSuits around
      refine ⟨Node.everywhere_cons.2 ⟨headSettled, tailSettled⟩, fun at_child node member => ?_⟩
      rcases List.mem_cons.1 member with rfl | later
      · exact headUnmatched at_child _ List.mem_cons_self
      · exact tailUnmatched at_child node later
  | @container outer start value expanded traces unmatched inner ih =>
      obtain ⟨settled, -⟩ := ih suits.parts around
      refine ⟨Node.everywhere_mk.2 ⟨settled_of_form (by simp) (by simp), settled⟩,
        fun _ node member => ?_⟩
      rw [List.mem_singleton.1 member, isMatched]
      cases found : iteration? expanded with
      | none => rfl
      | some iteration =>
          have before := RewroteTo.iteration? ⟨traces, inner⟩ around suits.parts.names found
          rw [unmatched] at before
          cases before
  | @list outer start value callee body wrapper iteration list before inside frame matched
      collection inner rewritten collectionIh innerIh =>
      obtain ⟨calleeSuits, bodySuits⟩ := suits.list list
      obtain ⟨only, bodyAround⟩ :=
        names_of_list matched collection inner rewritten suits.names around
      obtain ⟨calleeSettled, -⟩ := collectionIh calleeSuits around
      obtain ⟨bodySettled, -⟩ := innerIh bodySuits bodyAround
      refine ⟨rewritten.settled suits matched only calleeSettled bodySettled,
        fun _ node member => ?_⟩
      rw [List.mem_singleton.1 member]
      apply isMatched_of_form
      simp [(parts_of_loopWrapper rewritten.wrapped).1]
  | element head tail headIh tailIh =>
      obtain ⟨openingSuits, childrenSuit⟩ := suits.element
      obtain ⟨openingSettled, -⟩ := headIh openingSuits around
      obtain ⟨childrenSettled, unmatched⟩ := tailIh childrenSuit around
      refine ⟨Node.everywhere_mk.2 ⟨unmatched rfl, Node.everywhere_cons.2
        ⟨openingSettled, childrenSettled⟩⟩, fun _ node member => ?_⟩
      rw [List.mem_singleton.1 member]
      rfl
  | fragment inner ih =>
      obtain ⟨childrenSettled, unmatched⟩ := ih suits.fragment around
      refine ⟨Node.everywhere_mk.2 ⟨unmatched rfl, childrenSettled⟩, fun _ node member => ?_⟩
      rw [List.mem_singleton.1 member]
      rfl
  | @plain outer place start form parts expanded traces plain unbraced inner ih =>
      obtain ⟨settled, -⟩ := ih suits.parts around
      refine ⟨Node.everywhere_mk.2 ⟨settled_of_form (suits.notElement plain) plain.notFragment,
        settled⟩, fun at_child node member => ?_⟩
      cases at_child
      rw [List.mem_singleton.1 member]
      have still : Place.child = .child → ∀ value, form = .container → expanded = [value] →
          False := by
        rintro - value rfl rfl
        obtain ⟨part, rfl⟩ := List.length_eq_one_iff.1 inner.length_eq.symm
        exact unbraced rfl part rfl rfl
      simpa using isMatched_of_unbraced still
  | parenthesized inner ih =>
      obtain ⟨settled, -⟩ := ih suits.parenthesized around
      exact ⟨Node.everywhere_mk.2 ⟨settled_of_form (by simp) (by simp), settled⟩, by simp⟩
  | member inner ih =>
      obtain ⟨settled, -⟩ := ih suits.parts around
      exact ⟨Node.everywhere_mk.2 ⟨settled_of_form (by simp) (by simp), settled⟩, by simp⟩
  | kept notParenthesized notMember =>
      obtain ⟨start, name, optional, object, rfl⟩ := suits.member notParenthesized
      exact (notMember start name optional object rfl).elim

end Settled

/-! ## A second rewrite -/

/-- Whether a computation yields the given value and rewrites no list on the way. -/
def Idle {α : Type} (computation : Traced α) (value : α) : Prop :=
  ∃ skips : List Nat, computation.run = .ok (value, skips.map .skipped)

namespace Idle

variable {α β : Type} {value : α} {result : β}

theorem pure (value : α) : Idle (pure value) value := ⟨[], rfl⟩

theorem leave (offset : Nat) : Idle (Traced.leave (.skipped offset)) () := ⟨[offset], rfl⟩

theorem bind {first : Traced α} {later : α → Traced β} (firstIdle : Idle first value)
    (laterIdle : Idle (later value) result) : Idle (first >>= later) result := by
  obtain ⟨before, firstDone⟩ := firstIdle
  obtain ⟨after, laterDone⟩ := laterIdle
  exact ⟨before ++ after, by rw [Traced.bind_of_ok firstDone laterDone, List.map_append]⟩

end Idle

/-- Where no mapped list is between tags, a rewrite changes nothing. -/
theorem idle_of_settled (rules : RewriteRules) :
    (∀ outer place node, Node.Everywhere Settled [node] →
        (place = .child → isMatched node = false) → Idle (expand rules outer place node) node) ∧
      (∀ outer place nodes, Node.Everywhere Settled nodes →
        (place = .child → ∀ node ∈ nodes, isMatched node = false) →
          Idle (expandAll rules outer place nodes) nodes) := by
  apply expansion_induction _ _ fun _ _ => True
  case nil =>
    intro outer place _ _
    rw [expandAll]
    exact Idle.pure []
  case cons =>
    intro outer place node nodes nodeIdle nodesIdle settled unmatched
    obtain ⟨headSettled, tailSettled⟩ := Node.everywhere_cons.1 settled
    rw [expandAll]
    refine (nodeIdle headSettled fun at_child => unmatched at_child node List.mem_cons_self).bind ?_
    exact (nodesIdle tailSettled fun at_child other member =>
      unmatched at_child other (List.mem_cons_of_mem _ member)).bind (Idle.pure _)
  case container =>
    intro outer start value unmatched valueIdle settled _
    have stays : Idle (do return Node.mk start .container [← expand rules outer .inner value])
        (.mk start .container [value]) :=
      (valueIdle (Node.everywhere_mk.1 settled).2 (by simp)).bind (Idle.pure _)
    simp only [expand, unmatched]
    split
    · exact (Idle.leave start).bind stays
    · exact stays
  case list =>
    intro outer start value iteration list matched _ _ _ unmatched
    have none := unmatched rfl
    simp [isMatched, matched] at none
  case element =>
    intro outer place start opening children openingIdle childrenIdle settled _
    obtain ⟨own, partsSettled⟩ := Node.everywhere_mk.1 settled
    obtain ⟨openingSettled, childrenSettled⟩ := Node.everywhere_cons.1 partsSettled
    rw [expand]
    exact (openingIdle openingSettled (by simp)).bind
      ((childrenIdle childrenSettled fun _ => own).bind (Idle.pure _))
  case fragment =>
    intro outer place start children childrenIdle settled _
    obtain ⟨own, childrenSettled⟩ := Node.everywhere_mk.1 settled
    rw [expand]
    exact (childrenIdle childrenSettled fun _ => own).bind (Idle.pure _)
  case plain =>
    intro outer place start form parts plain unbraced partsIdle settled _
    rw [expand_plain plain unbraced]
    exact (partsIdle (Node.everywhere_mk.1 settled).2 (by simp)).bind (Idle.pure _)
  case parenthesized | member | kept => intros; trivial

theorem events_skipped (skips : List Nat) (depth : Nat) :
    Trace.allEvents depth (skips.map .skipped) = skips.map .skipped ∧
      Trace.allLists (skips.map .skipped) = 0 := by
  induction skips with
  | nil => exact ⟨rfl, rfl⟩
  | cons offset skips ih =>
      simp only [List.map_cons, Trace.allEvents, Trace.events, Trace.allLists, Trace.lists, ih,
        List.cons_append, List.nil_append, Nat.add_zero, and_self]

theorem rewrite_of_settled (rules : RewriteRules) {tree : Node}
    (settled : Node.Everywhere Settled [tree]) :
    ∃ skips : List Nat,
      rewrite rules tree = .ok ⟨tree, skips.map .skipped ++ [.finished 0]⟩ := by
  obtain ⟨skips, expansion⟩ := (idle_of_settled rules).1 [] .inner tree settled nofun
  refine ⟨skips, ?_⟩
  rw [rewrite_eq_expand, expansion]
  simp only [Except.map, events_skipped skips 0]

/-- A rewrite rewrites every mapped list: in the result nothing between tags is one. So a second
rewrite, whatever its rules, changes nothing and reports that it rewrote no list. -/
theorem rewrite_leaves_none {rules : RewriteRules} {tree : Node} {rewritten : Rewritten}
    (rewritable : Node.Everywhere Rewritable [tree]) (done : rewrite rules tree = .ok rewritten) :
    (∀ node ∈ rewritten.tree.nodes, ∀ child ∈ childrenOf node, isMatched child = false) ∧
      ∀ again : RewriteRules, ∃ skips : List Nat,
        rewrite again rewritten.tree =
          .ok ⟨rewritten.tree, skips.map .skipped ++ [.finished 0]⟩ := by
  have derived := (expanded_of_expansion rules).1 [] .inner tree rewritten.tree
    (tracesOf rules tree) (expand_of_rewrite done).1
  obtain ⟨settled, -⟩ := derived.settled (Suits.inner rewritable rewritable) nofun
  exact ⟨fun node member => settled node (by simpa using member),
    fun again => rewrite_of_settled again settled⟩

/-- Both lists of a list in a list are rewritten at once. -/
theorem rewrite_leaves_none_rowsOfCells :
    Node.Everywhere Rewritable [rowsOfCells] ∧
      ∃ rewritten, rewrite ⟨.wechat, .flatten⟩ rowsOfCells = .ok rewritten ∧
        (∀ node ∈ rewritten.tree.nodes, ∀ child ∈ childrenOf node, isMatched child = false) ∧
        ∃ skips : List Nat, rewrite ⟨.ali, .scoped⟩ rewritten.tree =
          .ok ⟨rewritten.tree, skips.map .skipped ++ [.finished 0]⟩ := by
  have rewritable : Node.Everywhere Rewritable [rowsOfCells] := by
    unfold Node.Everywhere
    decide +kernel
  obtain ⟨rewritten, _, _, _, _, done, -⟩ := rewrite_rowsOfCells
  obtain ⟨none, again⟩ := rewrite_leaves_none rewritable done
  exact ⟨rewritable, rewritten, done, none, again ⟨.ali, .scoped⟩⟩

end LoopTemplate.Loop
