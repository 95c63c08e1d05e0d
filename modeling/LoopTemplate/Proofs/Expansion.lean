import LoopTemplate.Proofs.Mapping
import LoopTemplate.Proofs.Trace

/-!
# Expansions as derivations

`Expanded` has a rule for each thing that an expansion does, so that what holds of all expansions is
shown rule by rule. The rule for lists says all that is known of a rewritten list: `RewrittenList`.
-/

namespace LoopTemplate.Loop

open LoopTemplate.Tree (Form Node)

/-! ## Taking computations apart -/

namespace Traced

variable {α β : Type}

theorem bind_eq_ok {first : Traced α} {later : α → Traced β} {result : β} {traces : List Trace}
    (done : (first >>= later).run = .ok (result, traces)) :
    ∃ value before after, first.run = .ok (value, before) ∧
      (later value).run = .ok (result, after) ∧ traces = before ++ after := by
  change next first later = _ at done
  unfold next at done
  split at done
  case h_1 => cases done
  case h_2 value before =>
    split at done
    case h_1 => cases done
    case h_2 result after finished =>
      cases done
      exact ⟨value, before, after, rfl, finished, rfl⟩

theorem bind_of_ok {first : Traced α} {later : α → Traced β} {value : α} {result : β}
    {before after : List Trace} (firstDone : first.run = .ok (value, before))
    (laterDone : (later value).run = .ok (result, after)) :
    (first >>= later).run = .ok (result, before ++ after) := by
  change next first later = _
  unfold next
  rw [show first = .ok (value, before) from firstDone]
  dsimp only
  rw [show later value = .ok (result, after) from laterDone]

theorem bind_eq_error {first : Traced α} {later : α → Traced β} {error : RewriteError}
    (failed : (first >>= later).run = .error error) :
    first.run = .error error ∨
      ∃ value before, first.run = .ok (value, before) ∧ (later value).run = .error error := by
  change next first later = _ at failed
  unfold next at failed
  split at failed
  case h_1 =>
    cases failed
    exact .inl rfl
  case h_2 value before =>
    split at failed
    case h_1 finished =>
      cases failed
      exact .inr ⟨value, before, rfl, finished⟩
    case h_2 => cases failed

theorem pure_eq_ok {value result : α} {traces : List Trace}
    (done : (pure value : Traced α).run = .ok (result, traces)) : result = value ∧ traces = [] := by
  cases done
  exact ⟨rfl, rfl⟩

theorem bind_pure_eq_ok {first : Traced α} {finish : α → β} {result : β} {traces : List Trace}
    (done : (first >>= fun value => pure (finish value)).run = .ok (result, traces)) :
    ∃ value, first.run = .ok (value, traces) ∧ result = finish value := by
  obtain ⟨value, before, after, firstDone, returning, rfl⟩ := bind_eq_ok done
  obtain ⟨rfl, rfl⟩ := pure_eq_ok returning
  exact ⟨value, by rw [firstDone, List.append_nil], rfl⟩

theorem bind_pure_eq_error {first : Traced α} {finish : α → β} {error : RewriteError}
    (failed : (first >>= fun value => pure (finish value)).run = .error error) :
    first.run = .error error := by
  rcases bind_eq_error failed with firstFailed | ⟨value, before, firstDone, failed⟩
  · exact firstFailed
  · cases failed

theorem ofExcept_eq_ok {outcome : Except RewriteError α} {value : α} {traces : List Trace}
    (done : (ofExcept outcome).run = .ok (value, traces)) : outcome = .ok value ∧ traces = [] := by
  cases outcome with
  | error error => cases done
  | ok found =>
      cases done
      exact ⟨rfl, rfl⟩

theorem ofExcept_eq_error {outcome : Except RewriteError α} {error : RewriteError}
    (failed : (ofExcept outcome).run = .error error) : outcome = .error error := by
  cases outcome with
  | error other =>
      cases failed
      rfl
  | ok found => cases failed

end Traced

theorem except_bind_eq_ok {ε α β : Type} {first : Except ε α} {later : α → Except ε β} {result : β}
    (done : (first >>= later) = .ok result) :
    ∃ value, first = .ok value ∧ later value = .ok result := by
  cases first with
  | error error => cases done
  | ok value => exact ⟨value, rfl, done⟩

theorem except_bind_of_ok {ε α β : Type} {first : Except ε α} {later : α → Except ε β} {value : α}
    (done : first = .ok value) : (first >>= later) = later value := by
  rw [done]
  rfl

theorem except_bind_eq_error {ε α β : Type} {first : Except ε α} {later : α → Except ε β}
    {error : ε} (failed : (first >>= later) = .error error) :
    first = .error error ∨ ∃ value, first = .ok value ∧ later value = .error error := by
  cases first with
  | error other =>
      cases failed
      exact .inl rfl
  | ok value => exact .inr ⟨value, rfl, failed⟩

/-! ## Expansions keep the outside of a node -/

/-- Whether the parts of a node are not children between tags. -/
structure Plain (form : Form) (parts : List Node) : Prop where
  notElement : ∀ opening children, form = .element → parts = opening :: children → False
  notFragment : form = .fragment → False

theorem noReturn_of_forms {statements others : List Node}
    (forms : others.map Node.form = statements.map Node.form)
    (clear : ∀ statement ∈ statements, NoReturn statement) :
    ∀ statement ∈ others, NoReturn statement := by
  intro other member isReturn
  have inside : Form.returnStatement ∈ statements.map Node.form :=
    forms ▸ List.mem_map.2 ⟨other, member, isReturn⟩
  obtain ⟨statement, among, isReturn⟩ := List.mem_map.1 inside
  exact clear statement among isReturn

section Outside

variable {rules : RewriteRules} {outer : Names}

theorem expandAll_cons_eq_ok {place : Place} {node : Node} {nodes expanded : List Node}
    {traces : List Trace}
    (done : (expandAll rules outer place (node :: nodes)).run = .ok (expanded, traces)) :
    ∃ first rest before after, (expand rules outer place node).run = .ok (first, before) ∧
      (expandAll rules outer place nodes).run = .ok (rest, after) ∧ expanded = first :: rest ∧
      traces = before ++ after := by
  rw [expandAll] at done
  obtain ⟨first, before, after, firstDone, entering, rfl⟩ := Traced.bind_eq_ok done
  obtain ⟨rest, restDone, rfl⟩ := Traced.bind_pure_eq_ok entering
  exact ⟨first, rest, before, after, firstDone, restDone, rfl, rfl⟩

theorem expand_element_eq_ok {place : Place} {start : Nat} {opening expanded : Node}
    {children : List Node} {traces : List Trace}
    (done : (expand rules outer place (.mk start .element (opening :: children))).run =
      .ok (expanded, traces)) :
    ∃ first rest before after, (expand rules outer .inner opening).run = .ok (first, before) ∧
      (expandAll rules outer .child children).run = .ok (rest, after) ∧
      expanded = .mk start .element (first :: rest) ∧ traces = before ++ after := by
  rw [expand] at done
  obtain ⟨first, before, after, firstDone, entering, rfl⟩ := Traced.bind_eq_ok done
  obtain ⟨rest, restDone, rfl⟩ := Traced.bind_pure_eq_ok entering
  exact ⟨first, rest, before, after, firstDone, restDone, rfl, rfl⟩

theorem expand_fragment_eq_ok {place : Place} {start : Nat} {expanded : Node} {children : List Node}
    {traces : List Trace}
    (done : (expand rules outer place (.mk start .fragment children)).run =
      .ok (expanded, traces)) :
    ∃ rest, (expandAll rules outer .child children).run = .ok (rest, traces) ∧
      expanded = .mk start .fragment rest := by
  rw [expand] at done
  exact Traced.bind_pure_eq_ok done

/-- Of a node without children only the parts are expanded, unless it is braces between tags. -/
theorem expand_plain {place : Place} {start : Nat} {form : Form} {parts : List Node}
    (plain : Plain form parts)
    (unbraced : place = .child → ∀ value, form = .container → parts = [value] → False) :
    expand rules outer place (.mk start form parts) = do
      return .mk start form (← expandAll rules outer .inner parts) := by
  by_cases braced : form = .container ∧ ∃ value, parts = [value]
  · obtain ⟨rfl, value, rfl⟩ := braced
    cases place with
    | child => exact absurd rfl (unbraced rfl value rfl)
    | inner =>
        simp only [expand, expandAll]
        cases expand rules outer .inner value with
        | error error => rfl
        | ok result =>
            simp only [bind, Traced.next, pure, List.append_nil]
            rfl
  · rw [expand]
    · rintro value rfl rfl
      exact braced ⟨rfl, value, rfl⟩
    · exact plain.notElement
    · exact plain.notFragment

theorem expand_plain_eq_ok {place : Place} {start : Nat} {form : Form} {parts : List Node}
    {expanded : Node} {traces : List Trace}
    (done : (expand rules outer place (.mk start form parts)).run = .ok (expanded, traces))
    (plain : Plain form parts)
    (unbraced : place = .child → ∀ value, form = .container → parts = [value] → False) :
    ∃ expandedParts, (expandAll rules outer .inner parts).run = .ok (expandedParts, traces) ∧
      expanded = .mk start form expandedParts := by
  rw [expand_plain plain unbraced] at done
  exact Traced.bind_pure_eq_ok done

/-- Outside of tags an expansion keeps what a node is. -/
theorem form_of_expand {node expanded : Node} {traces : List Trace}
    (done : (expand rules outer .inner node).run = .ok (expanded, traces)) :
    expanded.form = node.form := by
  fun_cases expand rules outer .inner node with
  | case5 place start opening children =>
      obtain ⟨first, rest, before, after, -, -, rfl, rfl⟩ := expand_element_eq_ok done
      rfl
  | case6 place start children =>
      obtain ⟨rest, -, rfl⟩ := expand_fragment_eq_ok done
      rfl
  | case7 place start form parts notContainer notElement notFragment =>
      obtain ⟨parts, -, rfl⟩ := expand_plain_eq_ok done ⟨notElement, notFragment⟩ nofun
      rfl
  | _ =>
      obtain ⟨parts, -, rfl⟩ := expand_plain_eq_ok done ⟨nofun, nofun⟩ nofun
      rfl

/-- Nodes outside of tags keep their forms. -/
theorem map_form_of_expandAll {nodes expanded : List Node} {traces : List Trace}
    (done : (expandAll rules outer .inner nodes).run = .ok (expanded, traces)) :
    expanded.map Node.form = nodes.map Node.form := by
  induction nodes generalizing expanded traces with
  | nil =>
      rw [expandAll] at done
      obtain ⟨rfl, -⟩ := Traced.pure_eq_ok done
      rfl
  | cons node nodes ih =>
      obtain ⟨first, rest, before, after, firstDone, restDone, rfl, rfl⟩ :=
        expandAll_cons_eq_ok done
      simp only [List.map_cons, ih restDone, form_of_expand firstDone]

/-- Outside of tags, nodes before and after a node keep their forms, and the node is expanded. -/
theorem split_of_expandAll {before after expanded : List Node} {node : Node} {traces : List Trace}
    (done : (expandAll rules outer .inner (before ++ node :: after)).run = .ok (expanded, traces)) :
    ∃ expandedBefore first expandedAfter inside,
      expanded = expandedBefore ++ first :: expandedAfter ∧
      expandedBefore.map Node.form = before.map Node.form ∧
      (expand rules outer .inner node).run = .ok (first, inside) ∧
      expandedAfter.map Node.form = after.map Node.form := by
  induction before generalizing expanded traces with
  | nil =>
      obtain ⟨first, rest, inside, later, firstDone, restDone, rfl, rfl⟩ :=
        expandAll_cons_eq_ok done
      exact ⟨[], first, rest, inside, rfl, rfl, firstDone, map_form_of_expandAll restDone⟩
  | cons statement before ih =>
      obtain ⟨head, rest, early, later, headDone, restDone, rfl, rfl⟩ := expandAll_cons_eq_ok done
      obtain ⟨expandedBefore, first, expandedAfter, inside, rfl, beforeForms, firstDone,
        afterForms⟩ := ih restDone
      refine ⟨head :: expandedBefore, first, expandedAfter, inside, rfl, ?_, firstDone, afterForms⟩
      simp only [List.map_cons, form_of_expand headDone, beforeForms]

/-- Outside of tags an expansion of markup is markup. -/
theorem isMarkup_of_expand {node expanded : Node} {traces : List Trace}
    (done : (expand rules outer .inner node).run = .ok (expanded, traces))
    (markup : isMarkup node = true) : isMarkup expanded = true := by
  fun_induction Node.withoutParentheses node generalizing expanded traces with
  | case1 start inner ih =>
      obtain ⟨parts, partsDone, rfl⟩ :=
        expand_plain_eq_ok done ⟨by simp, by simp⟩ (by simp)
      obtain ⟨first, rest, before, after, firstDone, restDone, rfl, -⟩ :=
        expandAll_cons_eq_ok partsDone
      have restForms := map_form_of_expandAll restDone
      obtain rfl : rest = [] := by simpa using restForms
      rw [isMarkup, Node.withoutParentheses] at markup ⊢
      exact ih firstDone markup
  | case2 node other =>
      have form_eq := form_of_isMarkup markup
      rw [Node.withoutParentheses, ← form_of_expand done] at form_eq
      · exact isMarkup_of_form form_eq
      · exact other

/-- A rewritten body has its result at the same place. -/
theorem context_of_expand {context : BodyContext} {result body : Node} {traces : List Trace}
    (markup : isMarkup result = true)
    (done : (expand rules outer .inner (context.fill result)).run = .ok (body, traces)) :
    ∃ (expandedContext : BodyContext) (expanded : Node), body = expandedContext.fill expanded ∧
      expandedContext.outline = context.outline ∧ isMarkup expanded = true := by
  cases context with
  | whole => exact ⟨.whole, body, rfl, rfl, isMarkup_of_expand done markup⟩
  | block start closing before returnStart after beforeClear afterClear =>
      obtain ⟨statements, statementsDone, rfl⟩ :=
        expand_plain_eq_ok done ⟨nofun, nofun⟩ nofun
      obtain ⟨expandedBefore, statement, expandedAfter, inside, rfl, beforeForms, statementDone,
        afterForms⟩ := split_of_expandAll statementsDone
      obtain ⟨parts, partsDone, rfl⟩ :=
        expand_plain_eq_ok statementDone ⟨nofun, nofun⟩ nofun
      obtain ⟨expanded, rest, early, later, resultDone, restDone, rfl, -⟩ :=
        expandAll_cons_eq_ok partsDone
      have restForms := map_form_of_expandAll restDone
      obtain rfl : rest = [] := by simpa using restForms
      refine ⟨.block start closing expandedBefore returnStart expandedAfter
        (noReturn_of_forms beforeForms beforeClear) (noReturn_of_forms afterForms afterClear),
        expanded, rfl, ?_, isMarkup_of_expand resultDone markup⟩
      simp only [BodyContext.outline, beforeForms, afterForms]

end Outside

/-! ## Rewritten lists -/

/-- The finished loop of a list in whose body the given things were done. -/
def finishedLoop (rules : RewriteRules) (outer : Names) (iteration : Iteration) (body : Node)
    (inside : List Trace) (markup : Node) : Frame :=
  let frame := (loopOf iteration body).noteAll inside
  { frame with captures := handedNames rules frame outer markup }

/-- What is done in a loop changes none of the names that it binds. -/
theorem Frame.noteAll_own (frame : Frame) (traces : List Trace) :
    (frame.noteAll traces).item = frame.item ∧ (frame.noteAll traces).index = frame.index ∧
      (frame.noteAll traces).locals = frame.locals := by
  induction traces generalizing frame with
  | nil => exact ⟨rfl, rfl, rfl⟩
  | cons trace traces ih =>
      have kept : (frame.note trace).item = frame.item ∧ (frame.note trace).index = frame.index ∧
          (frame.note trace).locals = frame.locals := by
        cases trace <;> exact ⟨rfl, rfl, rfl⟩
      obtain ⟨item, index, locals⟩ := ih (frame.note trace)
      exact ⟨item.trans kept.1, index.trans kept.2.1, locals.trans kept.2.2⟩

theorem Frame.bindings_noteAll (frame : Frame) (traces : List Trace) :
    (frame.noteAll traces).bindings = frame.bindings := by
  obtain ⟨item_eq, index_eq, locals_eq⟩ := frame.noteAll_own traces
  rw [Frame.bindings, Frame.bindings, item_eq, index_eq, locals_eq]

section FinishedLoop

variable (rules : RewriteRules) (outer : Names) (iteration : Iteration) (body : Node)
  (inside : List Trace) (markup : Node)

@[simp] theorem finishedLoop_item :
    (finishedLoop rules outer iteration body inside markup).item = iteration.itemName :=
  ((loopOf iteration body).noteAll_own inside).1

@[simp] theorem finishedLoop_index :
    (finishedLoop rules outer iteration body inside markup).index = iteration.indexName :=
  ((loopOf iteration body).noteAll_own inside).2.1

@[simp] theorem finishedLoop_locals :
    (finishedLoop rules outer iteration body inside markup).locals = declaredNames body :=
  ((loopOf iteration body).noteAll_own inside).2.2

theorem finishedLoop_captures :
    (finishedLoop rules outer iteration body inside markup).captures =
      handedNames rules ((loopOf iteration body).noteAll inside) outer markup := rfl

end FinishedLoop

/-- How a mapped list was rewritten, once its collection and its body were. -/
structure RewrittenList (rules : RewriteRules) (outer : Names) {value : Node}
    {iteration : Iteration}
    (list : MatchedList value iteration) (callee body : Node) (inside : List Trace) (frame : Frame)
    (wrapper : Node) where
  parameters : Node
  context : BodyContext
  result : Node
  object : Node
  spelled : spellParameters iteration list.parameters = .ok parameters
  body_eq : body = context.fill result
  outline_eq : context.outline = list.context.outline
  markup : isMarkup result = true
  frame_eq : frame = finishedLoop rules outer iteration list.body inside result.withoutParentheses
  handed : captureObject frame.captures = .ok object
  wrapped : loopWrapper rules.adapter frame.item frame.index
    (list.mapping.call callee parameters (context.fill object)) result.withoutParentheses =
      .ok wrapper

namespace RewrittenList

variable {rules : RewriteRules} {outer : Names} {value callee body wrapper : Node}
  {iteration : Iteration} {list : MatchedList value iteration} {inside : List Trace} {frame : Frame}
  (rewritten : RewrittenList rules outer list callee body inside frame wrapper)
include rewritten

theorem item_eq : frame.item = iteration.itemName := by rw [rewritten.frame_eq, finishedLoop_item]

theorem index_eq : frame.index = iteration.indexName := by
  rw [rewritten.frame_eq, finishedLoop_index]

theorem locals_eq : frame.locals = declaredNames list.body := by
  rw [rewritten.frame_eq, finishedLoop_locals]

theorem bindings_eq : frame.bindings = (loopOf iteration list.body).bindings := by
  simp only [Frame.bindings, rewritten.item_eq, rewritten.index_eq, rewritten.locals_eq]
  rfl

theorem captures_eq : frame.captures = handedNames rules
    ((loopOf iteration list.body).noteAll inside) outer rewritten.result.withoutParentheses :=
  (congrArg Frame.captures rewritten.frame_eq).trans (finishedLoop_captures ..)

end RewrittenList

section Lists

variable {rules : RewriteRules} {outer : Names} {value : Node} {iteration : Iteration}
  {offset : Nat}

/-- Parentheses around a mapped list are dropped. -/
theorem expandList_of_shape {mapping : Mapping} {callee parameters body : Node}
    (shape : value.withoutParentheses = mapping.call callee parameters body) :
    expandList rules outer iteration offset value = do
      let spelled ← Traced.ofExcept (spellParameters iteration parameters)
      let callee ← expandCallee rules outer callee
      let (rewritten, inside) ← Traced.ofExcept
        (expandCallback rules outer iteration offset spelled (mapping.callback parameters body))
      let call := Node.mk mapping.start (.call mapping.optional mapping.pure mapping.closing)
        [callee, rewritten.callback]
      let wrapper ← Traced.ofExcept (loopWrapper rules.adapter rewritten.frame.item
        rewritten.frame.index call rewritten.markup)
      Traced.leave (.list rewritten.frame wrapper inside)
      return wrapper := by
  fun_induction Node.withoutParentheses value with
  | case1 start inner ih => rw [expandList, ih shape]
  | case2 node other =>
      subst shape
      simp only [Mapping.call, expandList, Mapping.spellCallback_callback]

/-- Arrows and functions are rewritten alike. -/
theorem expandCallback_callback (mapping : Mapping) (spelled parameters body : Node) :
    expandCallback rules outer iteration offset spelled (mapping.callback parameters body) = do
      let frame := loopOf iteration body
      let (body, inside) ← (expand rules (insertNames outer frame.bindings) .inner body).run
      let rewritten ← completeCallback rules offset (frame.noteAll inside) outer body
        (mapping.callback spelled)
      return (rewritten, inside) := by
  obtain ⟨start, optional, pure, closing, callbackStart, form, lead, callable⟩ := mapping
  cases callable with
  | arrow head sync =>
      simp only [Mapping.callback, List.nil_append, expandCallback]
      rfl
  | function head name sync single =>
      simp only [Mapping.callback, List.cons_append, List.nil_append, expandCallback]
      rfl

/-- A callback whose body still has its markup is completed, if the object with its names can be
made. -/
theorem completeCallback_fill (context : BodyContext) {result : Node} (frame : Frame)
    (rebuild : Node → Node) (markup : isMarkup result = true) :
    completeCallback rules offset frame outer (context.fill result) rebuild = do
      let frame :=
        { frame with captures := handedNames rules frame outer result.withoutParentheses }
      let object ← captureObject frame.captures
      return ⟨rebuild (context.fill object), result.withoutParentheses, frame⟩ := by
  have noBody := noBody_of_isMarkup markup
  simp only [completeCallback, context.result?_fill noBody, if_pos markup,
    context.replaceResult_fill _ noBody]

theorem rewritten_of_expandCallback {list : MatchedList value iteration}
    {spelled parameters : Node} {mapping : Mapping} {rewritten : RewrittenCallback}
    {inside : List Trace}
    (done : expandCallback rules outer iteration offset spelled
      (mapping.callback parameters list.body) = .ok (rewritten, inside)) :
    ∃ (context : BodyContext) (result object : Node),
      (expand rules (insertNames outer (loopOf iteration list.body).bindings) .inner
        list.body).run = .ok (context.fill result, inside) ∧
      context.outline = list.context.outline ∧ isMarkup result = true ∧
      captureObject (finishedLoop rules outer iteration list.body inside
        result.withoutParentheses).captures = .ok object ∧
      rewritten = ⟨mapping.callback spelled (context.fill object), result.withoutParentheses,
        finishedLoop rules outer iteration list.body inside result.withoutParentheses⟩ := by
  rw [expandCallback_callback] at done
  obtain ⟨⟨body, inner⟩, bodyDone, completing⟩ := except_bind_eq_ok done
  obtain ⟨completed, completion, returning⟩ := except_bind_eq_ok completing
  cases returning
  obtain ⟨context, result, rfl, outline_eq, markup⟩ := context_of_expand list.markup bodyDone
  rw [completeCallback_fill context _ _ markup] at completion
  obtain ⟨object, handed, returning⟩ := except_bind_eq_ok completion
  cases returning
  exact ⟨context, result, object, bodyDone, outline_eq, markup, handed, rfl⟩

theorem rewritten_of_expandList {list : MatchedList value iteration} {wrapper : Node}
    {traces : List Trace}
    (done : (expandList rules outer iteration offset value).run = .ok (wrapper, traces)) :
    ∃ callee before body inside frame,
      (expandCallee rules outer list.callee).run = .ok (callee, before) ∧
      (expand rules (insertNames outer (loopOf iteration list.body).bindings) .inner
        list.body).run = .ok (body, inside) ∧
      Nonempty (RewrittenList rules outer list callee body inside frame wrapper) ∧
      traces = before ++ [.list frame wrapper inside] := by
  rw [expandList_of_shape list.shape_body] at done
  obtain ⟨parameters, nothing, rest, spelling, collecting, rfl⟩ := Traced.bind_eq_ok done
  obtain ⟨spelled, rfl⟩ := Traced.ofExcept_eq_ok spelling
  obtain ⟨callee, before, later, calleeDone, calling, rfl⟩ := Traced.bind_eq_ok collecting
  obtain ⟨⟨rewritten, inside⟩, nothing, last, called, wrapping, rfl⟩ := Traced.bind_eq_ok calling
  obtain ⟨callbackDone, rfl⟩ := Traced.ofExcept_eq_ok called
  obtain ⟨filled, nothing, reported, filling, reporting, rfl⟩ := Traced.bind_eq_ok wrapping
  obtain ⟨wrapped, rfl⟩ := Traced.ofExcept_eq_ok filling
  cases reporting
  obtain ⟨context, result, object, bodyDone, outline_eq, markup, handed, rfl⟩ :=
    rewritten_of_expandCallback callbackDone
  exact ⟨callee, before, context.fill result, inside, _, calleeDone, bodyDone, ⟨{
    parameters, context, result, object, spelled, outline_eq, markup, handed, wrapped
    body_eq := rfl
    frame_eq := rfl }⟩, rfl⟩

end Lists

/-! ## Derivations -/

/-- Where expanded nodes stand. -/
inductive Slot where
  | place (place : Place)
  /-- In the callee of a mapped list. -/
  | callee

/-- Nodes that stand one after the other, their expansions, and the traces left. The names are those
that the loops around them bind. -/
inductive Expanded (rules : RewriteRules) :
    Names → Slot → List Node → List Node → List Trace → Prop where
  | nil {outer : Names} {slot : Slot} : Expanded rules outer slot [] [] []
  | cons {outer : Names} {slot : Slot} {node first next : Node} {nodes rest : List Node}
      {before after : List Trace} (head : Expanded rules outer slot [node] [first] before)
      (tail : Expanded rules outer slot (next :: nodes) rest after) :
      Expanded rules outer slot (node :: next :: nodes) (first :: rest) (before ++ after)
  /-- Braces between tags that hold no mapped list. -/
  | container {outer : Names} {start : Nat} {value expanded : Node} {traces : List Trace}
      (unmatched : iteration? value = none)
      (inner : Expanded rules outer (.place .inner) [value] [expanded] traces) :
      Expanded rules outer (.place .child) [.mk start .container [value]]
        [.mk start .container [expanded]]
        ((if isMapCall value then [.skipped start] else []) ++ traces)
  /-- Braces between tags that hold a mapped list. -/
  | list {outer : Names} {start : Nat} {value callee body wrapper : Node} {iteration : Iteration}
      {list : MatchedList value iteration} {before inside : List Trace} {frame : Frame}
      (matched : iteration? value = some iteration)
      (collection : Expanded rules outer .callee [list.callee] [callee] before)
      (inner : Expanded rules (insertNames outer (loopOf iteration list.body).bindings)
        (.place .inner) [list.body] [body] inside)
      (rewritten : RewrittenList rules outer list callee body inside frame wrapper) :
      Expanded rules outer (.place .child) [.mk start .container [value]] [wrapper]
        (before ++ [.list frame wrapper inside])
  | element {outer : Names} {place : Place} {start : Nat} {opening first : Node}
      {children rest : List Node} {before after : List Trace}
      (head : Expanded rules outer (.place .inner) [opening] [first] before)
      (tail : Expanded rules outer (.place .child) children rest after) :
      Expanded rules outer (.place place) [.mk start .element (opening :: children)]
        [.mk start .element (first :: rest)] (before ++ after)
  | fragment {outer : Names} {place : Place} {start : Nat} {children expanded : List Node}
      {traces : List Trace}
      (inner : Expanded rules outer (.place .child) children expanded traces) :
      Expanded rules outer (.place place) [.mk start .fragment children]
        [.mk start .fragment expanded] traces
  /-- Anything else. -/
  | plain {outer : Names} {place : Place} {start : Nat} {form : Form} {parts expanded : List Node}
      {traces : List Trace} (plain : Plain form parts)
      (unbraced : place = .child → ∀ value, form = .container → parts = [value] → False)
      (inner : Expanded rules outer (.place .inner) parts expanded traces) :
      Expanded rules outer (.place place) [.mk start form parts] [.mk start form expanded] traces
  | parenthesized {outer : Names} {start : Nat} {callee expanded : Node} {traces : List Trace}
      (inner : Expanded rules outer .callee [callee] [expanded] traces) :
      Expanded rules outer .callee [.mk start .parenthesized [callee]]
        [.mk start .parenthesized [expanded]] traces
  | member {outer : Names} {start : Nat} {name : String} {optional : Bool} {object expanded : Node}
      {traces : List Trace}
      (inner : Expanded rules outer (.place .inner) [object] [expanded] traces) :
      Expanded rules outer .callee [.mk start (.member name optional) [object]]
        [.mk start (.member name optional) [expanded]] traces
  /-- A callee that has no collection. -/
  | kept {outer : Names} {node : Node}
      (notParenthesized : ∀ start inner, node = .mk start .parenthesized [inner] → False)
      (notMember : ∀ start name optional object,
        node = .mk start (.member name optional) [object] → False) :
      Expanded rules outer .callee [node] [node] []

/-- What an expansion does to a node follows from what it does to the nodes that it enters. Of a
mapped list it enters the collection and the body of the callback, where more names are bound. -/
theorem expansion_induction (Holds : Names → Place → Node → Prop)
    (HoldsAll : Names → Place → List Node → Prop) (HoldsCallee : Names → Node → Prop)
    (nil : ∀ outer place, HoldsAll outer place [])
    (cons : ∀ outer place node nodes, Holds outer place node → HoldsAll outer place nodes →
      HoldsAll outer place (node :: nodes))
    (container : ∀ outer start value, iteration? value = none → Holds outer .inner value →
      Holds outer .child (.mk start .container [value]))
    (list : ∀ outer start value iteration (list : MatchedList value iteration),
      iteration? value = some iteration → HoldsCallee outer list.callee →
      Holds (insertNames outer (loopOf iteration list.body).bindings) .inner list.body →
      Holds outer .child (.mk start .container [value]))
    (element : ∀ outer place start opening children, Holds outer .inner opening →
      HoldsAll outer .child children → Holds outer place (.mk start .element (opening :: children)))
    (fragment : ∀ outer place start children, HoldsAll outer .child children →
      Holds outer place (.mk start .fragment children))
    (plain : ∀ outer place start form parts, Plain form parts →
      (place = .child → ∀ value, form = .container → parts = [value] → False) →
      HoldsAll outer .inner parts → Holds outer place (.mk start form parts))
    (parenthesized : ∀ outer start callee, HoldsCallee outer callee →
      HoldsCallee outer (.mk start .parenthesized [callee]))
    (member : ∀ outer start name optional object, Holds outer .inner object →
      HoldsCallee outer (.mk start (.member name optional) [object]))
    (kept : ∀ outer node, (∀ start inner, node = .mk start .parenthesized [inner] → False) →
      (∀ start name optional object, node = .mk start (.member name optional) [object] → False) →
      HoldsCallee outer node) :
    (∀ outer place node, Holds outer place node) ∧
      (∀ outer place nodes, HoldsAll outer place nodes) := by
  -- The recursion runs through the call and its callback, so these carry the same two facts.
  suffices all : (∀ outer place node, Holds outer place node) ∧
      (∀ outer place nodes, HoldsAll outer place nodes) ∧
      (∀ outer iteration (_ : Nat) (node : Node), ∀ (mapping : Mapping) callee parameters body,
        node.withoutParentheses = mapping.call callee parameters body →
          HoldsCallee outer callee ∧
            Holds (insertNames outer (loopOf iteration body).bindings) .inner body) ∧
      (∀ outer iteration (_ : Nat) (_ node : Node), ∀ (mapping : Mapping) parameters body,
        node = mapping.callback parameters body →
          Holds (insertNames outer (loopOf iteration body).bindings) .inner body) ∧
      (∀ outer node, HoldsCallee outer node) from ⟨all.1, all.2.1⟩
  apply expand.mutual_induct (default : RewriteRules)
  case case1 =>
    intro outer start value iteration matched callHolds
    obtain ⟨mapped⟩ := nonempty_of_iteration? matched
    obtain ⟨calleeHolds, bodyHolds⟩ := callHolds _ _ _ _ mapped.shape
    exact list outer start value iteration mapped matched calleeHolds bodyHolds
  case case2 =>
    intro outer start value unmatched _ valueHolds
    exact container outer start value unmatched valueHolds
  case case3 =>
    intro outer start value unmatched _ valueHolds
    exact container outer start value unmatched valueHolds
  case case4 =>
    intro outer start value valueHolds
    exact plain outer .inner start .container [value] ⟨nofun, nofun⟩ nofun
      (cons outer .inner value [] valueHolds (nil outer .inner))
  case case5 =>
    intro outer place start opening children openingHolds childrenHold
    exact element outer place start opening children openingHolds childrenHold
  case case6 =>
    intro outer place start children childrenHold
    exact fragment outer place start children childrenHold
  case case7 =>
    intro outer place start form parts unbraced notElement notFragment partsHold
    exact plain outer place start form parts ⟨notElement, notFragment⟩ (fun _ => unbraced) partsHold
  case case8 =>
    intro outer iteration offset start inner innerHolds
    exact innerHolds
  case case9 =>
    intro outer iteration offset start optional pure closing callee argument calleeHolds
      argumentHolds mapping other parameters body shape
    cases shape
    exact ⟨calleeHolds, argumentHolds default mapping parameters body rfl⟩
  case case10 =>
    intro node outer iteration offset notParenthesized notCall mapping callee parameters body shape
    rw [Node.withoutParentheses] at shape
    · exact absurd shape (notCall _ _ _ _ _ _)
    · exact notParenthesized
  case case11 =>
    intro outer iteration offset spelled start head parameters body frame bodyHolds mapping other
      otherBody same
    obtain ⟨_, _, _, _, _, form, lead, callable⟩ := mapping
    cases callable with
    | arrow head sync =>
        cases same
        exact bodyHolds
    | function head name sync single => cases same
  case case12 =>
    intro outer iteration offset spelled start head name parameters body frame bodyHolds mapping
      other otherBody same
    obtain ⟨_, _, _, _, _, form, lead, callable⟩ := mapping
    cases callable with
    | arrow head sync => cases same
    | function head name sync single =>
        cases same
        exact bodyHolds
  case case13 =>
    intro node outer iteration offset spelled notArrow notFunction mapping parameters body same
    obtain ⟨_, _, _, _, _, form, lead, callable⟩ := mapping
    cases callable with
    | arrow head sync => exact absurd same (notArrow _ _ _ _)
    | function head name sync single => exact absurd same (notFunction _ _ _ _ _)
  case case14 =>
    intro outer start inner innerHolds
    exact parenthesized outer start inner innerHolds
  case case15 =>
    intro outer start name optional object objectHolds
    exact member outer start name optional object objectHolds
  case case16 =>
    intro outer node notParenthesized notMember
    exact kept outer node notParenthesized notMember
  case case17 =>
    intro outer place
    exact nil outer place
  case case18 =>
    intro outer place node nodes nodeHolds nodesHold
    exact cons outer place node nodes nodeHolds nodesHold

/-- Every expansion can be derived. -/
theorem expanded_of_expansion (rules : RewriteRules) :
    (∀ outer place node, ∀ expanded traces,
        (expand rules outer place node).run = .ok (expanded, traces) →
          Expanded rules outer (.place place) [node] [expanded] traces) ∧
      (∀ outer place nodes, ∀ expanded traces,
        (expandAll rules outer place nodes).run = .ok (expanded, traces) →
          Expanded rules outer (.place place) nodes expanded traces) := by
  apply expansion_induction _ _ fun outer node => ∀ expanded traces,
    (expandCallee rules outer node).run = .ok (expanded, traces) →
      Expanded rules outer .callee [node] [expanded] traces
  case nil =>
    intro outer place expanded traces done
    rw [expandAll] at done
    obtain ⟨rfl, rfl⟩ := Traced.pure_eq_ok done
    exact .nil
  case cons =>
    intro outer place node nodes nodeExpands nodesExpand expanded traces done
    obtain ⟨first, rest, before, after, firstDone, restDone, rfl, rfl⟩ := expandAll_cons_eq_ok done
    cases nodes with
    | nil =>
        rw [expandAll] at restDone
        obtain ⟨rfl, rfl⟩ := Traced.pure_eq_ok restDone
        rw [List.append_nil]
        exact nodeExpands _ _ firstDone
    | cons next nodes => exact .cons (nodeExpands _ _ firstDone) (nodesExpand _ _ restDone)
  case container =>
    intro outer start value unmatched valueExpands expanded traces done
    have derived : ∀ inner traces, (expand rules outer .inner value).run = .ok (inner, traces) →
        Expanded rules outer (.place .child) [.mk start .container [value]]
          [.mk start .container [inner]]
          ((if isMapCall value then [.skipped start] else []) ++ traces) :=
      fun _ _ innerDone => .container unmatched (valueExpands _ _ innerDone)
    simp only [expand, unmatched] at done
    by_cases called : isMapCall value = true
    · rw [if_pos called] at done derived
      obtain ⟨_, before, after, leaving, entering, rfl⟩ := Traced.bind_eq_ok done
      obtain ⟨inner, innerDone, rfl⟩ := Traced.bind_pure_eq_ok entering
      cases leaving
      exact derived _ _ innerDone
    · rw [if_neg called] at done derived
      obtain ⟨inner, innerDone, rfl⟩ := Traced.bind_pure_eq_ok done
      exact derived _ _ innerDone
  case list =>
    intro outer start value iteration list matched calleeExpands bodyExpands expanded traces done
    simp only [expand, matched] at done
    obtain ⟨callee, before, body, inside, frame, calleeDone, bodyDone, ⟨rewritten⟩, rfl⟩ :=
      rewritten_of_expandList done
    exact .list matched (calleeExpands _ _ calleeDone) (bodyExpands _ _ bodyDone) rewritten
  case element =>
    intro outer place start opening children openingExpands childrenExpand expanded traces done
    obtain ⟨first, rest, before, after, firstDone, restDone, rfl, rfl⟩ := expand_element_eq_ok done
    exact .element (openingExpands _ _ firstDone) (childrenExpand _ _ restDone)
  case fragment =>
    intro outer place start children childrenExpand expanded traces done
    obtain ⟨rest, restDone, rfl⟩ := expand_fragment_eq_ok done
    exact .fragment (childrenExpand _ _ restDone)
  case plain =>
    intro outer place start form parts plain unbraced partsExpand expanded traces done
    obtain ⟨rest, restDone, rfl⟩ := expand_plain_eq_ok done plain unbraced
    exact .plain plain unbraced (partsExpand _ _ restDone)
  case parenthesized =>
    intro outer start callee calleeExpands expanded traces done
    rw [expandCallee] at done
    obtain ⟨inner, innerDone, rfl⟩ := Traced.bind_pure_eq_ok done
    exact .parenthesized (calleeExpands _ _ innerDone)
  case member =>
    intro outer start name optional object objectExpands expanded traces done
    rw [expandCallee] at done
    obtain ⟨inner, innerDone, rfl⟩ := Traced.bind_pure_eq_ok done
    exact .member (objectExpands _ _ innerDone)
  case kept =>
    intro outer node notParenthesized notMember expanded traces done
    rw [expandCallee] at done
    · obtain ⟨rfl, rfl⟩ := Traced.pure_eq_ok done
      exact .kept notParenthesized notMember
    · exact notParenthesized
    · exact notMember

/-! ## Derivations as runs -/

section Runs

variable {rules : RewriteRules} {outer : Names}

/-- Whether the expansion of nodes at a slot yields the given nodes and traces. -/
def Runs (rules : RewriteRules) (outer : Names) (slot : Slot) (nodes expanded : List Node)
    (traces : List Trace) : Prop :=
  match slot with
  | .place place => (expandAll rules outer place nodes).run = .ok (expanded, traces)
  | .callee => ∀ node result, nodes = [node] → expanded = [result] →
      (expandCallee rules outer node).run = .ok (result, traces)

theorem runs_place {place : Place} {node result : Node} {traces : List Trace} :
    Runs rules outer (.place place) [node] [result] traces ↔
      (expand rules outer place node).run = .ok (result, traces) := by
  constructor
  · intro runs
    obtain ⟨first, rest, before, after, firstDone, restDone, same, rfl⟩ := expandAll_cons_eq_ok runs
    rw [expandAll] at restDone
    obtain ⟨rfl, rfl⟩ := Traced.pure_eq_ok restDone
    cases same
    rw [List.append_nil, firstDone]
  · intro done
    rw [Runs, expandAll, ← List.append_nil traces]
    refine Traced.bind_of_ok done ?_
    rw [expandAll]
    rfl

/-- What a rewritten list says about the pieces makes the expansion of the list. -/
theorem RewrittenList.run_expandList {value callee body wrapper : Node} {iteration : Iteration}
    {list : MatchedList value iteration} {before inside : List Trace} {frame : Frame} {offset : Nat}
    (rewritten : RewrittenList rules outer list callee body inside frame wrapper)
    (calleeDone : (expandCallee rules outer list.callee).run = .ok (callee, before))
    (bodyDone : (expand rules (insertNames outer (loopOf iteration list.body).bindings) .inner
      list.body).run = .ok (body, inside)) :
    (expandList rules outer iteration offset value).run =
      .ok (wrapper, before ++ [.list frame wrapper inside]) := by
  obtain ⟨parameters, context, result, object, spelled, rfl, outline_eq, markup, rfl, handed,
    wrapped⟩ := rewritten
  have completed : completeCallback rules offset ((loopOf iteration list.body).noteAll inside) outer
      (context.fill result) (list.mapping.callback parameters) =
        .ok ⟨list.mapping.callback parameters (context.fill object), result.withoutParentheses,
          finishedLoop rules outer iteration list.body inside result.withoutParentheses⟩ := by
    rw [completeCallback_fill _ _ _ markup]
    exact except_bind_of_ok handed
  have called : expandCallback rules outer iteration offset parameters
      (list.mapping.callback list.parameters list.body) =
        .ok (⟨list.mapping.callback parameters (context.fill object), result.withoutParentheses,
          finishedLoop rules outer iteration list.body inside result.withoutParentheses⟩,
          inside) := by
    rw [expandCallback_callback]
    dsimp only
    rw [except_bind_of_ok bodyDone]
    dsimp only
    rw [except_bind_of_ok completed]
    rfl
  rw [expandList_of_shape list.shape_body, spelled, Traced.ofExcept_ok_bind, called]
  refine Traced.bind_of_ok calleeDone ?_
  rw [Traced.ofExcept_ok_bind]
  dsimp only
  rw [show loopWrapper rules.adapter _ _ (.mk _ _ _) _ = .ok wrapper from wrapped,
    Traced.ofExcept_ok_bind]
  rfl

/-- Every derivation is an expansion. -/
theorem Expanded.runs {slot : Slot} {nodes expanded : List Node} {traces : List Trace}
    (derived : Expanded rules outer slot nodes expanded traces) :
    Runs rules outer slot nodes expanded traces := by
  induction derived with
  | @nil outer slot =>
      cases slot with
      | place place =>
          rw [Runs, expandAll]
          rfl
      | callee =>
          intro node result single
          cases single
  | @cons outer slot node first next nodes rest before after head tail headIh tailIh =>
      cases slot with
      | place place =>
          rw [Runs, expandAll, ← List.append_nil after]
          exact Traced.bind_of_ok (runs_place.1 headIh) (Traced.bind_of_ok tailIh rfl)
      | callee =>
          intro node result single
          cases single
  | @container outer start value expanded traces unmatched inner ih =>
      have stays : (do return Node.mk start .container [← expand rules outer .inner value] :
          Traced Node).run = .ok (.mk start .container [expanded], traces ++ []) :=
        Traced.bind_of_ok (runs_place.1 ih) rfl
      rw [List.append_nil] at stays
      rw [runs_place]
      simp only [expand, unmatched]
      split
      · exact Traced.bind_of_ok rfl stays
      · exact stays
  | list matched collection inner rewritten collectionIh innerIh =>
      rw [runs_place]
      simp only [expand, matched]
      exact rewritten.run_expandList (collectionIh _ _ rfl rfl) (runs_place.1 innerIh)
  | @element outer place start opening first children rest before after head tail headIh tailIh =>
      rw [runs_place, expand, ← List.append_nil after]
      exact Traced.bind_of_ok (runs_place.1 headIh) (Traced.bind_of_ok tailIh rfl)
  | @fragment outer place start children expanded traces inner ih =>
      rw [runs_place, expand, ← List.append_nil traces]
      exact Traced.bind_of_ok ih rfl
  | @plain outer place start form parts expanded traces plain unbraced inner ih =>
      rw [runs_place, expand_plain plain unbraced, ← List.append_nil traces]
      exact Traced.bind_of_ok ih rfl
  | @parenthesized outer start callee expanded traces inner ih =>
      rintro node result ⟨⟩ ⟨⟩
      rw [expandCallee, ← List.append_nil traces]
      exact Traced.bind_of_ok (ih _ _ rfl rfl) rfl
  | @member outer start name optional object expanded traces inner ih =>
      rintro node result ⟨⟩ ⟨⟩
      rw [expandCallee, ← List.append_nil traces]
      exact Traced.bind_of_ok (runs_place.1 ih) rfl
  | kept notParenthesized notMember =>
      rintro node result ⟨⟩ ⟨⟩
      rw [expandCallee]
      · rfl
      · exact notParenthesized
      · exact notMember

end Runs

end LoopTemplate.Loop
