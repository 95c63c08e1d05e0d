import LoopTemplate.Proofs.Declared

/-!
# When a rewrite fails

A list is matched before anything inside it is rewritten, and taken apart after. What was seen then
is still there: the loops around it are open, and the callback has its one result, which is markup.
So a rewrite fails only where a text that it synthesizes is not read.
-/

namespace LoopTemplate.Loop

open LoopTemplate.Tree (Node)

/-- A text for names of the given kind is synthesized but not read, with the given error. -/
inductive TextRefused (adapter : Adapter) (Known : String → Prop) (error : RewriteError) :
    Prop where
  | parameters (item index : String) (itemKnown : Known item) (indexKnown : Known index)
      (refused : parametersSnippet [item, index] = .error error)
  | object (names : Names) (known : ∀ name ∈ names, Known name)
      (refused : captureObject names = .error error)
  | wrapper (item index : String) (itemKnown : Known item) (indexKnown : Known index)
      (refused : wrapperSnippet adapter item index = .error error)

/-- A text that is not read is named by the error. -/
theorem error_of_readSnippet {code : String} {take : Node → Option Node} {error : RewriteError}
    (refused : readSnippet code take = .error error) :
    ∃ message, error = .snippet code message := by
  unfold readSnippet at refused
  split at refused
  case h_1 =>
    cases refused
    exact ⟨_, rfl⟩
  case h_2 =>
    split at refused
    case h_1 => cases refused
    case h_2 =>
      cases refused
      exact ⟨_, rfl⟩

theorem TextRefused.error_eq {adapter : Adapter} {Known : String → Prop} {error : RewriteError}
    (refused : TextRefused adapter Known error) :
    ∃ code message, error = .snippet code message := by
  rcases refused with ⟨_, _, _, _, refused⟩ | ⟨_, _, refused⟩ | ⟨_, _, _, _, refused⟩ <;>
    exact ⟨_, error_of_readSnippet refused⟩

/-- A loop element has a place for its collection. -/
theorem fillWrapper_of_wrapperSnippet {adapter : Adapter} {item index : String} {wrapper : Node}
    (read : wrapperSnippet adapter item index = .ok wrapper) (collection child : Node) :
    ∃ filled, fillWrapper collection child wrapper = some filled := by
  obtain ⟨outer, start, inner, selfClosing, value, attributes, children, rfl⟩ :=
    blockWith_of_wrapperSnippet read
  exact ⟨_, rfl⟩

theorem loopWrapper_eq_error {adapter : Adapter} {item index : String} {collection child : Node}
    {error : RewriteError}
    (failed : loopWrapper adapter item index collection child = .error error) :
    wrapperSnippet adapter item index = .error error := by
  rcases except_bind_eq_error failed with refused | ⟨wrapper, read, failed⟩
  · exact refused
  · obtain ⟨filled, filled_eq⟩ := fillWrapper_of_wrapperSnippet read collection child
    rw [filled_eq] at failed
    cases failed

variable {rules : RewriteRules} {Known : String → Prop}

section List

variable {outer : Names} {value : Node} {iteration : Iteration} {offset : Nat}
  {error : RewriteError}
  (list : MatchedList value iteration) (opened : (loopOf iteration list.body).Only Known)
  (around : ∀ name ∈ outer, Known name)
  (bodyBinds : Node.Everywhere (BindsOnly Known) [list.body])
include opened around bodyBinds

/-- The finished loop of a list has only known names. -/
theorem only_finishedLoop_of_expand {body : Node} {inside : List Trace}
    (bodyDone : (expand rules (insertNames outer (loopOf iteration list.body).bindings) .inner
      list.body).run = .ok (body, inside)) (markup : Node) :
    (finishedLoop rules outer iteration list.body inside markup).Only Known := by
  have derived := (expanded_of_expansion rules).1 _ _ _ _ _ bodyDone
  refine only_finishedLoop around (opened.noteAll (derived.only_of_bindsOnly ?_ bodyBinds))
  exact fun name member => (mem_insertNames.1 member).elim (around name) (opened.bindings name)

omit around bodyBinds in
/-- Parameters are refused only where the text for them is not read. -/
theorem refused_of_spellParameters
    (refused : spellParameters iteration list.parameters = .error error) :
    TextRefused rules.adapter Known error := by
  refine .parameters iteration.itemName iteration.indexName opened.item opened.index ?_
  unfold spellParameters at refused
  split at refused
  · exact refused
  · cases refused

/-- A callback fails where its body does, or where the text for its names is not read. -/
theorem refused_of_expandCallback {spelled : Node}
    (failed : expandCallback rules outer iteration offset spelled
      (list.mapping.callback list.parameters list.body) = .error error) :
    (expand rules (insertNames outer (loopOf iteration list.body).bindings) .inner
        list.body).run = .error error ∨
      TextRefused rules.adapter Known error := by
  rw [expandCallback_callback] at failed
  rcases except_bind_eq_error failed with bodyFailed | ⟨⟨body, inside⟩, bodyDone, failed⟩
  · exact .inl bodyFailed
  obtain ⟨context, result, rfl, -, markup⟩ := context_of_expand list.markup bodyDone
  rcases except_bind_eq_error failed with completing | ⟨completed, completion, failed⟩
  · rw [completeCallback_fill context _ _ markup] at completing
    rcases except_bind_eq_error completing with refused | ⟨object, handed, failed⟩
    · have finished := only_finishedLoop_of_expand list opened around bodyBinds bodyDone
        result.withoutParentheses
      exact .inr (.object _ finished.captures refused)
    · cases failed
  · cases failed

/-- A mapped list fails where its collection or its body does, or where a text is not read. -/
theorem refused_of_expandList
    (failed : (expandList rules outer iteration offset value).run = .error error) :
    (expandCallee rules outer list.callee).run = .error error ∨
      (expand rules (insertNames outer (loopOf iteration list.body).bindings) .inner
        list.body).run = .error error ∨
      TextRefused rules.adapter Known error := by
  rw [expandList_of_shape list.shape_body] at failed
  rcases Traced.bind_eq_error failed with spelling | ⟨parameters, nothing, spelling, failed⟩
  · exact .inr (.inr (refused_of_spellParameters list opened (Traced.ofExcept_eq_error spelling)))
  rcases Traced.bind_eq_error failed with calleeFailed | ⟨callee, before, calleeDone, failed⟩
  · exact .inl calleeFailed
  rcases Traced.bind_eq_error failed with called | ⟨⟨rewritten, inside⟩, traces, called, failed⟩
  · exact .inr (refused_of_expandCallback list opened around bodyBinds
      (Traced.ofExcept_eq_error called))
  obtain ⟨callbackDone, rfl⟩ := Traced.ofExcept_eq_ok called
  obtain ⟨context, result, object, bodyDone, -, -, -, rfl⟩ :=
    rewritten_of_expandCallback callbackDone
  rcases Traced.bind_eq_error failed with wrapping | ⟨wrapper, traces, wrapped, failed⟩
  · have finished := only_finishedLoop_of_expand list opened around bodyBinds bodyDone
      result.withoutParentheses
    exact .inr (.inr (.wrapper _ _ finished.item finished.index
      (loopWrapper_eq_error (Traced.ofExcept_eq_error wrapping))))
  · cases failed

end List

/-- An expansion fails only where a text for names that its lists bind is not read. -/
theorem refused_of_bindsOnly :
    (∀ outer place node, (∀ name ∈ outer, Known name) →
        Node.Everywhere (BindsOnly Known) [node] → ∀ error,
        (expand rules outer place node).run = .error error →
          TextRefused rules.adapter Known error) ∧
      (∀ outer place nodes, (∀ name ∈ outer, Known name) →
        Node.Everywhere (BindsOnly Known) nodes → ∀ error,
        (expandAll rules outer place nodes).run = .error error →
          TextRefused rules.adapter Known error) := by
  apply expansion_induction _ _ fun outer node => (∀ name ∈ outer, Known name) →
    Node.Everywhere (BindsOnly Known) [node] → ∀ error,
      (expandCallee rules outer node).run = .error error → TextRefused rules.adapter Known error
  case nil =>
    intro outer place around binds error failed
    rw [expandAll] at failed
    cases failed
  case cons =>
    intro outer place node nodes nodeFails nodesFail around binds error failed
    obtain ⟨nodeBinds, nodesBind⟩ := Node.everywhere_cons.1 binds
    rw [expandAll] at failed
    rcases Traced.bind_eq_error failed with nodeFailed | ⟨first, before, nodeDone, failed⟩
    · exact nodeFails around nodeBinds error nodeFailed
    · exact nodesFail around nodesBind error (Traced.bind_pure_eq_error failed)
  case container =>
    intro outer start value unmatched valueFails around binds error failed
    have valueBinds := (Node.everywhere_mk.1 binds).2
    simp only [expand, unmatched] at failed
    split at failed
    · rcases Traced.bind_eq_error failed with leaving | ⟨_, before, leaving, failed⟩
      · cases leaving
      · exact valueFails around valueBinds error (Traced.bind_pure_eq_error failed)
    · exact valueFails around valueBinds error (Traced.bind_pure_eq_error failed)
  case list =>
    intro outer start value iteration list matched calleeFails bodyFails around binds error failed
    have valueBinds := (Node.everywhere_mk.1 binds).2
    obtain ⟨calleeBinds, -, bodyBinds⟩ := list.everywhere valueBinds
    have opened := valueBinds.own _ list matched
    simp only [expand, matched] at failed
    rcases refused_of_expandList list opened around bodyBinds failed with
      calleeFailed | bodyFailed | refused
    · exact calleeFails around calleeBinds error calleeFailed
    · exact bodyFails (fun name member =>
        (mem_insertNames.1 member).elim (around name) (opened.bindings name)) bodyBinds error
        bodyFailed
    · exact refused
  case element =>
    intro outer place start opening children openingFails childrenFail around binds error failed
    obtain ⟨openingBinds, childrenBind⟩ :=
      Node.everywhere_cons.1 (Node.everywhere_mk.1 binds).2
    rw [expand] at failed
    rcases Traced.bind_eq_error failed with openingFailed | ⟨first, before, openingDone, failed⟩
    · exact openingFails around openingBinds error openingFailed
    · exact childrenFail around childrenBind error (Traced.bind_pure_eq_error failed)
  case fragment =>
    intro outer place start children childrenFail around binds error failed
    rw [expand] at failed
    exact childrenFail around (Node.everywhere_mk.1 binds).2 error
      (Traced.bind_pure_eq_error failed)
  case plain =>
    intro outer place start form parts plain unbraced partsFail around binds error failed
    rw [expand_plain plain unbraced] at failed
    exact partsFail around (Node.everywhere_mk.1 binds).2 error (Traced.bind_pure_eq_error failed)
  case parenthesized =>
    intro outer start callee calleeFails around binds error failed
    rw [expandCallee] at failed
    exact calleeFails around (Node.everywhere_mk.1 binds).2 error
      (Traced.bind_pure_eq_error failed)
  case member =>
    intro outer start name optional object objectFails around binds error failed
    rw [expandCallee] at failed
    exact objectFails around (Node.everywhere_mk.1 binds).2 error
      (Traced.bind_pure_eq_error failed)
  case kept =>
    intro outer node notParenthesized notMember around binds error failed
    rw [expandCallee] at failed
    · cases failed
    · exact notParenthesized
    · exact notMember

/-- An expansion fails only where a text for names that are declared is not read. -/
theorem refused_of_expansion (item : Known "item") (index : Known "index") :
    (∀ outer place node, (∀ name ∈ outer, Known name) →
        Node.Everywhere (DeclaresOnly Known) [node] → ∀ error,
        (expand rules outer place node).run = .error error →
          TextRefused rules.adapter Known error) ∧
      (∀ outer place nodes, (∀ name ∈ outer, Known name) →
        Node.Everywhere (DeclaresOnly Known) nodes → ∀ error,
        (expandAll rules outer place nodes).run = .error error →
          TextRefused rules.adapter Known error) :=
  ⟨fun outer place node around declared =>
      refused_of_bindsOnly.1 outer place node around
        (bindsOnly_of_declaresOnly item index declared),
    fun outer place nodes around declared =>
      refused_of_bindsOnly.2 outer place nodes around
        (bindsOnly_of_declaresOnly item index declared)⟩

/-! ## What is still there -/

/-- What a walk relies on in a mapped list after it walked the collection and the body. -/
structure StillThere (rules : RewriteRules) {value : Node} {iteration : Iteration}
    (list : MatchedList value iteration) : Prop where
  /-- The loops around the list are open, no more and no fewer. -/
  collection : ∀ (state later : WalkState) (callee : Node),
    walkCallee rules list.callee state = .ok (callee, later) →
      LoopStack.depth later.stack = LoopStack.depth state.stack
  /-- The loop of the list is the innermost, and closing it leaves those around it. -/
  loop : ∀ (state later : WalkState) (frame : Frame) (body : Node) (offset : Nat),
    walk rules .inner list.body { state with stack := frame :: state.stack } = .ok (body, later) →
      ∃ finished, closeLoop (LoopStack.depth state.stack) offset later =
        .ok (finished, { later with stack := state.stack })
  /-- The callback has parameters and a body. -/
  callback : ∀ parameters body,
    callback? (list.mapping.callback parameters body) = some (parameters, body)
  /-- The body has one result, at the same place as before, which is markup and can be replaced. -/
  result : ∀ (state later : WalkState) (body : Node),
    walk rules .inner list.body state = .ok (body, later) →
      ∃ (context : BodyContext) (result : Node), body = context.fill result ∧
        context.outline = list.context.outline ∧ isMarkup result = true ∧
        result? body = some result ∧
        ∀ object, replaceResult object body = some (result, context.fill object)

theorem stillThere {rules : RewriteRules} {value : Node} {iteration : Iteration}
    (list : MatchedList value iteration) : StillThere rules list where
  collection := by
    intro state later callee walked
    rw [(walk_follows rules).2.2.2.2 list.callee state] at walked
    obtain ⟨traces, -, rfl⟩ := Traced.recorded_eq_ok walked
    exact WalkState.depth_recordAll state traces
  loop := by
    intro state later frame body offset walked
    rw [(walk_follows rules).1] at walked
    obtain ⟨traces, -, rfl⟩ := Traced.recorded_eq_ok walked
    rw [WalkState.recordAll_push]
    exact ⟨frame.noteAll traces, closeLoop_push _ (state.recordInside traces) offset⟩
  callback := list.mapping.callback?_callback
  result := by
    intro state later body walked
    rw [(walk_follows rules).1] at walked
    obtain ⟨traces, expansion, -⟩ := Traced.recorded_eq_ok walked
    obtain ⟨context, result, rfl, outline_eq, markup⟩ := context_of_expand list.markup expansion
    have noBody := noBody_of_isMarkup markup
    exact ⟨context, result, rfl, outline_eq, markup, context.result?_fill noBody,
      fun object => context.replaceResult_fill object noBody⟩

/-- A name that is declared in a tree, or that of an item or an index left out. -/
def SpelledIn (tree : Node) (name : String) : Prop :=
  name = "item" ∨ name = "index" ∨ tree.Declares name

/-- A rewrite fails only if a text for names of the tree is not read. All else that it relies on
in a matched list is still there once the lists inside it are rewritten. -/
theorem rewrite_fails_only_on_texts (rules : RewriteRules) :
    (∀ tree error, rewrite rules tree = .error error →
        (∀ offset, error ≠ .missingReturn offset ∧ error ≠ .unbalancedStack offset) ∧
          TextRefused rules.adapter (SpelledIn tree) error) ∧
      (∀ tree, (∀ error, ¬TextRefused rules.adapter (SpelledIn tree) error) →
        ∃ rewritten, rewrite rules tree = .ok rewritten) ∧
      (∀ value iteration, iteration? value = some iteration →
        ∃ list : MatchedList value iteration, StillThere rules list) ∧
      (∀ item index wrapper, wrapperSnippet rules.adapter item index = .ok wrapper →
        ∀ collection child, ∃ filled, fillWrapper collection child wrapper = some filled) := by
  have refused : ∀ tree error, rewrite rules tree = .error error →
      TextRefused rules.adapter (SpelledIn tree) error := by
    intro tree error failed
    have declared : Node.Everywhere (DeclaresOnly (SpelledIn tree)) [tree] :=
      fun node member name form_eq => .inr (.inr ⟨node, by simpa using member, form_eq⟩)
    rw [rewrite_eq_expand] at failed
    cases expansion : (expand rules [] .inner tree).run with
    | error other =>
        rw [expansion] at failed
        cases failed
        exact (refused_of_expansion (.inl rfl) (.inr (.inl rfl))).1 [] .inner tree (by simp)
          declared _ expansion
    | ok result =>
        rw [expansion] at failed
        cases failed
  refine ⟨fun tree error failed => ⟨?_, refused tree error failed⟩, ?_, ?_, ?_⟩
  · intro offset
    obtain ⟨code, message, rfl⟩ := (refused tree error failed).error_eq
    exact ⟨nofun, nofun⟩
  · intro tree read
    cases outcome : rewrite rules tree with
    | error error => exact absurd (refused tree error outcome) (read error)
    | ok rewritten => exact ⟨rewritten, rfl⟩
  · intro value iteration matched
    obtain ⟨list⟩ := nonempty_of_iteration? matched
    exact ⟨list, stillThere list⟩
  · exact fun item index wrapper read => fillWrapper_of_wrapperSnippet read

end LoopTemplate.Loop
