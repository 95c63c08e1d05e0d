import LoopTemplate.Loop.Rewrite
import LoopTemplate.Proofs.Nodes

/-!
# Mapped lists taken apart

A mapped list is a call in which three things vary: the collection, the parameters of the callback,
and what the callback's body yields. `Mapping` and `BodyContext` are what stands around them. A
rewrite keeps both and fills them anew, so it is described by what it puts in.
-/

namespace LoopTemplate.Loop

open LoopTemplate.Tree (ArrowHead Form FunctionHead Node)

/-! ## Callbacks -/

/-- What an inline callback is and what stands before its parameters: the name of a function,
nothing in an arrow. -/
inductive Callable : Form → List Node → Prop where
  | arrow (head : ArrowHead) : head.async = false → Callable (.arrow head) []
  | function (head : FunctionHead) (name : Node) :
      head.async = false → head.generator = false → Callable (.function head) [name]

/-- A call with an inline callback, without the callee and without the parameters and body of the
callback. -/
structure Mapping where
  start : Nat
  optional : Bool
  pure : Bool
  closing : Nat
  callbackStart : Nat
  form : Form
  /-- What stands before the parameters. -/
  lead : List Node
  callable : Callable form lead

namespace Mapping

/-- The callback with its parameters and body. -/
def callback (mapping : Mapping) (parameters body : Node) : Node :=
  .mk mapping.callbackStart mapping.form (mapping.lead ++ [parameters, body])

/-- The whole call. -/
def call (mapping : Mapping) (callee parameters body : Node) : Node :=
  .mk mapping.start (.call mapping.optional mapping.pure mapping.closing)
    [callee, mapping.callback parameters body]

@[simp] theorem callback?_callback (mapping : Mapping) (parameters body : Node) :
    callback? (mapping.callback parameters body) = some (parameters, body) := by
  obtain ⟨start, optional, pure, closing, callbackStart, form, lead, callable⟩ := mapping
  cases callable with
  | arrow head sync =>
      obtain ⟨async, wrapped, effectFree⟩ := head
      cases sync
      rfl
  | function head name sync single =>
      obtain ⟨expression, async, generator, wrapped, effectFree⟩ := head
      cases sync
      cases single
      rfl

@[simp] theorem spellCallback_callback (mapping : Mapping) (iteration : Iteration) (offset : Nat)
    (parameters body : Node) :
    spellCallback iteration offset (mapping.callback parameters body) =
      spellParameters iteration parameters := by
  rw [spellCallback, callback?_callback]

end Mapping

/-- An inline callback is a callback filled with its parameters and body. -/
theorem callable_of_callback? {callback parameters body : Node}
    (found : callback? callback = some (parameters, body)) :
    ∃ start form lead, Callable form lead ∧
      callback = .mk start form (lead ++ [parameters, body]) := by
  fun_cases callback? callback with
  | case1 start wrapped effectFree parameters body =>
      cases found
      exact ⟨start, _, [], .arrow _ rfl, rfl⟩
  | case2 start expression wrapped effectFree name parameters body =>
      cases found
      exact ⟨start, _, [name], .function _ name rfl rfl, rfl⟩
  | case3 node notArrow notFunction => simp [callback?] at found

/-! ## Bodies -/

theorem isMarkup_of_form {node : Node} (form_eq : node.form = .element ∨ node.form = .fragment) :
    isMarkup node = true := by
  obtain ⟨start, form, parts⟩ := node
  rcases form_eq with rfl | rfl <;> simp [isMarkup, Node.withoutParentheses]

/-- Markup outside of parentheses is an element or a fragment. -/
theorem form_of_isMarkup {node : Node} (markup : isMarkup node = true) :
    node.withoutParentheses.form = .element ∨ node.withoutParentheses.form = .fragment := by
  unfold isMarkup at markup
  split at markup
  case h_1 form_eq => exact .inl form_eq
  case h_2 form_eq => exact .inr form_eq
  case h_3 => cases markup

/-- Whether a statement is no `return`. -/
def NoReturn (statement : Node) : Prop := statement.form ≠ .returnStatement

/-- What stands around the result of a callback's body. -/
inductive BodyContext where
  /-- The body is the result. -/
  | whole
  /-- The body has one `return`, with other statements before and after it. -/
  | block (start closing : Nat) (before : List Node) (returnStart : Nat) (after : List Node)
      (beforeClear : ∀ statement ∈ before, NoReturn statement)
      (afterClear : ∀ statement ∈ after, NoReturn statement)

/-- Whether a node can be the body of an arrow without braces. -/
def NoBody (node : Node) : Prop := ∀ closing, node.form ≠ .body closing

theorem noBody_of_isMarkup {node : Node} (markup : isMarkup node = true) : NoBody node := by
  obtain ⟨start, form, parts⟩ := node
  rintro closing rfl
  simp [isMarkup, Node.withoutParentheses] at markup

theorem returned?_eq_none {statement : Node} (clear : NoReturn statement) :
    returned? statement = none := by
  fun_cases returned? statement with
  | case1 start value => exact absurd rfl clear
  | case2 node other => rfl

namespace BodyContext

/-- The body with the given result. -/
def fill : BodyContext → Node → Node
  | whole, result => result
  | block start closing before returnStart after _ _, result =>
      .mk start (.body closing) (before ++ .mk returnStart .returnStatement [result] :: after)

/-- What the statements before and after the `return` are. -/
def outline : BodyContext → List Form × List Form
  | whole => ([], [])
  | block _ _ before _ after _ _ => (before.map Node.form, after.map Node.form)

theorem result_mem_fill (context : BodyContext) (result : Node) :
    result ∈ (context.fill result).nodes := by
  cases context with
  | whole => exact Node.mem_nodes_self result
  | block start closing before returnStart after beforeClear afterClear =>
      refine Node.mem_nodes_of_part (List.mem_append_right _ List.mem_cons_self) ?_
      exact Node.mem_nodes_of_part List.mem_cons_self (Node.mem_nodes_self result)

/-- The result of a body is in it without parentheses as well. -/
theorem markup_mem_fill (context : BodyContext) (result : Node) :
    result.withoutParentheses ∈ (context.fill result).nodes := by
  have inResult : result.withoutParentheses ∈ result.nodes :=
    Node.mem_nodes_of_withoutParentheses (Node.mem_nodes_self _)
  exact Node.mem_nodes_trans inResult (context.result_mem_fill result)

/-- The result of a body is what was put there. -/
theorem result?_fill (context : BodyContext) {result : Node} (noBody : NoBody result) :
    result? (context.fill result) = some result := by
  cases context with
  | whole =>
      obtain ⟨start, form, parts⟩ := result
      rw [fill, result?]
      rintro _ closing _ same
      cases same
      exact noBody closing rfl
  | block start closing before returnStart after beforeClear afterClear =>
      rw [fill, result?, List.findSome?_append]
      have skipped : before.findSome? returned? = none :=
        List.findSome?_eq_none_iff.2 fun statement member =>
          returned?_eq_none (beforeClear statement member)
      rw [skipped]
      rfl

/-- Statements without a `return` are passed over. -/
theorem replaceReturned_append {before : List Node}
    (clear : ∀ statement ∈ before, NoReturn statement)
    (start : Nat) (old new : Node) (after : List Node) :
    replaceReturned new (before ++ .mk start .returnStatement [old] :: after) =
      some (old, before ++ .mk start .returnStatement [new] :: after) := by
  induction before with
  | nil => rfl
  | cons statement before ih =>
      have later := ih fun other member => clear other (List.mem_cons_of_mem _ member)
      rw [List.cons_append, replaceReturned, later]
      · rfl
      · rintro other value rfl
        exact clear _ List.mem_cons_self rfl

/-- Replacing the result of a body fills what stands around it anew. -/
theorem replaceResult_fill (context : BodyContext) {old : Node} (new : Node) (noBody : NoBody old) :
    replaceResult new (context.fill old) = some (old, context.fill new) := by
  cases context with
  | whole =>
      obtain ⟨start, form, parts⟩ := old
      rw [fill, replaceResult]
      · rfl
      · rintro _ closing _ same
        cases same
        exact noBody closing rfl
  | block start closing before returnStart after beforeClear afterClear =>
      rw [fill, replaceResult, replaceReturned_append beforeClear]
      rfl

end BodyContext

theorem countAllReturns_append (before after : List Node) :
    countAllReturns (before ++ after) = countAllReturns before + countAllReturns after := by
  induction before with
  | nil => simp [countAllReturns]
  | cons statement before ih => simp [countAllReturns, ih, Nat.add_assoc]

theorem noReturn_of_countAllReturns {statements : List Node}
    (none : countAllReturns statements = 0) : ∀ statement ∈ statements, NoReturn statement := by
  intro statement member isReturn
  obtain ⟨before, after, rfl⟩ := List.append_of_mem member
  obtain ⟨start, form, parts⟩ := statement
  cases isReturn
  simp [countAllReturns_append, countAllReturns, countReturns] at none

/-- A body that renders markup is filled with the markup. -/
theorem exists_context_of_bodyShape? {body : Node} {shape : BodyShape}
    (found : bodyShape? body = some shape) :
    ∃ (context : BodyContext) (result : Node),
      body = context.fill result ∧ isMarkup result = true := by
  unfold bodyShape? at found
  split at found
  case h_1 start closing statements =>
    split at found
    case isFalse => cases found
    case isTrue returns =>
      simp only [returnsMarkup, Bool.and_eq_true, beq_iff_eq, List.any_eq_true] at returns
      obtain ⟨one, statement, member, markup⟩ := returns
      obtain ⟨before, after, rfl⟩ := List.append_of_mem member
      fun_cases returned? statement with
      | case1 returnStart value =>
          simp only [countAllReturns_append, countAllReturns, countReturns] at one
          refine ⟨.block start closing before returnStart after
            (noReturn_of_countAllReturns (by omega)) (noReturn_of_countAllReturns (by omega)),
            value, rfl, by simpa [returned?] using markup⟩
      | case2 node other => simp [returned?] at markup
  case h_2 other =>
    split at found
    case isFalse => cases found
    case isTrue markup => exact ⟨.whole, body, rfl, markup⟩

/-! ## Parameters -/

theorem map_of_mapM {α β : Type} {find : α → Option β} {items : List α} {found : List β}
    (all : items.mapM find = some found) : items.map find = found.map some := by
  induction items generalizing found with
  | nil =>
      cases all
      rfl
  | cons item items ih =>
      simp only [List.mapM_cons, Option.bind_eq_bind, Option.bind_eq_some_iff, Option.pure_def,
        Option.some.injEq] at all
      obtain ⟨first, firstFound, rest, restFound, rfl⟩ := all
      simp only [List.map_cons, firstFound, ih restFound]

theorem parameter_of_parameterName? {parameter : Node} {name : String}
    (named : parameterName? parameter = some name) :
    ∃ start bindingStart bindingParts rest,
      parameter = .mk start .parameter (.mk bindingStart (.binding name) bindingParts :: rest) := by
  unfold parameterName? at named
  split at named
  case h_1 start bindingStart other bindingParts rest =>
    cases named
    exact ⟨start, bindingStart, bindingParts, rest, rfl⟩
  case h_2 => cases named

/-- There are at most two parameters, each a plain name. -/
theorem plain_of_parameterNames? {parameters : Node} {names : List String}
    (declared : parameterNames? parameters = some names) :
    parameters.parts.length ≤ 2 ∧ parameters.parts.map parameterName? = names.map some := by
  unfold parameterNames? at declared
  split at declared
  case isTrue => cases declared
  case isFalse few => exact ⟨by omega, map_of_mapM declared⟩

/-! ## Mapped lists -/

/-- A mapped list in its pieces. -/
structure MatchedList (value : Node) (iteration : Iteration) where
  mapping : Mapping
  callee : Node
  parameters : Node
  context : BodyContext
  result : Node
  shape : value.withoutParentheses = mapping.call callee parameters (context.fill result)
  isMap : isMapCallee callee = true
  names : List String
  declared : parameterNames? parameters = some names
  item_eq : iteration.item = names[0]?
  index_eq : iteration.index = names[1]?
  markup : isMarkup result = true

/-- The body of the callback of a mapped list. -/
def MatchedList.body {value : Node} {iteration : Iteration} (list : MatchedList value iteration) :
    Node :=
  list.context.fill list.result

theorem MatchedList.shape_body {value : Node} {iteration : Iteration}
    (list : MatchedList value iteration) :
    value.withoutParentheses = list.mapping.call list.callee list.parameters list.body :=
  list.shape

/-- The item and the index are named as declared, and otherwise as usual. -/
theorem MatchedList.names_eq {value : Node} {iteration : Iteration}
    (list : MatchedList value iteration) :
    [iteration.itemName, iteration.indexName] =
      list.names ++ ["item", "index"].drop list.names.length := by
  obtain ⟨few, named⟩ := plain_of_parameterNames? list.declared
  have length_eq : list.parameters.parts.length = list.names.length := by
    simpa using congrArg List.length named
  rw [Iteration.itemName, Iteration.indexName, list.item_eq, list.index_eq]
  match names_eq : list.names with
  | [] => rfl
  | [item] => rfl
  | [item, index] => rfl
  | _ :: _ :: _ :: _ => simp only [names_eq, List.length_cons] at length_eq; omega

/-- What holds everywhere in a mapped list holds everywhere in its callee and its callback. -/
theorem MatchedList.everywhere_call {value : Node} {iteration : Iteration} {Holds : Node → Prop}
    (list : MatchedList value iteration) (everywhere : Node.Everywhere Holds [value]) :
    Node.Everywhere Holds [list.callee] ∧
      Node.Everywhere Holds [list.mapping.callback list.parameters list.body] := by
  have inside : Node.Everywhere Holds [value.withoutParentheses] :=
    everywhere.of_mem (Node.mem_nodes_of_withoutParentheses (Node.mem_nodes_self _))
  rw [list.shape_body] at inside
  exact Node.everywhere_cons.1 (Node.everywhere_mk.1 inside).2

/-- What holds everywhere in a mapped list holds everywhere in its pieces. -/
theorem MatchedList.everywhere {value : Node} {iteration : Iteration} {Holds : Node → Prop}
    (list : MatchedList value iteration) (everywhere : Node.Everywhere Holds [value]) :
    Node.Everywhere Holds [list.callee] ∧ Node.Everywhere Holds [list.parameters] ∧
      Node.Everywhere Holds [list.body] := by
  obtain ⟨callee, callback⟩ := list.everywhere_call everywhere
  have last : ∀ part ∈ [list.parameters, list.body], Node.Everywhere Holds [part] :=
    fun part member => callback.of_mem
      (Node.mem_nodes_of_part (List.mem_append_right _ member) (Node.mem_nodes_self part))
  exact ⟨callee, last _ (by simp), last _ (by simp)⟩

theorem nonempty_of_iteration? {value : Node} {iteration : Iteration}
    (found : iteration? value = some iteration) : Nonempty (MatchedList value iteration) := by
  unfold iteration? at found
  split at found
  case h_2 => cases found
  case h_1 start optional pure closing callee argument shape =>
    split at found
    case isFalse => cases found
    case isTrue isMap =>
      simp only [Option.bind_eq_bind, Option.bind_eq_some_iff, Prod.exists, Option.pure_def,
        Option.some.injEq] at found
      obtain ⟨parameters, body, called, names, declared, shown, rendered, rfl⟩ := found
      obtain ⟨callbackStart, form, lead, callable, rfl⟩ := callable_of_callback? called
      obtain ⟨context, result, rfl, markup⟩ := exists_context_of_bodyShape? rendered
      exact ⟨{
        mapping := ⟨start, optional, pure, closing, callbackStart, form, lead, callable⟩
        callee, parameters, context, result, shape, isMap, names, declared, markup
        item_eq := rfl
        index_eq := rfl }⟩

end LoopTemplate.Loop
