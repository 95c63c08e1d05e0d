import LoopTemplate.Proofs.Nesting

/-!
# Reading the loops of a result

A rewrite changes nothing about the names that patterns, statements and bodies declare. So the
item, the index and the locals of a rewritten list are declared by the callback in its loop, and
the object that the callback returns has the captured names as its keys.
-/

namespace LoopTemplate.Loop

open LoopTemplate.Grammar (IsName plainParameter plainProperty?)
open LoopTemplate.Tree (Form Node)

/-! ## Declared names -/

theorem allPatternNames_eq (nodes : List Node) :
    allPatternNames nodes = (nodes.map patternNames).flatten := by
  induction nodes with
  | nil => rfl
  | cons node nodes ih => rw [allPatternNames, ih, List.map_cons, List.flatten_cons]

/-- The names of a pattern depend on its parts only through theirs. -/
theorem patternNames_congr {start otherStart : Nat} (form : Form) {parts others : List Node}
    (same : parts.map patternNames = others.map patternNames) :
    patternNames (.mk start form parts) = patternNames (.mk otherStart form others) := by
  cases form with
  | arrayPattern role | objectPattern role =>
      rw [patternNames, patternNames, allPatternNames_eq, allPatternNames_eq, same]
  | patternProperty role computed shorthand =>
      rcases parts with _ | ⟨_, _ | ⟨_, _ | _⟩⟩ <;> rcases others with _ | ⟨_, _ | ⟨_, _ | _⟩⟩ <;>
        simp_all [patternNames]
  | patternDefault =>
      rcases parts with _ | _ <;> rcases others with _ | _ <;> simp_all [patternNames]
  | patternRest =>
      rcases parts with _ | ⟨_, _ | _⟩ <;> rcases others with _ | ⟨_, _ | _⟩ <;>
        simp_all [patternNames]
  | _ => rfl

theorem patternNames_of_form {node : Node} (other : node.form = .container ∨ node.form = .element) :
    patternNames node = [] := by
  obtain ⟨start, form, parts⟩ := node
  rcases other with rfl | rfl <;> rfl

section Declared

variable {rules : RewriteRules} {outer : Names} {slot : Slot} {nodes expanded : List Node}
  {traces : List Trace}

/-- A rewrite keeps the names of patterns. -/
theorem Expanded.map_patternNames (derived : Expanded rules outer slot nodes expanded traces) :
    expanded.map patternNames = nodes.map patternNames := by
  induction derived with
  | nil => rfl
  | cons head tail headIh tailIh =>
      rw [List.map_cons, List.map_cons, tailIh]
      exact congrArg (· ++ _) headIh
  | list matched collection inner rewritten collectionIh innerIh =>
      rw [List.map_singleton, List.map_singleton,
        patternNames_of_form (.inr (parts_of_loopWrapper rewritten.wrapped).1),
        patternNames_of_form (.inl rfl)]
  | element head tail headIh tailIh => rfl
  | container unmatched inner ih | fragment inner ih | plain plain unbraced inner ih
  | parenthesized inner ih | member inner ih =>
      rw [List.map_singleton, List.map_singleton, patternNames_congr _ ih]
  | kept notParenthesized notMember => rfl

/-- The names of the first part of a node. -/
def firstNames (node : Node) : List String := patternNames (node.part 0)

theorem firstNames_congr {start otherStart : Nat} {form otherForm : Form}
    {parts others : List Node}
    (same : parts.map patternNames = others.map patternNames) :
    firstNames (.mk start form parts) = firstNames (.mk otherStart otherForm others) := by
  cases parts with
  | nil =>
      obtain rfl : others = [] := by simpa using same.symm
      rfl
  | cons part parts =>
      cases others with
      | nil => cases same
      | cons other others => exact (List.cons.injEq .. ▸ same).1

/-- A rewrite outside of tags keeps the names of first parts. -/
theorem Expanded.map_firstNames (derived : Expanded rules outer slot nodes expanded traces)
    (inner : slot = .place .inner) : expanded.map firstNames = nodes.map firstNames := by
  induction derived with
  | nil => rfl
  | cons head tail headIh tailIh =>
      rw [List.map_cons, List.map_cons, tailIh inner]
      exact congrArg (· ++ _) (headIh inner)
  | container | list => cases inner
  | element head tail headIh tailIh =>
      have headSame := head.map_patternNames
      have tailSame := tail.map_patternNames
      refine congrArg (fun names => [names]) (firstNames_congr ?_)
      simpa using ⟨by simpa using headSame, tailSame⟩
  | fragment inside ih | plain plain unbraced inside ih =>
      exact congrArg (fun names => [names]) (firstNames_congr inside.map_patternNames)
  | parenthesized | member | kept => cases inner

theorem statementNames_congr {start otherStart : Nat} (form : Form) {parts others : List Node}
    (same : parts.map patternNames = others.map patternNames)
    (firstSame : parts.map firstNames = others.map firstNames) :
    statementNames (.mk start form parts) = statementNames (.mk otherStart form others) := by
  cases form with
  | variableList kind =>
      have flat : ∀ (start : Nat) (nodes : List Node),
          statementNames (.mk start (.variableList kind) nodes) = (nodes.map firstNames).flatten :=
        fun _ nodes => List.flatMap_def
      rw [flat, flat, firstSame]
  | function head =>
      rcases parts with _ | _ <;> rcases others with _ | _ <;> simp_all [statementNames]
  | classDefinition expression =>
      rcases parts with _ | ⟨_, _ | _⟩ <;> rcases others with _ | ⟨_, _ | _⟩ <;>
        simp_all [statementNames]
  | _ => rfl

/-- A rewrite outside of tags keeps the names that statements declare. -/
theorem Expanded.map_statementNames (derived : Expanded rules outer slot nodes expanded traces)
    (inner : slot = .place .inner) : expanded.map statementNames = nodes.map statementNames := by
  induction derived with
  | nil => rfl
  | cons head tail headIh tailIh =>
      rw [List.map_cons, List.map_cons, tailIh inner]
      exact congrArg (· ++ _) (headIh inner)
  | container | list => cases inner
  | element | fragment => rfl
  | plain plain unbraced inside ih =>
      rw [List.map_singleton, List.map_singleton,
        statementNames_congr _ inside.map_patternNames (inside.map_firstNames rfl)]
  | parenthesized | member | kept => cases inner

/-- What is read off the statements of a body. -/
def topNames (read : Node → List String) : Node → List String
  | .mk _ (.body _) statements => (statements.map read).flatten
  | _ => []

theorem declaredNames_eq_topNames (node : Node) :
    declaredNames node = namesOf (topNames statementNames node) := by
  fun_cases declaredNames node with
  | case1 start closing statements => rw [topNames, List.flatMap_def]
  | case2 node other =>
      rw [topNames]
      · rfl
      · exact other

/-- A rewrite keeps what is read off the statements of a body, if it keeps what is read off each. -/
theorem Expanded.topNames_eq {read : Node → List String} {node result : Node}
    (derived : Expanded rules outer (.place .inner) [node] [result] traces)
    (same : ∀ {nodes expanded : List Node} {traces : List Trace},
      Expanded rules outer (.place .inner) nodes expanded traces →
        expanded.map read = nodes.map read) :
    topNames read result = topNames read node := by
  cases derived with
  | element | fragment => rfl
  | @plain _ _ start form parts statements _ plain unbraced inside =>
      cases form with
      | body closing => rw [topNames, topNames, same inside]
      | _ => rfl

/-- A rewrite keeps the names that a body declares. -/
theorem Expanded.declaredNames_eq {node result : Node}
    (derived : Expanded rules outer (.place .inner) [node] [result] traces) :
    declaredNames result = declaredNames node := by
  rw [declaredNames_eq_topNames, declaredNames_eq_topNames,
    derived.topNames_eq fun inside => inside.map_statementNames rfl]

end Declared

/-! ## Reading -/

theorem topNames_of_noBody {node : Node} (noBody : NoBody node) (read : Node → List String) :
    topNames read node = [] := by
  fun_cases topNames read node with
  | case1 => exact absurd rfl (noBody _)
  | case2 => rfl

/-- Nothing is read off the result of a body, if nothing is read off a `return`. -/
theorem topNames_fill (context : BodyContext) {read : Node → List String} {result other : Node}
    (noBody : NoBody result) (otherNoBody : NoBody other)
    (none : ∀ start value, read (.mk start .returnStatement [value]) = []) :
    topNames read (context.fill result) = topNames read (context.fill other) := by
  cases context with
  | whole =>
      rw [BodyContext.fill, BodyContext.fill, topNames_of_noBody noBody,
        topNames_of_noBody otherNoBody]
  | block start closing before returnStart after beforeClear afterClear =>
      simp only [BodyContext.fill, topNames, List.map_append, List.map_cons, none]

/-- The result of a body declares nothing at the body's top level. -/
theorem declaredNames_fill (context : BodyContext) {result other : Node} (noBody : NoBody result)
    (otherNoBody : NoBody other) :
    declaredNames (context.fill result) = declaredNames (context.fill other) := by
  rw [declaredNames_eq_topNames, declaredNames_eq_topNames,
    topNames_fill context noBody otherNoBody fun _ _ => rfl]

theorem mapM_of_map {α β : Type} {read : α → Option β} {values : List α} {results : List β}
    (seen : values.map read = results.map some) : values.mapM read = some results := by
  induction values generalizing results with
  | nil =>
      obtain rfl : results = [] := by simpa using seen.symm
      rfl
  | cons value values ih =>
      cases results with
      | nil => cases seen
      | cons result results =>
          simp only [List.map_cons, List.cons.injEq] at seen
          rw [List.mapM_cons, seen.1, ih seen.2]
          rfl

section Reading

variable {rules : RewriteRules} {outer : Names} {value callee body wrapper : Node}
  {iteration : Iteration} {list : MatchedList value iteration} {inside : List Trace} {frame : Frame}

/-- The callback of a rewritten list declares its item and its index. -/
theorem RewrittenList.parameterNames_eq
    (rewritten : RewrittenList rules outer list callee body inside frame wrapper)
    (only : frame.Only IsName) :
    parameterNames? rewritten.parameters = some [frame.item, frame.index] := by
  have spelled := rewritten.spelled
  have item := only.item
  have index := only.index
  have names_eq := list.names_eq
  obtain ⟨few, named⟩ := plain_of_parameterNames? list.declared
  have length_eq : list.parameters.parts.length = list.names.length := by
    simpa using congrArg List.length named
  rw [rewritten.item_eq] at item ⊢
  rw [rewritten.index_eq] at index ⊢
  unfold spellParameters at spelled
  split at spelled
  case isTrue =>
    obtain ⟨start, first, second, parameters_eq⟩ := parametersSnippet_cases item index spelled
    rw [parameters_eq]
    rfl
  case isFalse both =>
    have full : list.names.length = 2 := by omega
    rw [← Except.ok.inj spelled, names_eq, full, list.declared]
    simp

/-- The loop that replaced a list has the names of the finished loop, and the markup as its
child. -/
theorem RewrittenList.templateLoop?_eq
    (rewritten : RewrittenList rules outer list callee body inside frame wrapper)
    (inner : Expanded rules (insertNames outer frame.bindings) (.place .inner) [list.body] [body]
      inside) (only : frame.Only IsName) :
    templateLoop? rules.adapter wrapper =
      some (.ofFrame frame rewritten.result.withoutParentheses
        (rewritten.context.fill rewritten.object)) := by
  obtain ⟨start, properties, object_eq, seen⟩ :=
    handsOver_of_captureObject only.captures rewritten.handed
  have noBody : NoBody rewritten.object := object_eq ▸ nofun
  have keys : (result? (rewritten.context.fill rewritten.object)).bind objectKeys? =
      some frame.captures := by
    rw [BodyContext.result?_fill _ noBody, Option.bind_some, object_eq]
    exact mapM_of_map seen
  have locals : declaredNames (rewritten.context.fill rewritten.object) = frame.locals := by
    rw [declaredNames_fill _ noBody (noBody_of_isMarkup rewritten.markup), ← rewritten.body_eq,
      inner.declaredNames_eq, rewritten.locals_eq]
  have parts : callbackParts? (list.mapping.call callee rewritten.parameters
      (rewritten.context.fill rewritten.object)) =
        some (rewritten.parameters, rewritten.context.fill rewritten.object) :=
    callbackParts?_of_shape (Node.withoutParentheses_of_form nofun)
  rw [templateLoop?, loopParts?_of_loopWrapper only.item only.index rewritten.wrapped]
  simp only [Option.bind_eq_bind, Option.bind_some, parts, rewritten.parameterNames_eq only, keys]
  simp [TemplateLoop.ofFrame, locals]

end Reading

/-! ## Where loops stand -/

/-- Where the loop of a list stands: in the child or in the callback's body of the loop around it,
or somewhere in the tree. -/
def StandsIn (adapter : Adapter) (tree wrapper : Node) : List Trace → Prop
  | .list _ outer _ :: _ => ∃ loop, templateLoop? adapter outer = some loop ∧
      (wrapper ∈ loop.child.nodes ∨ wrapper ∈ loop.body.nodes)
  | _ => wrapper ∈ tree.nodes

/-- An element in parentheses is also there without them. -/
theorem mem_nodes_withoutParentheses {node inner : Node} (inside : inner ∈ node.nodes)
    (element : inner.form = .element) : inner ∈ node.withoutParentheses.nodes := by
  fun_induction Node.withoutParentheses node with
  | case1 start content ih =>
      rcases Node.mem_nodes_mk.1 inside with rfl | ⟨part, member, within⟩
      · cases element
      · exact ih (List.mem_singleton.1 member ▸ within)
  | case2 node other => exact inside

/-- An element in a body is in its result, or stays whatever the result is. -/
theorem mem_nodes_fill (context : BodyContext) {result inner : Node}
    (inside : inner ∈ (context.fill result).nodes) (element : inner.form = .element) :
    inner ∈ result.nodes ∨ ∀ other, inner ∈ (context.fill other).nodes := by
  cases context with
  | whole => exact .inl inside
  | block start closing before returnStart after beforeClear afterClear =>
      rcases Node.mem_nodes_mk.1 inside with rfl | ⟨part, member, within⟩
      · cases element
      rcases List.mem_append.1 member with early | late
      · refine .inr fun other => Node.mem_nodes_mk.2 (.inr ⟨part, ?_, within⟩)
        exact List.mem_append_left _ early
      rcases List.mem_cons.1 late with rfl | late
      · rcases Node.mem_nodes_mk.1 within with rfl | ⟨value, returned, within⟩
        · cases element
        · exact .inl (List.mem_singleton.1 returned ▸ within)
      · refine .inr fun other => Node.mem_nodes_mk.2 (.inr ⟨part, ?_, within⟩)
        exact List.mem_append_right _ (List.mem_cons_of_mem _ late)

section Standing

variable {rules : RewriteRules} {outer : Names} {slot : Slot} {tree expanded wrapper : Node}
  {traces enclosing inside : List Trace} {frame : Frame}
  (derived : Expanded rules outer slot [tree] [expanded] traces)
  (declared : Node.Everywhere (DeclaresOnly IsName) [tree]) (around : ∀ name ∈ outer, IsName name)
  (within : Within traces enclosing frame wrapper inside)
include derived declared around within

/-- A rewritten list can be read off the loop that replaced it. -/
theorem Within.exists_templateLoop :
    ∃ child body, templateLoop? rules.adapter wrapper = some (.ofFrame frame child body) := by
  obtain ⟨only, -⟩ := within.only derived declared around
  obtain ⟨others, otherExpanded, ⟨rewrote⟩, -⟩ := within.rewrote derived
  exact ⟨_, _, rewrote.rewritten.templateLoop?_eq rewrote.inner only⟩

/-- The loop of a list stands in the loop of the list around it. -/
theorem Within.standsIn : StandsIn rules.adapter expanded wrapper enclosing := by
  cases within with
  | here member =>
      obtain ⟨rewrote⟩ := derived.rewrote member
      simpa [StandsIn] using rewrote.placed
  | inside enclosed member =>
      obtain ⟨only, -⟩ := enclosed.only derived declared around
      obtain ⟨others, otherExpanded, ⟨rewrote⟩, -⟩ := enclosed.rewrote derived
      obtain ⟨nested⟩ := rewrote.inner.rewrote member
      have element := (parts_of_loopWrapper nested.rewritten.wrapped).1
      have placed := nested.placed
      simp only [Node.mem_allNodes, List.mem_singleton, exists_eq_left] at placed
      refine ⟨_, rewrote.rewritten.templateLoop?_eq rewrote.inner only, ?_⟩
      rw [rewrote.rewritten.body_eq] at placed
      rcases mem_nodes_fill _ placed element with inResult | inBody
      · exact .inl (mem_nodes_withoutParentheses inResult element)
      · exact .inr (inBody _)

end Standing

end LoopTemplate.Loop
