import LoopTemplate.Proofs.LoopElement

/-!
# Undoing a rewrite

`undo` puts every loop of the template back: braces around the call that is its collection, with the
loop's child as the result of the callback. What comes out is the tree before, tidied: a mapped list
has lost the parentheses around it and around its markup, and its callback declares both an item and
an index.
-/

namespace LoopTemplate.Loop

open LoopTemplate.Grammar (IsName plainParameter)
open LoopTemplate.Tree (Form Node)

/-! ## Putting lists back -/

/-- A statement with the given value, if it returns one. -/
def withReturned (value : Node) : Node → Node
  | .mk start .returnStatement [_] => .mk start .returnStatement [value]
  | statement => statement

/-- A callback's body with the given result. -/
def withResult (result : Node) : Node → Node
  | .mk start (.body closing) statements =>
      .mk start (.body closing) (statements.map (withReturned result))
  | _ => result

/-- A callback with the given result. -/
def callbackWith (result : Node) : Node → Node
  | .mk start (.arrow head) [parameters, body] =>
      .mk start (.arrow head) [parameters, withResult result body]
  | .mk start (.function head) [name, parameters, body] =>
      .mk start (.function head) [name, parameters, withResult result body]
  | callback => callback

/-- A call of `map` with the given result of its callback. -/
def callWith (result : Node) : Node → Node
  | .mk start (.call optional pure closing) [callee, callback] =>
      .mk start (.call optional pure closing) [callee, callbackWith result callback]
  | call => call

mutual

/-- A node with its loops put back as mapped lists. -/
def undo (adapter : Adapter) : Node → Node
  | .mk start .element (opening :: children) =>
      match bracedAttribute? (undo adapter opening) adapter.collection,
          undoAll adapter children with
      | some call, [child] => .mk start .container [callWith child call]
      | _, undone => .mk start .element (undo adapter opening :: undone)
  | .mk start form parts => .mk start form (undoAll adapter parts)

/-- Nodes with their loops put back as mapped lists. -/
def undoAll (adapter : Adapter) : List Node → List Node
  | [] => []
  | node :: nodes => undo adapter node :: undoAll adapter nodes

end

/-! ## Tidying lists -/

/-- A statement that returns no parenthesized value. -/
def openReturned : Node → Node
  | .mk start .returnStatement [value] => .mk start .returnStatement [value.withoutParentheses]
  | statement => statement

/-- A callback's body without parentheses around its result. -/
def openResult : Node → Node
  | .mk start (.body closing) statements =>
      .mk start (.body closing) (statements.map openReturned)
  | body => body.withoutParentheses

/-- Parameters for both an item and an index. Those that are declared are kept. -/
def bothParameters : Node → Node
  | .mk start form parts =>
      .mk start form (parts ++ (["item", "index"].drop parts.length).map (plainParameter 0))

mutual

/-- A node with its mapped lists tidied. -/
def tidy (place : Place) : Node → Node
  | .mk start .container [value] =>
      match place, iteration? value with
      | .child, some _ => .mk start .container [tidyList value]
      | _, _ => .mk start .container [tidy .inner value]
  | .mk start .element (opening :: children) =>
      .mk start .element (tidy .inner opening :: tidyAll .child children)
  | .mk start .fragment children => .mk start .fragment (tidyAll .child children)
  | .mk start form parts => .mk start form (tidyAll .inner parts)

/-- Nodes with their mapped lists tidied. -/
def tidyAll (place : Place) : List Node → List Node
  | [] => []
  | node :: nodes => tidy place node :: tidyAll place nodes

/-- A mapped list without parentheses around it or its markup, and with both parameters. -/
def tidyList : Node → Node
  | .mk _ .parenthesized [inner] => tidyList inner
  | .mk start (.call optional pure closing) [callee, callback] =>
      .mk start (.call optional pure closing) [tidy .inner callee, tidyCallback callback]
  | node => node

/-- The callback of a mapped list without parentheses around its markup, and with both
parameters. -/
def tidyCallback : Node → Node
  | .mk start (.arrow head) [parameters, body] =>
      .mk start (.arrow head) [bothParameters parameters, openResult (tidy .inner body)]
  | .mk start (.function head) [name, parameters, body] =>
      .mk start (.function head) [name, bothParameters parameters, openResult (tidy .inner body)]
  | node => node

end

mutual

/-- A node without its offset, and so all nodes inside it. -/
def bare : Node → Node
  | .mk _ form parts => .mk 0 form (bareAll parts)

/-- Nodes without their offsets. -/
def bareAll : List Node → List Node
  | [] => []
  | node :: nodes => bare node :: bareAll nodes

end

/-! ## Equations -/

@[simp] theorem undoAll_eq_map (adapter : Adapter) (nodes : List Node) :
    undoAll adapter nodes = nodes.map (undo adapter) := by
  induction nodes with
  | nil => rfl
  | cons node nodes ih => rw [undoAll, ih, List.map_cons]

@[simp] theorem tidyAll_eq_map (place : Place) (nodes : List Node) :
    tidyAll place nodes = nodes.map (tidy place) := by
  induction nodes with
  | nil => rfl
  | cons node nodes ih => rw [tidyAll, ih, List.map_cons]

@[simp] theorem bareAll_eq_map (nodes : List Node) : bareAll nodes = nodes.map bare := by
  induction nodes with
  | nil => rfl
  | cons node nodes ih => rw [bareAll, ih, List.map_cons]

@[simp] theorem bare_mk (start : Nat) (form : Form) (parts : List Node) :
    bare (.mk start form parts) = .mk 0 form (parts.map bare) := by
  rw [bare, bareAll_eq_map]

/-- In a node that is no element only the parts are put back. -/
theorem undo_plain (adapter : Adapter) {start : Nat} {form : Form} {parts : List Node}
    (notElement : ∀ opening children, form = .element → parts = opening :: children → False) :
    undo adapter (.mk start form parts) = .mk start form (parts.map (undo adapter)) := by
  rw [undo, undoAll_eq_map]
  exact notElement

/-- An element without the attribute for a collection stays one. -/
theorem undo_element (adapter : Adapter) {start : Nat} {opening : Node} {children : List Node}
    (unmarked : bracedAttribute? (undo adapter opening) adapter.collection = none) :
    undo adapter (.mk start .element (opening :: children)) =
      .mk start .element ((opening :: children).map (undo adapter)) := by
  simp only [undo, unmarked, undoAll_eq_map, List.map_cons]

theorem tidy_plain {place : Place} {start : Nat} {form : Form} {parts : List Node}
    (plain : Plain form parts)
    (unbraced : place = .child → ∀ value, form = .container → parts = [value] → False) :
    tidy place (.mk start form parts) = .mk start form (parts.map (tidy .inner)) := by
  by_cases braced : form = .container ∧ ∃ value, parts = [value]
  · obtain ⟨rfl, value, rfl⟩ := braced
    cases place with
    | child => exact absurd rfl (unbraced rfl value rfl)
    | inner => simp [tidy]
  · rw [tidy, tidyAll_eq_map]
    · rintro value rfl rfl
      exact braced ⟨rfl, value, rfl⟩
    · exact plain.notElement
    · exact plain.notFragment

/-! ## Parentheses -/

theorem withoutParentheses_bare (node : Node) :
    (bare node).withoutParentheses = bare node.withoutParentheses := by
  fun_induction Node.withoutParentheses node with
  | case1 start inner ih => simpa [Node.withoutParentheses] using ih
  | case2 node other =>
      obtain ⟨start, form, parts⟩ := node
      rw [bare_mk, Node.withoutParentheses]
      exact Node.not_lone_map bare other

theorem withoutParentheses_undo (adapter : Adapter) (node : Node) :
    (undo adapter node).withoutParentheses = undo adapter node.withoutParentheses := by
  fun_induction Node.withoutParentheses node with
  | case1 start inner ih => simpa [undo, Node.withoutParentheses] using ih
  | case2 node other =>
      fun_cases undo adapter node with
      | case1 => exact Node.withoutParentheses_of_form (by simp)
      | case2 => exact Node.withoutParentheses_of_form (by simp)
      | case3 start form parts notElement =>
          rw [undoAll_eq_map, Node.withoutParentheses]
          exact Node.not_lone_map (undo adapter) other

/-! ## Results -/

theorem form_undo (adapter : Adapter) (node : Node) :
    (undo adapter node).form = node.form ∨ (undo adapter node).form = .container := by
  fun_cases undo adapter node with
  | case1 => exact .inr rfl
  | case2 => exact .inl rfl
  | case3 => exact .inl rfl

theorem noReturn_undo (adapter : Adapter) {statement : Node} (clear : NoReturn statement) :
    NoReturn (undo adapter statement) := by
  intro isReturn
  rcases form_undo adapter statement with form_eq | form_eq
  · exact clear (form_eq ▸ isReturn)
  · rw [isReturn] at form_eq
    cases form_eq

theorem withReturned_of_noReturn (value : Node) {statement : Node} (clear : NoReturn statement) :
    withReturned value statement = statement := by
  fun_cases withReturned value statement with
  | case1 => exact absurd rfl clear
  | case2 => rfl

theorem openReturned_of_noReturn {statement : Node} (clear : NoReturn statement) :
    openReturned statement = statement := by
  fun_cases openReturned statement with
  | case1 => exact absurd rfl clear
  | case2 => rfl

theorem withResult_of_noBody (result : Node) {body : Node} (noBody : NoBody body) :
    withResult result body = result := by
  fun_cases withResult result body with
  | case1 => exact absurd rfl (noBody _)
  | case2 => rfl

theorem openResult_of_noBody {body : Node} (noBody : NoBody body) :
    openResult body = body.withoutParentheses := by
  fun_cases openResult body with
  | case1 => exact absurd rfl (noBody _)
  | case2 => rfl

theorem noBody_undo (adapter : Adapter) {node : Node} (noBody : NoBody node) :
    NoBody (undo adapter node) := by
  intro closing isBody
  rcases form_undo adapter node with form_eq | form_eq
  · exact noBody closing (form_eq ▸ isBody)
  · rw [isBody] at form_eq
    cases form_eq

/-- Putting markup back in the place of the object opens the parentheses around it. -/
theorem withResult_undo_fill (adapter : Adapter) (context : BodyContext) {object result : Node}
    (objectNoBody : NoBody object) (resultNoBody : NoBody result) :
    withResult (undo adapter result.withoutParentheses) (undo adapter (context.fill object)) =
      openResult (undo adapter (context.fill result)) := by
  rw [← withoutParentheses_undo]
  cases context with
  | whole =>
      rw [BodyContext.fill, BodyContext.fill,
        withResult_of_noBody _ (noBody_undo adapter objectNoBody),
        openResult_of_noBody (noBody_undo adapter resultNoBody)]
  | block start closing before returnStart after beforeClear afterClear =>
      have kept : ∀ statements : List Node, (∀ statement ∈ statements, NoReturn statement) →
          ∀ value, (statements.map (undo adapter)).map (withReturned value) =
            (statements.map (undo adapter)).map openReturned := by
        intro statements clear value
        refine List.map_congr_left fun statement member => ?_
        obtain ⟨original, among, rfl⟩ := List.mem_map.1 member
        have clear' := noReturn_undo adapter (clear original among)
        rw [withReturned_of_noReturn value clear', openReturned_of_noReturn clear']
      simp only [BodyContext.fill, undo, undoAll_eq_map, withResult, openResult, List.map_append,
        List.map_cons, List.map_nil, withReturned, openReturned, kept before beforeClear,
        kept after afterClear]

theorem openReturned_bare (statement : Node) :
    openReturned (bare statement) = bare (openReturned statement) := by
  fun_cases openReturned statement with
  | case1 start value => simp [openReturned, withoutParentheses_bare]
  | case2 statement other =>
      obtain ⟨start, form, parts⟩ := statement
      rw [bare_mk, openReturned]
      exact Node.not_lone_map bare other

theorem openResult_bare (body : Node) : openResult (bare body) = bare (openResult body) := by
  fun_cases openResult body with
  | case1 start closing statements => simp [openResult, openReturned_bare]
  | case2 body other =>
      obtain ⟨start, form, parts⟩ := body
      have noBody : NoBody (bare (.mk start form parts)) := by
        rw [bare_mk]
        rintro closing rfl
        exact other start closing parts rfl
      rw [openResult_of_noBody noBody, withoutParentheses_bare]

/-! ## Trees that can be put back -/

/-- Whether a node is a name that is declared, with nothing inside, or a missing part. -/
def isOptionalName : Node → Bool
  | .mk _ (.binding _) [] | .mk _ .absent [] => true
  | _ => false

/-- Whether a node is an opening tag. -/
def isOpening : Node → Bool
  | .mk _ (.opening _ _) _ => true
  | _ => false

/-- Whether a node has the parts that its form asks for, as far as a rewrite relies on them. -/
def isWellFormed : Node → Bool
  | .mk _ (.binding name) parts => decide (IsName name) && parts.isEmpty
  | .mk _ (.member _ _) parts => parts.length == 1
  | .mk _ (.arrow _) [parameters, _] => parameters.form == .parameters
  | .mk _ (.arrow _) _ => false
  | .mk _ (.function _) [name, parameters, _] =>
      isOptionalName name && parameters.form == .parameters
  | .mk _ (.function _) _ => false
  | .mk _ .element (opening :: _) => isOpening opening
  | .mk _ .element [] => false
  | _ => true

theorem binding_of_isWellFormed {start : Nat} {name : String} {parts : List Node}
    (wellFormed : isWellFormed (.mk start (.binding name) parts) = true) :
    IsName name ∧ parts = [] := by
  simpa [isWellFormed] using wellFormed

theorem opening_of_isOpening {node : Node} (opens : isOpening node = true) :
    ∃ start tag selfClosing attributes, node = .mk start (.opening tag selfClosing) attributes := by
  unfold isOpening at opens
  split at opens
  case h_1 start tag selfClosing attributes => exact ⟨start, tag, selfClosing, attributes, rfl⟩
  case h_2 => cases opens

theorem undo_of_isOptionalName (adapter : Adapter) {node : Node}
    (named : isOptionalName node = true) : undo adapter node = node := by
  unfold isOptionalName at named
  split at named
  case h_1 => simp [undo]
  case h_2 => simp [undo]
  case h_3 => cases named

/-- The nodes between the tags of a node. -/
def childrenOf : Node → List Node
  | .mk _ .element (_ :: children) => children
  | .mk _ .fragment children => children
  | _ => []

/-- Whether a node between tags is a mapped list in braces. -/
def isMatched : Node → Bool
  | .mk _ .container [value] => (iteration? value).isSome
  | _ => false

/-- Whether the callback of a node, if that is a mapped list, has no parameter with a default
value. -/
def NoDefaults : Node → Prop
  | .mk _ .container [value] => (iteration? value).isSome →
      ∀ parts ∈ (callbackParts? value).toList, ∀ parameter ∈ parts.1.parts,
        parameter.parts.length = 1
  | _ => True

instance (node : Node) : Decidable (NoDefaults node) := by
  unfold NoDefaults
  split <;> infer_instance

/-- A node that is well formed and has no mapped list between its tags whose callback has default
values. -/
structure Rewritable (node : Node) : Prop where
  wellFormed : isWellFormed node = true
  noDefaults : ∀ child ∈ childrenOf node, NoDefaults child

instance (node : Node) : Decidable (Rewritable node) :=
  decidable_of_iff (isWellFormed node = true ∧ ∀ child ∈ childrenOf node, NoDefaults child)
    ⟨fun ⟨wellFormed, noDefaults⟩ => ⟨wellFormed, noDefaults⟩,
      fun rewritable => ⟨rewritable.wellFormed, rewritable.noDefaults⟩⟩

/-- A node that is well formed, is no loop of the template, and has no mapped list between its tags
whose callback has default values. -/
structure Undoable (adapter : Adapter) (node : Node) : Prop where
  wellFormed : isWellFormed node = true
  noLoop : isLoop adapter node = false
  noDefaults : ∀ child ∈ childrenOf node, NoDefaults child

instance (adapter : Adapter) (node : Node) : Decidable (Undoable adapter node) :=
  decidable_of_iff (isWellFormed node = true ∧ isLoop adapter node = false ∧
      ∀ child ∈ childrenOf node, NoDefaults child)
    ⟨fun ⟨wellFormed, noLoop, noDefaults⟩ => ⟨wellFormed, noLoop, noDefaults⟩,
      fun undoable => ⟨undoable.wellFormed, undoable.noLoop, undoable.noDefaults⟩⟩

/-- Nodes of a kind, at a place at which a rewrite leaves no mapped list in them. -/
structure Suits (Good : Node → Prop) (slot : Slot) (nodes : List Node) : Prop where
  good : Node.Everywhere Good nodes
  rewritable : Node.Everywhere Rewritable nodes
  noDefaults : slot = .place .child → ∀ node ∈ nodes, NoDefaults node
  isMap : slot = .callee → ∀ node ∈ nodes, isMapCallee node = true

namespace Suits

variable {Good : Node → Prop} {slot : Slot} {start : Nat}

theorem cons {node : Node} {nodes : List Node} (suits : Suits Good slot (node :: nodes)) :
    Suits Good slot [node] ∧ Suits Good slot nodes := by
  obtain ⟨headGood, tailGood⟩ := Node.everywhere_cons.1 suits.good
  obtain ⟨headRewritable, tailRewritable⟩ := Node.everywhere_cons.1 suits.rewritable
  constructor
  · refine ⟨headGood, headRewritable, fun at_child other member => ?_,
      fun at_callee other member => ?_⟩
    · exact suits.noDefaults at_child other (by simp_all)
    · exact suits.isMap at_callee other (by simp_all)
  · refine ⟨tailGood, tailRewritable, fun at_child other member => ?_,
      fun at_callee other member => ?_⟩
    · exact suits.noDefaults at_child other (List.mem_cons_of_mem _ member)
    · exact suits.isMap at_callee other (List.mem_cons_of_mem _ member)

theorem inner {nodes : List Node} (good : Node.Everywhere Good nodes)
    (rewritable : Node.Everywhere Rewritable nodes) : Suits Good (.place .inner) nodes :=
  ⟨good, rewritable, nofun, nofun⟩

theorem parts {form : Form} {parts : List Node} (suits : Suits Good slot [.mk start form parts]) :
    Suits Good (.place .inner) parts :=
  .inner (Node.everywhere_mk.1 suits.good).2 (Node.everywhere_mk.1 suits.rewritable).2

theorem element {opening : Node} {children : List Node}
    (suits : Suits Good slot [.mk start .element (opening :: children)]) :
    Suits Good (.place .inner) [opening] ∧ Suits Good (.place .child) children := by
  obtain ⟨own, -⟩ := Node.everywhere_mk.1 suits.rewritable
  obtain ⟨openingSuits, childrenSuit⟩ := suits.parts.cons
  exact ⟨openingSuits, childrenSuit.good, childrenSuit.rewritable, fun _ => own.noDefaults, nofun⟩

theorem fragment {children : List Node} (suits : Suits Good slot [.mk start .fragment children]) :
    Suits Good (.place .child) children := by
  obtain ⟨own, inside⟩ := Node.everywhere_mk.1 suits.rewritable
  exact ⟨suits.parts.good, inside, fun _ => own.noDefaults, nofun⟩

theorem list {value : Node} {iteration : Iteration} (list : MatchedList value iteration)
    (suits : Suits Good slot [.mk start .container [value]]) :
    Suits Good .callee [list.callee] ∧ Suits Good (.place .inner) [list.body] := by
  obtain ⟨calleeGood, -, bodyGood⟩ := list.everywhere (Node.everywhere_mk.1 suits.good).2
  obtain ⟨calleeRewritable, -, bodyRewritable⟩ :=
    list.everywhere (Node.everywhere_mk.1 suits.rewritable).2
  refine ⟨⟨calleeGood, calleeRewritable, nofun, fun _ node member => ?_⟩,
    .inner bodyGood bodyRewritable⟩
  rw [List.mem_singleton.1 member]
  exact list.isMap

theorem parenthesized {callee : Node}
    (suits : Suits Good .callee [.mk start .parenthesized [callee]]) :
    Suits Good .callee [callee] := by
  refine ⟨suits.parts.good, suits.parts.rewritable, nofun, fun _ node member => ?_⟩
  rw [List.mem_singleton.1 member]
  have isMap := suits.isMap rfl _ List.mem_cons_self
  rwa [isMapCallee, Node.withoutParentheses] at isMap

/-- The callee of a mapped list is a property of its collection, in parentheses or not. -/
theorem member {node : Node} (suits : Suits Good .callee [node])
    (notParenthesized : ∀ start inner, node = .mk start .parenthesized [inner] → False) :
    ∃ start name optional object, node = .mk start (.member name optional) [object] := by
  have isMap := suits.isMap rfl _ List.mem_cons_self
  rw [isMapCallee, Node.withoutParentheses] at isMap
  · split at isMap
    case h_1 optional form_eq =>
      obtain ⟨start, form, parts⟩ := node
      cases form_eq
      have single := (Node.everywhere_mk.1 suits.rewritable).1.wellFormed
      obtain ⟨object, rfl⟩ := List.length_eq_one_iff.1 (eq_of_beq single)
      exact ⟨start, "map", optional, object, rfl⟩
    case h_2 => cases isMap
  · exact notParenthesized

/-- An element has an opening tag. -/
theorem notElement {form : Form} {parts : List Node}
    (suits : Suits Good slot [.mk start form parts])
    (plain : Plain form parts) : form ≠ .element := by
  rintro rfl
  cases parts with
  | nil =>
      exact absurd (Node.everywhere_mk.1 suits.rewritable).1.wellFormed (by simp [isWellFormed])
  | cons opening children => exact plain.notElement opening children rfl rfl

theorem names {nodes : List Node} (suits : Suits Good slot nodes) :
    Node.Everywhere (DeclaresOnly IsName) nodes := by
  intro node member name form_eq
  have wellFormed := (suits.rewritable node member).wellFormed
  obtain ⟨start, form, parts⟩ := node
  cases form_eq
  exact (binding_of_isWellFormed wellFormed).1

end Suits

/-- Nodes at a place at which they can be put back after a rewrite. -/
abbrev Fit (adapter : Adapter) : Slot → List Node → Prop := Suits (Undoable adapter)

theorem Fit.inner {adapter : Adapter} {nodes : List Node}
    (undoable : Node.Everywhere (Undoable adapter) nodes) : Fit adapter (.place .inner) nodes :=
  Suits.inner undoable fun node member =>
    ⟨(undoable node member).wellFormed, (undoable node member).noDefaults⟩

/-! ## Parameters -/

/-- A parameter that is a plain name and nothing else. -/
def IsPlainParameter (name : String) (parameter : Node) : Prop :=
  ∃ start bindingStart, parameter = .mk start .parameter [.mk bindingStart (.binding name) []]

/-- Parameters that are plain names. -/
def PlainParameters (parameters : Node) : Prop :=
  ∃ start parts, parameters = .mk start .parameters parts ∧
    ∀ parameter ∈ parts, ∃ name, IsPlainParameter name parameter

section Parameters

variable {adapter : Adapter}

theorem IsPlainParameter.bare_eq {name : String} {parameter : Node}
    (plain : IsPlainParameter name parameter) : bare parameter = bare (plainParameter 0 name) := by
  obtain ⟨start, bindingStart, rfl⟩ := plain
  simp [plainParameter]

theorem IsPlainParameter.undo_eq {name : String} {parameter : Node}
    (plain : IsPlainParameter name parameter) : undo adapter parameter = parameter := by
  obtain ⟨start, bindingStart, rfl⟩ := plain
  simp [undo]

/-- A parameter with a plain name and no default value has nothing else. -/
theorem plain_of_parameterName? {parameter : Node} {name : String}
    (rewritable : Node.Everywhere Rewritable [parameter])
    (named : parameterName? parameter = some name) (alone : parameter.parts.length = 1) :
    IsPlainParameter name parameter := by
  obtain ⟨start, bindingStart, bindingParts, rest, rfl⟩ := parameter_of_parameterName? named
  obtain rfl : rest = [] := by simpa using alone
  have binding := (Node.everywhere_mk.1 (Node.everywhere_mk.1 rewritable).2).1
  obtain rfl : bindingParts = [] := (binding_of_isWellFormed binding.wellFormed).2
  exact ⟨start, bindingStart, rfl⟩

/-- Parameters that are plain names are put back as they are. -/
theorem bare_plainParameters (adapter : Adapter) {parameters : List Node} {names : List String}
    (rewritable : Node.Everywhere Rewritable parameters)
    (named : parameters.map parameterName? = names.map some)
    (alone : ∀ parameter ∈ parameters, parameter.parts.length = 1) :
    parameters.map bare = names.map (fun name => bare (plainParameter 0 name)) ∧
      parameters.map (undo adapter) = parameters := by
  induction parameters generalizing names with
  | nil =>
      obtain rfl : names = [] := by simpa using named.symm
      exact ⟨rfl, rfl⟩
  | cons parameter parameters ih =>
      cases names with
      | nil => cases named
      | cons name names =>
          simp only [List.map_cons, List.cons.injEq] at named
          obtain ⟨headRewritable, tailRewritable⟩ := Node.everywhere_cons.1 rewritable
          have headPlain :=
            plain_of_parameterName? headRewritable named.1 (alone _ List.mem_cons_self)
          obtain ⟨tailBare, tailUndo⟩ := ih tailRewritable named.2
            fun other member => alone other (List.mem_cons_of_mem _ member)
          simp only [List.map_cons, headPlain.bare_eq, headPlain.undo_eq, tailBare, tailUndo,
            and_self]

section Spelled

variable {value : Node} {iteration : Iteration} {list : MatchedList value iteration}
  (rewritable : Node.Everywhere Rewritable [list.parameters])
  (form_eq : list.parameters.form = .parameters)
  (alone : ∀ parameter ∈ list.parameters.parts, parameter.parts.length = 1)
include rewritable form_eq alone

theorem plainParameters_of_list : PlainParameters list.parameters := by
  have named := (plain_of_parameterNames? list.declared).2
  cases declared : list.parameters with
  | mk start form parts =>
      rw [declared] at rewritable form_eq alone named
      cases form_eq
      refine ⟨start, parts, rfl, fun parameter member => ?_⟩
      have found : parameterName? parameter ∈ list.names.map some :=
        named ▸ List.mem_map.2 ⟨parameter, member, rfl⟩
      obtain ⟨name, -, name_eq⟩ := List.mem_map.1 found
      have inside : Node.Everywhere Rewritable [parameter] :=
        rewritable.of_mem (Node.mem_nodes_of_part member (Node.mem_nodes_self parameter))
      exact ⟨name, plain_of_parameterName? inside name_eq.symm (alone parameter member)⟩

variable {parameters : Node} (item : IsName iteration.itemName) (index : IsName iteration.indexName)
  (spelled : spellParameters iteration list.parameters = .ok parameters)
include item index spelled

theorem plainParameters_of_spellParameters : PlainParameters parameters := by
  unfold spellParameters at spelled
  split at spelled
  case isTrue =>
    obtain ⟨start, first, second, rfl⟩ := parametersSnippet_cases item index spelled
    refine ⟨start, _, rfl, fun parameter member => ?_⟩
    simp only [List.mem_cons, List.not_mem_nil, or_false] at member
    rcases member with rfl | rfl
    · exact ⟨_, first, first, rfl⟩
    · exact ⟨_, second, second, rfl⟩
  case isFalse =>
    cases spelled
    exact plainParameters_of_list rewritable form_eq alone

/-- The parameters of a rewritten list are those declared, and those left out. -/
theorem bare_spellParameters (adapter : Adapter) :
    bare (undo adapter parameters) = bare (bothParameters list.parameters) := by
  obtain ⟨few, named⟩ := plain_of_parameterNames? list.declared
  have names_eq := list.names_eq
  cases declared : list.parameters with
  | mk start form parts =>
      rw [declared] at rewritable form_eq alone few named spelled
      cases form_eq
      have length_eq : parts.length = list.names.length := by
        simpa using congrArg List.length named
      obtain ⟨partsBare, partsUndo⟩ :=
        bare_plainParameters adapter (Node.everywhere_mk.1 rewritable).2 named alone
      have expected : bare (bothParameters (.mk start .parameters parts)) =
          .mk 0 .parameters ([iteration.itemName, iteration.indexName].map
            fun name => bare (plainParameter 0 name)) := by
        rw [names_eq, bothParameters, bare_mk, List.map_append, List.map_append, partsBare,
          List.map_map, length_eq]
        rfl
      rw [expected]
      unfold spellParameters at spelled
      split at spelled
      case isTrue =>
        obtain ⟨start, first, second, rfl⟩ := parametersSnippet_cases item index spelled
        simp [undo, plainParameter]
      case isFalse both =>
        cases spelled
        have full : list.names.length = 2 := by
          simp only [Node.parts_mk] at both few
          omega
        simp only [undo, undoAll_eq_map, partsUndo, bare_mk, partsBare, names_eq, full]
        simp

end Spelled

end Parameters

/-! ## Elements -/

/-- Nodes outside of tags keep their forms. -/
theorem Expanded.map_form {rules : RewriteRules} {outer : Names} {slot : Slot}
    {nodes expanded : List Node} {traces : List Trace}
    (derived : Expanded rules outer slot nodes expanded traces) (inner : slot = .place .inner) :
    expanded.map Node.form = nodes.map Node.form := by
  induction derived with
  | nil => rfl
  | cons head tail headIh tailIh => simpa using ⟨by simpa using headIh inner, tailIh inner⟩
  | container | list => cases inner
  | element | fragment | plain => rfl
  | parenthesized | member | kept => cases inner

theorem isAttribute_eq_of_form {name : String} {node other : Node} (same : node.form = other.form) :
    isAttribute name node = isAttribute name other := by
  obtain ⟨start, form, parts⟩ := node
  obtain ⟨otherStart, otherForm, otherParts⟩ := other
  cases same
  cases form <;> rfl

theorem any_isAttribute_eq {name : String} {nodes others : List Node}
    (same : nodes.map Node.form = others.map Node.form) :
    nodes.any (isAttribute name) = others.any (isAttribute name) := by
  induction nodes generalizing others with
  | nil =>
      obtain rfl : others = [] := by simpa using same.symm
      rfl
  | cons node nodes ih =>
      cases others with
      | nil => cases same
      | cons other others =>
          simp only [List.map_cons, List.cons.injEq] at same
          rw [List.any_cons, List.any_cons, isAttribute_eq_of_form same.1, ih same.2]

theorem isAttribute_of_bracedValue? {adapter : Adapter} {name : String} {node value : Node}
    (found : bracedValue? name (undo adapter node) = some value) :
    isAttribute name node = true := by
  have braced : ∀ other, bracedValue? name other = some value → isAttribute name other = true := by
    intro other found
    unfold bracedValue? at found
    split at found
    case h_1 start attributeName inner value =>
      split at found
      case isTrue spelled => exact spelled
      case isFalse => cases found
    case h_2 => cases found
  have undone := braced _ found
  rcases form_undo adapter node with form_eq | form_eq
  · rw [← isAttribute_eq_of_form form_eq]
    exact undone
  · have container : (undo adapter node).form = (Node.mk 0 .container []).form := form_eq
    rw [isAttribute_eq_of_form container] at undone
    cases undone

section Opening

variable {rules : RewriteRules} {outer : Names} {opening first : Node} {traces : List Trace}
  {start : Nat} {children : List Node}

/-- An element without the attribute for a collection has none after its opening tag was expanded,
and after that was put back. -/
theorem noLoop_of_expanded {adapter : Adapter}
    (undoable : Undoable adapter (.mk start .element (opening :: children)))
    (derived : Expanded rules outer (.place .inner) [opening] [first] traces) (rest : List Node) :
    isLoop adapter (.mk start .element (first :: rest)) = false ∧
      bracedAttribute? (undo adapter first) adapter.collection = none := by
  obtain ⟨openingStart, tag, selfClosing, attributes, rfl⟩ :=
    opening_of_isOpening undoable.wellFormed
  cases derived with
  | plain plain unbraced inner =>
      rename_i expanded
      have noAttribute : expanded.any (isAttribute adapter.collection) = false := by
        rw [any_isAttribute_eq (inner.map_form rfl)]
        exact undoable.noLoop
      refine ⟨noAttribute, ?_⟩
      simp only [undo, undoAll_eq_map, bracedAttribute?, Node.parts_mk]
      refine List.findSome?_eq_none_iff.2 fun undone member => ?_
      obtain ⟨original, among, rfl⟩ := List.mem_map.1 member
      cases found : bracedValue? adapter.collection (undo adapter original) with
      | none => rfl
      | some value =>
          exact absurd (isAttribute_of_bracedValue? found)
            (List.any_eq_false.1 noAttribute original among)

end Opening

/-! ## What a rewrite keeps -/

/-- What can be seen of a node after a rewrite: whether it is a loop, and what it is once the loops
are put back. -/
def seen (adapter : Adapter) (node : Node) : Bool × Node :=
  (isLoop adapter node, bare (undo adapter node))

/-- What a node is expected to be seen as after a rewrite. -/
def expected (place : Place) (node : Node) : Bool × Node :=
  (place = .child && isMatched node, bare (tidy place node))

/-- The place of a slot. A callee stands outside of tags. -/
@[simp] def Slot.toPlace : Slot → Place
  | .place there => there
  | .callee => .inner

theorem bare_undo_of_seen {adapter : Adapter} {place : Place} {nodes expanded : List Node}
    (seen_eq : expanded.map (seen adapter) = nodes.map (expected place)) :
    (expanded.map (undo adapter)).map bare = (nodes.map (tidy place)).map bare := by
  simpa [seen, expected, Function.comp_def] using congrArg (List.map Prod.snd) seen_eq

theorem isLoop_of_form {adapter : Adapter} {node : Node} (other : node.form ≠ .element) :
    isLoop adapter node = false := by
  unfold isLoop
  split
  case h_1 => exact absurd rfl other
  case h_2 => rfl

theorem isMatched_of_unbraced {place : Place} {start : Nat} {form : Form} {parts : List Node}
    (unbraced : place = .child → ∀ value, form = .container → parts = [value] → False) :
    (place = .child && isMatched (.mk start form parts)) = false := by
  cases place with
  | inner => rfl
  | child =>
      unfold isMatched
      split
      case h_1 otherStart value same =>
        cases same
        exact (unbraced rfl value rfl rfl).elim
      case h_2 => rfl

/-- A node that stays what it is is seen as expected, if its parts are. -/
theorem seen_of_parts {adapter : Adapter} {place : Place} {start : Nat} {form : Form}
    {parts tidied expanded : List Node} (noLoop : isLoop adapter (.mk start form expanded) = false)
    (unmatched : (place = .child && isMatched (.mk start form parts)) = false)
    (undone : undo adapter (.mk start form expanded) =
      .mk start form (expanded.map (undo adapter)))
    (tidied_eq : tidy place (.mk start form parts) = .mk start form tidied)
    (same : (expanded.map (undo adapter)).map bare = tidied.map bare) :
    seen adapter (.mk start form expanded) = expected place (.mk start form parts) := by
  simp only [seen, expected, noLoop, unmatched, undone, tidied_eq, bare_mk, same]

section List

variable {adapter : Adapter} {value : Node} {iteration : Iteration}

theorem undo_loopElement {item index : String} {call child : Node}
    (outer first firstInner second secondInner third thirdInner : Nat) :
    undo adapter (loopElement adapter item index call child outer first firstInner second
        secondInner third thirdInner) =
      .mk outer .container [callWith (undo adapter child) (undo adapter call)] := by
  simp [loopElement, undo, bracedAttribute?, bracedValue?, Grammar.spells_attributeNameOf]

theorem callWith_undo (mapping : Mapping) (result callee parameters body : Node) :
    callWith result (undo adapter (mapping.call callee parameters body)) =
      .mk mapping.start (.call mapping.optional mapping.pure mapping.closing) [undo adapter callee,
        .mk mapping.callbackStart mapping.form (mapping.lead.map (undo adapter) ++
          [undo adapter parameters, withResult result (undo adapter body)])] := by
  obtain ⟨start, optional, pure, closing, callbackStart, form, lead, callable⟩ := mapping
  cases callable <;> simp [Mapping.call, Mapping.callback, undo, callWith, callbackWith]

theorem tidyList_of_shape {mapping : Mapping} {callee parameters body : Node}
    (shape : value.withoutParentheses = mapping.call callee parameters body) :
    tidyList value =
      .mk mapping.start (.call mapping.optional mapping.pure mapping.closing) [tidy .inner callee,
        .mk mapping.callbackStart mapping.form
          (mapping.lead ++ [bothParameters parameters, openResult (tidy .inner body)])] := by
  fun_induction Node.withoutParentheses value with
  | case1 start inner ih => rw [tidyList, ih shape]
  | case2 node other =>
      subst shape
      obtain ⟨start, optional, pure, closing, callbackStart, form, lead, callable⟩ := mapping
      cases callable <;> simp [Mapping.call, Mapping.callback, tidyList, tidyCallback]

/-- What stands before the parameters of a well-formed callback is at most a name, and the
parameters are parameters. -/
theorem lead_of_wellFormed {mapping : Mapping} {parameters body : Node}
    (wellFormed : isWellFormed (mapping.callback parameters body) = true) :
    (∀ name ∈ mapping.lead, isOptionalName name = true) ∧ parameters.form = .parameters := by
  obtain ⟨start, optional, pure, closing, callbackStart, form, lead, callable⟩ := mapping
  cases callable with
  | arrow head sync => exact ⟨by simp, eq_of_beq wellFormed⟩
  | function head name sync single =>
      obtain ⟨named, form_eq⟩ := Bool.and_eq_true_iff.1 wellFormed
      refine ⟨fun other member => ?_, eq_of_beq form_eq⟩
      rw [List.mem_singleton.1 member]
      exact named

/-- What is known of the callback of a list that a rewrite enters. -/
theorem Suits.callback {Good : Node → Prop} {start : Nat} (list : MatchedList value iteration)
    (suits : Suits Good (.place .child) [.mk start .container [value]])
    (matched : iteration? value = some iteration) :
    (∀ name ∈ list.mapping.lead, isOptionalName name = true) ∧
      Node.Everywhere Rewritable [list.parameters] ∧
      list.parameters.form = .parameters ∧
      ∀ parameter ∈ list.parameters.parts, parameter.parts.length = 1 := by
  have rewritable := (Node.everywhere_mk.1 suits.rewritable).2
  have wellFormed := (Node.everywhere_mk.1 (list.everywhere_call rewritable).2).1.wellFormed
  obtain ⟨leadPlain, form_eq⟩ := lead_of_wellFormed wellFormed
  refine ⟨leadPlain, (list.everywhere rewritable).2.1, form_eq, ?_⟩
  have noDefaults : NoDefaults (.mk start .container [value]) :=
    suits.noDefaults rfl _ List.mem_cons_self
  exact noDefaults (by simp [matched]) (list.parameters, list.body)
    (by simp [callbackParts?_of_shape list.shape_body])

/-- A rewritten list is put back as the list, tidied, if its collection and its body are. -/
theorem seen_rewrittenList {rules : RewriteRules} {outer : Names} {start : Nat}
    {callee body wrapper : Node} {inside : List Trace} {frame : Frame}
    {list : MatchedList value iteration}
    (rewritten : RewrittenList rules outer list callee body inside frame wrapper)
    (fit : Fit rules.adapter (.place .child) [.mk start .container [value]])
    (matched : iteration? value = some iteration) (only : frame.Only IsName)
    (calleeSeen : bare (undo rules.adapter callee) = bare (tidy .inner list.callee))
    (bodySeen : bare (undo rules.adapter body) = bare (tidy .inner list.body)) :
    seen rules.adapter wrapper = expected .child (.mk start .container [value]) := by
  obtain ⟨leadPlain, rewritable, form_eq, alone⟩ := fit.callback list matched
  have leadKept : list.mapping.lead.map (undo rules.adapter) = list.mapping.lead :=
    (List.map_congr_left fun name member =>
      undo_of_isOptionalName rules.adapter (leadPlain name member)).trans (List.map_id' _)
  have parametersSeen := bare_spellParameters rewritable form_eq alone
    (rewritten.item_eq ▸ only.item) (rewritten.index_eq ▸ only.index) rewritten.spelled
    rules.adapter
  have objectNoBody : NoBody rewritten.object := by
    obtain ⟨start, properties, object_eq, -⟩ :=
      handsOver_of_captureObject only.captures rewritten.handed
    rw [object_eq]
    exact nofun
  have resultSeen : bare (withResult (undo rules.adapter rewritten.result.withoutParentheses)
      (undo rules.adapter (rewritten.context.fill rewritten.object))) =
        bare (openResult (tidy .inner list.body)) := by
    rw [withResult_undo_fill rules.adapter rewritten.context objectNoBody
      (noBody_of_isMarkup rewritten.markup), ← rewritten.body_eq, ← openResult_bare, bodySeen,
      openResult_bare]
  obtain ⟨outer, first, firstInner, second, secondInner, third, thirdInner, wrapper_eq⟩ :=
    loopElement_of_loopWrapper only.item only.index rewritten.wrapped
  have isList : isMatched (.mk start .container [value]) = true := by simp [isMatched, matched]
  rw [wrapper_eq]
  simp only [seen, expected, isLoop_loopElement, isList, undo_loopElement, callWith_undo, leadKept,
    tidy, matched, tidyList_of_shape list.shape_body]
  simp [calleeSeen, parametersSeen, resultSeen]

end List

theorem Expanded.seen_eq {rules : RewriteRules} {outer : Names} {slot : Slot}
    {nodes expanded : List Node} {traces : List Trace}
    (derived : Expanded rules outer slot nodes expanded traces)
    (fit : Fit rules.adapter slot nodes) (around : ∀ name ∈ outer, IsName name) :
    expanded.map (seen rules.adapter) = nodes.map (expected slot.toPlace) := by
  induction derived with
  | nil => rfl
  | cons head tail headIh tailIh =>
      obtain ⟨headFit, tailFit⟩ := fit.cons
      have headSeen := headIh headFit around
      have tailSeen := tailIh tailFit around
      simp only [List.map_cons, List.map_nil, List.cons.injEq, and_true] at headSeen
      simp only [List.map_cons, headSeen, tailSeen]
  | container unmatched inner ih =>
      have valueSeen := bare_undo_of_seen (ih fit.parts around)
      refine congrArg (fun pair => [pair]) (seen_of_parts rfl ?_ ?_ ?_ valueSeen)
      · simp [isMatched, unmatched]
      · simp [undo]
      · simp [tidy, unmatched, Slot.toPlace]
  | @list outer start value callee body wrapper iteration list before inside frame matched
      collection inner rewritten collectionIh innerIh =>
      obtain ⟨calleeFit, bodyFit⟩ := fit.list list
      obtain ⟨only, bodyAround⟩ := names_of_list matched collection inner rewritten fit.names around
      have calleeSeen := bare_undo_of_seen (collectionIh calleeFit around)
      have bodySeen := bare_undo_of_seen (innerIh bodyFit bodyAround)
      refine congrArg (fun pair => [pair]) (seen_rewrittenList rewritten fit matched only ?_ ?_)
      · simpa using calleeSeen
      · simpa using bodySeen
  | @element outer place start opening first children rest before after head tail headIh tailIh =>
      obtain ⟨openingFit, childrenFit⟩ := fit.element
      obtain ⟨noLoop, noCall⟩ :=
        noLoop_of_expanded (Node.everywhere_mk.1 fit.good).1 head rest
      have openingSeen := bare_undo_of_seen (headIh openingFit around)
      have childrenSeen := bare_undo_of_seen (tailIh childrenFit around)
      have tidied : tidy place (.mk start .element (opening :: children)) =
          .mk start .element ([opening].map (tidy .inner) ++ children.map (tidy .child)) := by
        simp [tidy]
      refine congrArg (fun pair => [pair]) (seen_of_parts noLoop ?_ ?_ tidied ?_)
      · simp [isMatched]
      · exact undo_element rules.adapter noCall
      · rw [List.map_append]
        simp only [Slot.toPlace] at openingSeen childrenSeen
        rw [← openingSeen, ← childrenSeen]
        rfl
  | fragment inner ih =>
      have childrenSeen := bare_undo_of_seen (ih fit.fragment around)
      refine congrArg (fun pair => [pair]) (seen_of_parts rfl ?_ ?_ ?_ childrenSeen)
      · simp [isMatched]
      · simp [undo]
      · simp [tidy, Slot.toPlace]
  | @plain outer place start form parts expanded traces plain unbraced inner ih =>
      have partsSeen := bare_undo_of_seen (ih fit.parts around)
      have notElement := fit.notElement plain
      refine congrArg (fun pair => [pair])
        (seen_of_parts ?_ ?_ ?_ (tidy_plain plain unbraced) partsSeen)
      · exact isLoop_of_form notElement
      · exact isMatched_of_unbraced unbraced
      · exact undo_plain rules.adapter fun _ _ isElement _ => notElement isElement
  | parenthesized inner ih =>
      have calleeSeen := bare_undo_of_seen (ih fit.parenthesized around)
      refine congrArg (fun pair => [pair]) (seen_of_parts rfl rfl ?_ ?_ calleeSeen)
      · simp [undo]
      · simp [tidy, Slot.toPlace]
  | member inner ih =>
      have objectSeen := bare_undo_of_seen (ih fit.parts around)
      refine congrArg (fun pair => [pair]) (seen_of_parts rfl rfl ?_ ?_ objectSeen)
      · simp [undo]
      · simp [tidy, Slot.toPlace]
  | @kept outer node notParenthesized notMember =>
      obtain ⟨start, name, optional, object, rfl⟩ := fit.member notParenthesized
      exact (notMember start name optional object rfl).elim

end LoopTemplate.Loop
