import LoopTemplate.Proofs.Undo

/-!
# Addresses

An address leads from a node to a node inside it, part by part. What stands in what is then a matter
of prefixes: the body of a callback holds whatever has an address that goes on from the body's.

A mapped list has two pieces in which there can be markup, its callee and the body of its callback.
So an address of markup in a list goes on from one of the two (`markup_in_list`), and this decides
which lists hold an address in their bodies when one goes down from a list (`Reached.descend`).
-/

namespace LoopTemplate.Tree

/-- The way from a node to a node inside it: which part to take, step by step. -/
abbrev Address := List Nat

namespace Node

/-- The node at an address. -/
def at? : Node → Address → Option Node
  | node, [] => some node
  | node, position :: address => node.parts[position]?.bind fun part => part.at? address

@[simp] theorem at?_nil (node : Node) : node.at? [] = some node := rfl

theorem at?_cons (node : Node) (position : Nat) (address : Address) :
    node.at? (position :: address) = node.parts[position]?.bind fun part => part.at? address := rfl

theorem at?_append (node : Node) (address further : Address) :
    node.at? (address ++ further) = (node.at? address).bind fun inner => inner.at? further := by
  induction address generalizing node with
  | nil => rfl
  | cons position address ih =>
      rw [List.cons_append, at?_cons, at?_cons]
      cases node.parts[position]? with
      | none => rfl
      | some part => exact ih part

theorem at?_append_of_found {node inner : Node} {address : Address}
    (found : node.at? address = some inner) (further : Address) :
    node.at? (address ++ further) = inner.at? further := by
  rw [at?_append, found]
  rfl

theorem mem_nodes_of_at? {node inner : Node} {address : Address}
    (found : node.at? address = some inner) : inner ∈ node.nodes := by
  induction address generalizing node with
  | nil =>
      cases found
      exact mem_nodes_self inner
  | cons position address ih =>
      rw [at?_cons, Option.bind_eq_some_iff] at found
      obtain ⟨part, taken, inside⟩ := found
      exact mem_nodes_of_part (List.mem_of_getElem? taken) (ih inside)

/-- How many parentheses stand around a node. -/
def parentheses : Node → Nat
  | mk _ .parenthesized [inner] => inner.parentheses + 1
  | _ => 0

theorem at?_parentheses (node : Node) :
    node.at? (List.replicate node.parentheses 0) = some node.withoutParentheses := by
  fun_induction withoutParentheses node with
  | case1 start inner ih =>
      rw [parentheses, List.replicate_succ, at?_cons]
      exact ih
  | case2 node other =>
      rw [parentheses]
      · rfl
      · exact other

/-- A node inside another one is one of the parentheses around that, or inside what they hold. -/
theorem at?_inside_parentheses {node inner : Node} {address : Address}
    (found : node.at? address = some inner) :
    inner.form = .parenthesized ∨
      ∃ rest, address = List.replicate node.parentheses 0 ++ rest ∧
        node.withoutParentheses.at? rest = some inner := by
  fun_induction withoutParentheses node generalizing address with
  | case1 start value ih =>
      cases address with
      | nil =>
          cases found
          exact .inl rfl
      | cons position address =>
          rw [at?_cons, Option.bind_eq_some_iff] at found
          obtain ⟨part, taken, inside⟩ := found
          have atStart : position = 0 ∧ value = part := by
            simpa [List.getElem?_cons, apply_ite] using taken
          obtain ⟨rfl, rfl⟩ := atStart
          rcases ih inside with wrapped | ⟨rest, rfl, deeper⟩
          · exact .inl wrapped
          · exact .inr ⟨rest, by rw [parentheses, List.replicate_succ, List.cons_append], deeper⟩
  | case2 node other =>
      refine .inr ⟨address, ?_, found⟩
      rw [parentheses]
      · rfl
      · exact other

end Node

end LoopTemplate.Tree

namespace LoopTemplate.Loop

open LoopTemplate.Tree (Address Form Node)

/-! ## Places between tags -/

/-- Whether a node is an element or a fragment, outside of parentheses. -/
def HasTags (node : Node) : Prop := node.form = .element ∨ node.form = .fragment

/-- Whether an address leads to a place between tags: to a part of a fragment, or to one of an
element that is not its opening tag. -/
def IsBetweenTags (tree : Node) (address : Address) : Prop :=
  ∃ parent position around, address = parent ++ [position] ∧ tree.at? parent = some around ∧
    (around.form = .fragment ∨ around.form = .element ∧ 0 < position)

/-- Braces between tags, around the given expression. -/
structure Braces (tree : Node) (address : Address) (start : Nat) (value : Node) : Prop where
  found : tree.at? address = some (.mk start .container [value])
  between : IsBetweenTags tree address

/-- Whether at an address there are braces between tags around a call of `map`. -/
def IsCandidate (tree : Node) (address : Address) : Prop :=
  ∃ start value, Braces tree address start value ∧ isMapCall value = true

/-- A mapped list in braces between tags. -/
structure ListAt (tree : Node) (address : Address) (value : Node) (iteration : Iteration) :
    Prop where
  braces : ∃ start, Braces tree address start value
  matched : iteration? value = some iteration

/-- A mapped list is a call of `map`. -/
theorem isMapCall_of_iteration? {value : Node} {iteration : Iteration}
    (matched : iteration? value = some iteration) : isMapCall value = true := by
  obtain ⟨list⟩ := nonempty_of_iteration? matched
  rw [isMapCall, list.shape_body]
  exact list.isMap

theorem ListAt.isCandidate {tree value : Node} {address : Address} {iteration : Iteration}
    (list : ListAt tree address value iteration) : IsCandidate tree address := by
  obtain ⟨start, braces⟩ := list.braces
  exact ⟨start, value, braces, isMapCall_of_iteration? list.matched⟩

theorem ListAt.value_eq {tree value other : Node} {address : Address} {iteration : Iteration}
    {start : Nat} (list : ListAt tree address value iteration)
    (found : tree.at? address = some (.mk start .container [other])) : other = value := by
  obtain ⟨otherStart, braces⟩ := list.braces
  rw [braces.found] at found
  cases found
  rfl

/-! ## Pieces of a mapped list -/

/-- From the expression in the braces to the callee of the call. -/
def calleeAddress (value : Node) : Address := List.replicate value.parentheses 0 ++ [0]

/-- From the expression in the braces to the body of the callback, which is its last part. -/
def bodyAddress (value : Node) : Address :=
  List.replicate value.parentheses 0 ++
    [1, (value.withoutParentheses.part 1).parts.length - 1]

/-- Whether the body of the callback of the mapped list at one address holds what is at another. -/
def HoldsInBody (tree : Node) (list address : Address) : Prop :=
  ∃ value iteration, ListAt tree list value iteration ∧ list ++ 0 :: bodyAddress value <+: address

theorem HoldsInBody.trans {tree : Node} {list address further : Address}
    (holds : HoldsInBody tree list address) (below : address <+: further) :
    HoldsInBody tree list further := by
  obtain ⟨value, iteration, found, goesOn⟩ := holds
  exact ⟨value, iteration, found, goesOn.trans below⟩

/-- No address goes on both from the callee and from the body. -/
theorem not_callee_and_body {list address : Address} {value : Node}
    (inCallee : list ++ 0 :: calleeAddress value <+: address)
    (inBody : list ++ 0 :: bodyAddress value <+: address) : False := by
  obtain ⟨further, rfl⟩ := inCallee
  rw [calleeAddress, bodyAddress] at inBody
  simp [List.prefix_append_right_inj] at inBody

theorem prefix_of_body {list address : Address} {value : Node}
    (inBody : list ++ 0 :: bodyAddress value <+: address) : list <+: address ∧ list ≠ address := by
  refine ⟨(List.prefix_append _ _).trans inBody, ?_⟩
  rintro rfl
  have longer := inBody.length_le
  simp only [List.length_append, List.length_cons] at longer
  omega

section Pieces

variable {value : Node} {iteration : Iteration}

theorem bodyAddress_of_list (list : MatchedList value iteration) :
    bodyAddress value =
      List.replicate value.parentheses 0 ++ [1, list.mapping.lead.length + 1] := by
  rw [bodyAddress, list.shape_body]
  simp [Mapping.call, Mapping.callback, Node.part]

theorem at?_calleeAddress (list : MatchedList value iteration) :
    value.at? (calleeAddress value) = some list.callee := by
  rw [calleeAddress, Node.at?_append_of_found value.at?_parentheses, list.shape_body]
  rfl

theorem at?_bodyAddress (list : MatchedList value iteration) :
    value.at? (bodyAddress value) = some list.body := by
  rw [bodyAddress_of_list list, Node.at?_append_of_found value.at?_parentheses, list.shape_body]
  simp [Mapping.call, Mapping.callback, Node.at?_cons]

/-- Whether the callback of a mapped list has nothing before its body but names. -/
structure PlainHead (list : MatchedList value iteration) : Prop where
  lead : ∀ name ∈ list.mapping.lead, isOptionalName name = true
  parameters : PlainParameters list.parameters

theorem not_hasTags_of_isOptionalName {name inner : Node} (named : isOptionalName name = true)
    (inside : inner ∈ name.nodes) : ¬ HasTags inner := by
  unfold isOptionalName at named
  split at named
  case h_1 | h_2 =>
    obtain rfl : inner = _ := by simpa [Node.mem_nodes_mk] using inside
    simp [HasTags]
  case h_3 => cases named

theorem not_hasTags_of_plainParameters {parameters inner : Node}
    (plain : PlainParameters parameters)
    (inside : inner ∈ parameters.nodes) : ¬ HasTags inner := by
  obtain ⟨start, parts, rfl, each⟩ := plain
  rcases Node.mem_nodes_mk.1 inside with rfl | ⟨parameter, among, within⟩
  · simp [HasTags]
  · obtain ⟨name, parameterStart, bindingStart, rfl⟩ := each parameter among
    simp only [Node.mem_nodes_mk, List.mem_singleton, exists_eq_left, List.not_mem_nil, false_and,
      exists_false, or_false] at within
    rcases within with rfl | rfl <;> simp [HasTags]

theorem not_hasTags_callback (mapping : Mapping) (parameters body : Node) :
    ¬ HasTags (mapping.callback parameters body) := by
  obtain ⟨start, optional, pure, closing, callbackStart, form, lead, callable⟩ := mapping
  cases callable <;> simp [HasTags, Mapping.callback]

/-- Markup in a callback stands in its body. -/
theorem markup_in_callback (list : MatchedList value iteration) (plain : PlainHead list)
    {address : Address} {inner : Node}
    (found : (list.mapping.callback list.parameters list.body).at? address = some inner)
    (tags : HasTags inner) : [list.mapping.lead.length + 1] <+: address := by
  cases address with
  | nil =>
      cases found
      exact absurd tags (not_hasTags_callback list.mapping _ _)
  | cons position address =>
      rw [Node.at?_cons, Option.bind_eq_some_iff] at found
      obtain ⟨part, taken, inside⟩ := found
      simp only [Mapping.callback, Node.parts_mk] at taken
      by_cases leads : position < list.mapping.lead.length
      · rw [List.getElem?_append_left leads] at taken
        exact absurd tags (not_hasTags_of_isOptionalName
          (plain.lead part (List.mem_of_getElem? taken)) (Node.mem_nodes_of_at? inside))
      · obtain ⟨later, rfl⟩ := Nat.exists_eq_add_of_le (Nat.le_of_not_lt leads)
        rw [List.getElem?_append_right (Nat.le_add_right _ _), Nat.add_sub_cancel_left] at taken
        rcases later with - | - | later
        · cases taken
          exact absurd tags
            (not_hasTags_of_plainParameters plain.parameters (Node.mem_nodes_of_at? inside))
        · exact ⟨address, rfl⟩
        · simp at taken

/-- Markup in a mapped list stands in its callee or in the body of its callback. -/
theorem markup_in_list (list : MatchedList value iteration) (plain : PlainHead list)
    {address : Address} {inner : Node} (found : value.at? address = some inner)
    (tags : HasTags inner) : calleeAddress value <+: address ∨ bodyAddress value <+: address := by
  rcases Node.at?_inside_parentheses found with wrapped | ⟨rest, rfl, inside⟩
  · simp [HasTags, wrapped] at tags
  · rw [bodyAddress_of_list list, calleeAddress, List.prefix_append_right_inj,
      List.prefix_append_right_inj]
    rw [list.shape_body] at inside
    cases rest with
    | nil =>
        cases inside
        simp [HasTags, Mapping.call] at tags
    | cons position rest =>
        rw [Node.at?_cons, Option.bind_eq_some_iff] at inside
        obtain ⟨part, taken, inside⟩ := inside
        rcases position with - | - | position
        · exact .inl ⟨rest, rfl⟩
        · cases taken
          exact .inr ((List.prefix_cons_inj 1).2 (markup_in_callback list plain inside tags))
        · simp [Mapping.call] at taken

end Pieces

/-! ## Going down -/

/-- Whether all mapped lists on the way to an address were left by their callee or by the body of
their callback. -/
def Reached (tree : Node) (address : Address) : Prop :=
  ∀ above value iteration, ListAt tree above value iteration → above <+: address →
    above ≠ address →
      above ++ 0 :: calleeAddress value <+: address ∨ above ++ 0 :: bodyAddress value <+: address

/-- Going down from a place to another, past no list but perhaps the one at the place, one enters
the body of that list or of none. -/
theorem Reached.descend {tree : Node} {address : Address} (reached : Reached tree address)
    (target : Address) (below : address <+: target)
    (onlyAbove : ∀ above, IsCandidate tree above → above <+: target → above ≠ target →
      above <+: address)
    (own : ∀ value iteration, ListAt tree address value iteration →
      address ++ 0 :: calleeAddress value <+: target ∨
        address ++ 0 :: bodyAddress value <+: target) :
    Reached tree target ∧
      ∀ list, HoldsInBody tree list target ↔
        HoldsInBody tree list address ∨ list = address ∧ HoldsInBody tree address target := by
  have left : ∀ above value iteration, ListAt tree above value iteration → above <+: target →
      above ≠ target → above = address ∨ above <+: address ∧ above ≠ address ∧
        (above ++ 0 :: calleeAddress value <+: address ∨
          above ++ 0 :: bodyAddress value <+: address) := by
    intro above value iteration found within differs
    have higher := onlyAbove above found.isCandidate within differs
    by_cases same : above = address
    · exact .inl same
    · exact .inr ⟨higher, same, reached above value iteration found higher same⟩
  constructor
  · intro above value iteration found within differs
    rcases left above value iteration found within differs with rfl | ⟨-, -, leaves⟩
    · exact own value iteration found
    · exact leaves.imp (fun goesOn => goesOn.trans below) fun goesOn => goesOn.trans below
  · intro list
    constructor
    · rintro ⟨value, iteration, found, inBody⟩
      obtain ⟨within, differs⟩ := prefix_of_body inBody
      rcases left list value iteration found within differs with rfl | ⟨-, -, inCallee | inside⟩
      · exact .inr ⟨rfl, value, iteration, found, inBody⟩
      · exact (not_callee_and_body (inCallee.trans below) inBody).elim
      · exact .inl ⟨value, iteration, found, inside⟩
    · rintro (holds | ⟨rfl, holds⟩)
      · exact holds.trans below
      · exact holds

/-- Going down to a part of a node that is no mapped list, one enters no body. -/
theorem Reached.part {tree : Node} {address : Address} (reached : Reached tree address)
    (noList : ∀ value iteration, ¬ ListAt tree address value iteration) (position : Nat) :
    Reached tree (address ++ [position]) ∧
      ∀ list, HoldsInBody tree list (address ++ [position]) ↔ HoldsInBody tree list address := by
  have stepped := reached.descend (address ++ [position]) (List.prefix_append _ _)
    (fun above _ within differs => (List.prefix_concat_iff.1 within).resolve_left differs)
    fun value iteration found => (noList value iteration found).elim
  refine ⟨stepped.1, fun list => (stepped.2 list).trans ⟨?_, .inl⟩⟩
  rintro (holds | ⟨-, value, iteration, found, -⟩)
  · exact holds
  · exact (noList value iteration found).elim

section List

variable {tree value : Node} {address : Address} {iteration : Iteration}
  (found : ListAt tree address value iteration) {list : MatchedList value iteration}
  (plain : PlainHead list)
include found plain

/-- A call of `map` between tags that is in a mapped list is that list, or in its callee or in the
body of its callback. -/
theorem candidate_in_list {inner : Address} (candidate : IsCandidate tree inner)
    (below : address <+: inner) :
    inner = address ∨ ∃ parent position, inner = parent ++ [position] ∧
      (address ++ 0 :: calleeAddress value <+: parent ∨
        address ++ 0 :: bodyAddress value <+: parent) := by
  obtain ⟨start, braces⟩ := found.braces
  obtain ⟨_, _, ⟨-, parent, position, around, rfl, aroundFound, tags⟩, -⟩ := candidate
  rcases List.prefix_concat_iff.1 below with same | ⟨rest, rfl⟩
  · exact .inl same.symm
  · refine .inr ⟨_, position, rfl, ?_⟩
    have hasTags : HasTags around := tags.elim .inr fun isElement => .inl isElement.1
    rw [Node.at?_append_of_found braces.found] at aroundFound
    cases rest with
    | nil =>
        cases aroundFound
        simp [HasTags] at hasTags
    | cons step rest =>
        rw [Node.at?_cons, Option.bind_eq_some_iff] at aroundFound
        obtain ⟨part, taken, inside⟩ := aroundFound
        have atStart : step = 0 ∧ value = part := by
          simpa [List.getElem?_cons, apply_ite] using taken
        obtain ⟨rfl, rfl⟩ := atStart
        exact (markup_in_list list plain inside hasTags).imp
          (fun goesOn => (List.prefix_append_right_inj _).2 ((List.prefix_cons_inj 0).2 goesOn))
          fun goesOn => (List.prefix_append_right_inj _).2 ((List.prefix_cons_inj 0).2 goesOn)

/-- No call of `map` between tags stands between a mapped list and its callee or its body. -/
theorem above_piece {target above : Address}
    (piece : target = address ++ 0 :: calleeAddress value ∨
      target = address ++ 0 :: bodyAddress value)
    (candidate : IsCandidate tree above) (within : above <+: target) : above <+: address := by
  have below : address <+: target := by rcases piece with rfl | rfl <;> exact List.prefix_append _ _
  rcases List.prefix_or_prefix_of_prefix within below with higher | lower
  · exact higher
  · rcases candidate_in_list found plain candidate lower with rfl | ⟨parent, position, rfl, inPiece⟩
    · exact List.prefix_rfl
    · have shorter : parent.length < target.length := by
        have fits := within.length_le
        simp only [List.length_append, List.length_singleton] at fits
        omega
      have parentWithin : parent <+: target := (List.prefix_append _ _).trans within
      rcases inPiece with inCallee | inBody <;> rcases piece with rfl | rfl
      · exact absurd inCallee.length_le (by omega)
      · exact (not_callee_and_body (inCallee.trans parentWithin) List.prefix_rfl).elim
      · exact (not_callee_and_body List.prefix_rfl (inBody.trans parentWithin)).elim
      · exact absurd inBody.length_le (by omega)

/-- Going down into the callee of a mapped list, one enters no body. -/
theorem Reached.callee (reached : Reached tree address) :
    Reached tree (address ++ 0 :: calleeAddress value) ∧
      ∀ other, HoldsInBody tree other (address ++ 0 :: calleeAddress value) ↔
        HoldsInBody tree other address := by
  obtain ⟨start, braces⟩ := found.braces
  have stepped := reached.descend (address ++ 0 :: calleeAddress value)
    (List.prefix_append _ _)
    (fun above candidate within _ => above_piece found plain (.inl rfl) candidate within)
    fun other _ otherFound => .inl (otherFound.value_eq braces.found ▸ List.prefix_rfl)
  refine ⟨stepped.1, fun other => (stepped.2 other).trans ⟨?_, .inl⟩⟩
  rintro (holds | ⟨-, otherValue, _, otherFound, inBody⟩)
  · exact holds
  · rw [← otherFound.value_eq braces.found] at inBody
    exact (not_callee_and_body List.prefix_rfl inBody).elim

/-- Going down into the body of the callback of a mapped list, one enters just this body. -/
theorem Reached.body (reached : Reached tree address) :
    Reached tree (address ++ 0 :: bodyAddress value) ∧
      ∀ other, HoldsInBody tree other (address ++ 0 :: bodyAddress value) ↔
        HoldsInBody tree other address ∨ other = address := by
  obtain ⟨start, braces⟩ := found.braces
  have stepped := reached.descend (address ++ 0 :: bodyAddress value)
    (List.prefix_append _ _)
    (fun above candidate within _ => above_piece found plain (.inr rfl) candidate within)
    fun other _ otherFound => .inr (otherFound.value_eq braces.found ▸ List.prefix_rfl)
  refine ⟨stepped.1, fun other => (stepped.2 other).trans (or_congr_right ⟨And.left, ?_⟩)⟩
  intro same
  exact ⟨same, value, iteration, found, List.prefix_rfl⟩

end List

end LoopTemplate.Loop
