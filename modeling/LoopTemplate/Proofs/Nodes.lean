import LoopTemplate.Tree.Node

/-!
# Nodes inside nodes
-/

namespace LoopTemplate.Tree.Node

/-- What holds of a node whenever it holds of its parts holds of every node. -/
@[elab_as_elim]
theorem induction_on_parts {motive : Node → Prop} (node : Node)
    (step : ∀ start form parts, (∀ part ∈ parts, motive part) → motive (mk start form parts)) :
    motive node := by
  refine @Node.rec motive (fun parts => ∀ part ∈ parts, motive part) step ?_ ?_ node
  · intro part member
    cases member
  · intro head rest headHolds restHolds part member
    rcases List.mem_cons.1 member with rfl | later
    · exact headHolds
    · exact restHolds part later

mutual

/-- A node and all nodes inside it, in source order. -/
def nodes : Node → List Node
  | mk start form parts => mk start form parts :: allNodes parts

/-- The given nodes and all nodes inside them, in source order. -/
def allNodes : List Node → List Node
  | [] => []
  | node :: rest => node.nodes ++ allNodes rest

end

/-- Whether a name is declared somewhere in a node. -/
def Declares (node : Node) (name : String) : Prop :=
  ∃ inner ∈ node.nodes, inner.form = .binding name

/-- Whether a name is read somewhere in a node. -/
def Reads (node : Node) (name : String) : Prop :=
  ∃ inner ∈ node.nodes, inner.form = .reference name

section Membership

variable {node inner middle : Node} {parts : List Node}

@[simp] theorem mem_allNodes : node ∈ allNodes parts ↔ ∃ part ∈ parts, node ∈ part.nodes := by
  induction parts with
  | nil => simp [allNodes]
  | cons head rest ih => simp [allNodes, ih]

theorem mem_nodes_mk {start : Nat} {form : Form} :
    node ∈ (mk start form parts).nodes ↔
      node = mk start form parts ∨ ∃ part ∈ parts, node ∈ part.nodes := by
  rw [nodes, List.mem_cons, mem_allNodes]

theorem mem_nodes_self (node : Node) : node ∈ node.nodes := by
  obtain ⟨start, form, parts⟩ := node
  exact mem_nodes_mk.2 (.inl rfl)

theorem mem_nodes_of_part {part : Node} (member : part ∈ node.parts) (inside : inner ∈ part.nodes) :
    inner ∈ node.nodes := by
  obtain ⟨start, form, parts⟩ := node
  exact mem_nodes_mk.2 (.inr ⟨part, member, inside⟩)

/-- What is inside a node inside another is inside the other. -/
theorem mem_nodes_trans {outer : Node} (inside : inner ∈ middle.nodes)
    (within : middle ∈ outer.nodes) : inner ∈ outer.nodes := by
  induction outer using induction_on_parts with
  | step start form parts ih =>
      rcases mem_nodes_mk.1 within with rfl | ⟨part, member, within⟩
      · exact inside
      · exact mem_nodes_mk.2 (.inr ⟨part, member, ih part member within⟩)

theorem mem_nodes_of_withoutParentheses (inside : inner ∈ node.withoutParentheses.nodes) :
    inner ∈ node.nodes := by
  fun_induction withoutParentheses node with
  | case1 start inner ih => exact mem_nodes_of_part (by simp) (ih inside)
  | case2 node other => exact inside

end Membership

/-- Whether something holds of the given nodes and of all nodes inside them. -/
def Everywhere (Holds : Node → Prop) (nodes : List Node) : Prop :=
  ∀ node ∈ allNodes nodes, Holds node

section Everywhere

variable {Holds : Node → Prop} {node : Node} {nodes : List Node}

theorem everywhere_nil : Everywhere Holds [] := by simp [Everywhere]

theorem everywhere_cons :
    Everywhere Holds (node :: nodes) ↔ Everywhere Holds [node] ∧ Everywhere Holds nodes := by
  simp [Everywhere, or_imp, forall_and]

theorem everywhere_append {before after : List Node} :
    Everywhere Holds (before ++ after) ↔ Everywhere Holds before ∧ Everywhere Holds after := by
  simp [Everywhere, or_imp, forall_and]

theorem everywhere_mk {start : Nat} {form : Form} {parts : List Node} :
    Everywhere Holds [mk start form parts] ↔
      Holds (mk start form parts) ∧ Everywhere Holds parts := by
  simp [Everywhere, mem_nodes_mk, or_imp, forall_and]

theorem Everywhere.own (everywhere : Everywhere Holds [node]) : Holds node :=
  everywhere node (by simpa using mem_nodes_self node)

/-- What holds everywhere in a node holds everywhere in a node inside it. -/
theorem Everywhere.of_mem {inner : Node} (everywhere : Everywhere Holds [node])
    (inside : inner ∈ node.nodes) : Everywhere Holds [inner] := by
  intro other member
  simp only [mem_allNodes, List.mem_singleton, exists_eq_left] at member
  exact everywhere other (by simpa using mem_nodes_trans member inside)

end Everywhere

theorem withoutParentheses_of_form {node : Node} (other : node.form ≠ .parenthesized) :
    node.withoutParentheses = node := by
  rw [withoutParentheses]
  rintro start inner rfl
  exact other rfl

/-- A node that is not of a form with one part is not so after its parts are changed either. -/
theorem not_lone_map {start otherStart : Nat} {form lone : Form} {parts : List Node}
    (change : Node → Node)
    (other : ∀ start' inner, mk start form parts = mk start' lone [inner] → False) :
    ∀ start' inner, mk otherStart form (parts.map change) = mk start' lone [inner] → False := by
  intro start' inner same
  cases parts with
  | nil => simp at same
  | cons part parts =>
      simp only [List.map_cons, mk.injEq, List.cons.injEq, List.map_eq_nil_iff] at same
      obtain ⟨-, rfl, -, rfl⟩ := same
      exact other start part rfl

end LoopTemplate.Tree.Node
