import LoopTemplate.Proofs.Expansion
import LoopTemplate.Proofs.Reading.Snippet

/-!
# Lists of an expansion

Each list in the traces of an expansion was rewritten as `RewrittenList` says: it was somewhere in
the nodes, and the loop that replaced it is somewhere in the expanded nodes. What is to be shown
of all rewritten lists follows from this by induction on the traces, where the body of a list has
been expanded as well.
-/

namespace LoopTemplate.Loop

open LoopTemplate.Tree (Form Node)

/-- A loop holds its collection and its child. -/
theorem parts_of_loopWrapper {adapter : Adapter} {item index : String} {call child wrapper : Node}
    (wrapped : loopWrapper adapter item index call child = .ok wrapper) :
    wrapper.form = .element ∧ call ∈ wrapper.nodes ∧ child ∈ wrapper.nodes := by
  obtain ⟨snippet, read, filling⟩ := except_bind_eq_ok wrapped
  obtain ⟨outer, start, inner, selfClosing, value, attributes, children, rfl⟩ :=
    blockWith_of_wrapperSnippet read
  cases filling
  refine ⟨rfl, ?_, ?_⟩
  · simp [Node.mem_nodes_mk, Node.mem_nodes_self]
  · simp [Node.mem_nodes_mk, Node.mem_nodes_self]

/-- A list that was rewritten where the given nodes were expanded, with the names that the loops
around it bind. -/
structure Rewrote (rules : RewriteRules) (outer : Names) (nodes expanded : List Node)
    (frame : Frame) (wrapper : Node) (inside : List Trace) where
  value : Node
  iteration : Iteration
  list : MatchedList value iteration
  matched : iteration? value = some iteration
  callee : Node
  body : Node
  inner : Expanded rules (insertNames outer frame.bindings) (.place .inner) [list.body] [body]
    inside
  rewritten : RewrittenList rules outer list callee body inside frame wrapper
  /-- It was among the nodes. -/
  found : ∀ Holds, Node.Everywhere Holds nodes → Node.Everywhere Holds [value]
  /-- The loop that replaced it is among the expanded nodes. -/
  placed : wrapper ∈ Node.allNodes expanded

namespace Rewrote

variable {rules : RewriteRules} {outer : Names} {nodes expanded others otherExpanded : List Node}
  {frame : Frame} {wrapper : Node} {inside : List Trace}

/-- A list rewritten among some nodes was rewritten among all nodes around them. -/
def widen (rewrote : Rewrote rules outer nodes expanded frame wrapper inside)
    (found : ∀ Holds, Node.Everywhere Holds others → Node.Everywhere Holds nodes)
    (placed : ∀ node ∈ Node.allNodes expanded, node ∈ Node.allNodes otherExpanded) :
    Rewrote rules outer others otherExpanded frame wrapper inside :=
  { rewrote with
    found := fun Holds everywhere => rewrote.found Holds (found Holds everywhere)
    placed := placed _ rewrote.placed }

/-- A list rewritten among the parts of a node was rewritten among the node. -/
def ofParts {start : Nat} {form : Form}
    (rewrote : Rewrote rules outer nodes expanded frame wrapper inside) :
    Rewrote rules outer [.mk start form nodes] [.mk start form expanded] frame wrapper inside :=
  rewrote.widen (fun _ everywhere => (Node.everywhere_mk.1 everywhere).2)
    fun node member => by
      simpa [Node.mem_nodes_mk] using .inr (Node.mem_allNodes.1 member)

end Rewrote

section Rewrote

variable {rules : RewriteRules} {outer : Names} {slot : Slot} {nodes expanded : List Node}
  {traces inside : List Trace} {frame : Frame} {wrapper : Node}

/-- A list in the traces of an expansion was rewritten. -/
theorem Expanded.rewrote (derived : Expanded rules outer slot nodes expanded traces)
    (member : .list frame wrapper inside ∈ traces) :
    Nonempty (Rewrote rules outer nodes expanded frame wrapper inside) := by
  induction derived with
  | nil => cases member
  | @cons outer slot node first next nodes rest before after head tail headIh tailIh =>
      rcases List.mem_append.1 member with early | late
      · obtain ⟨rewrote⟩ := headIh early
        refine ⟨rewrote.widen (fun _ everywhere => (Node.everywhere_cons.1 everywhere).1) ?_⟩
        exact fun node inside => by simp_all
      · obtain ⟨rewrote⟩ := tailIh late
        refine ⟨rewrote.widen (fun _ everywhere => (Node.everywhere_cons.1 everywhere).2) ?_⟩
        exact fun node inside => by simp_all
  | container unmatched inner ih =>
      rcases List.mem_append.1 member with skipped | late
      · split at skipped <;> simp at skipped
      · obtain ⟨rewrote⟩ := ih late
        exact ⟨rewrote.ofParts⟩
  | @list outer start value callee body wrapper iteration list before inside frame matched
      collection inner rewritten collectionIh innerIh =>
      rcases List.mem_append.1 member with early | self
      · obtain ⟨rewrote⟩ := collectionIh early
        refine ⟨rewrote.widen (fun _ everywhere =>
          (list.everywhere (Node.everywhere_mk.1 everywhere).2).1) fun node among => ?_⟩
        have inCall : callee ∈ (list.mapping.call callee rewritten.parameters
            (rewritten.context.fill rewritten.object)).nodes :=
          Node.mem_nodes_of_part List.mem_cons_self (Node.mem_nodes_self callee)
        have inWrapper := Node.mem_nodes_trans inCall (parts_of_loopWrapper rewritten.wrapped).2.1
        simp only [Node.mem_allNodes, List.mem_singleton, exists_eq_left] at among ⊢
        exact Node.mem_nodes_trans among inWrapper
      · cases List.mem_singleton.1 self
        rw [← rewritten.bindings_eq] at inner
        exact ⟨⟨value, iteration, list, matched, callee, body, inner, rewritten,
          fun _ everywhere => (Node.everywhere_mk.1 everywhere).2,
          by simp [Node.mem_nodes_self]⟩⟩
  | @element outer place start opening first children rest before after head tail headIh tailIh =>
      rcases List.mem_append.1 member with early | late
      · obtain ⟨rewrote⟩ := headIh early
        have wider : Rewrote rules _ (opening :: children) (first :: rest) frame wrapper inside :=
          rewrote.widen (fun _ everywhere => (Node.everywhere_cons.1 everywhere).1)
            fun node inside => by simp_all
        exact ⟨wider.ofParts⟩
      · obtain ⟨rewrote⟩ := tailIh late
        have wider : Rewrote rules _ (opening :: children) (first :: rest) frame wrapper inside :=
          rewrote.widen (fun _ everywhere => (Node.everywhere_cons.1 everywhere).2)
            fun node inside => by simp_all
        exact ⟨wider.ofParts⟩
  | fragment inner ih | plain plain unbraced inner ih | parenthesized inner ih | member inner ih =>
      obtain ⟨rewrote⟩ := ih member
      exact ⟨rewrote.ofParts⟩
  | kept notParenthesized notMember => cases member

end Rewrote

end LoopTemplate.Loop
