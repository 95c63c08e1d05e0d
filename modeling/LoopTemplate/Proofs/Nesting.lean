import LoopTemplate.Proofs.LoopElement

/-!
# Lists inside lists

The traces of a rewrite say which lists were rewritten in the body of which. `Within` names a list
together with the lists around it. Each of them was rewritten as `RewrittenList` says, given the
names that the lists around it bind. The loop that replaced it can be read off the result: it
stands in the loop around it, between the tags or in the callback, and has the names that the
trace says.
-/

namespace LoopTemplate.Loop

open LoopTemplate.Grammar (IsName)
open LoopTemplate.Tree (Form Node)

/-! ## Nesting -/

/-- A rewritten list, with the lists in whose bodies it stands, the nearest first. -/
inductive Within (forest : List Trace) : List Trace → Frame → Node → List Trace → Prop where
  | here {frame : Frame} {wrapper : Node} {inside : List Trace}
      (member : .list frame wrapper inside ∈ forest) : Within forest [] frame wrapper inside
  | inside {enclosing inner inside : List Trace} {around frame : Frame} {outer wrapper : Node}
      (enclosed : Within forest enclosing around outer inner)
      (member : .list frame wrapper inside ∈ inner) :
      Within forest (.list around outer inner :: enclosing) frame wrapper inside

/-- The names that a list binds. -/
def Trace.bindings : Trace → List String
  | skipped _ => []
  | list frame _ _ => frame.bindings

/-- The names that lists bind, the nearest first, added to those bound around them. -/
def boundAround (outer : Names) : List Trace → Names
  | [] => outer
  | trace :: enclosing => insertNames (boundAround outer enclosing) trace.bindings

theorem mem_boundAround {outer : Names} {enclosing : List Trace} {name : String} :
    name ∈ boundAround outer enclosing ↔
      name ∈ outer ∨ name ∈ enclosing.flatMap Trace.bindings := by
  induction enclosing with
  | nil => simp [boundAround]
  | cons trace enclosing ih => simp [boundAround, ih, or_comm, or_left_comm]

/-! ## Rewritten lists -/

section Rewrote

variable {rules : RewriteRules} {outer : Names} {slot : Slot} {nodes expanded : List Node}
  {traces enclosing inside : List Trace} {frame : Frame} {wrapper : Node}

/-- A list at any depth was rewritten, with the names that the lists around it bind. -/
theorem Within.rewrote (derived : Expanded rules outer slot nodes expanded traces)
    (within : Within traces enclosing frame wrapper inside) :
    ∃ others otherExpanded,
      Nonempty (Rewrote rules (boundAround outer enclosing) others otherExpanded frame wrapper
        inside) ∧
      ∀ Holds, Node.Everywhere Holds nodes → Node.Everywhere Holds others := by
  induction within with
  | here member => exact ⟨nodes, expanded, derived.rewrote member, fun _ everywhere => everywhere⟩
  | inside enclosed member ih =>
      obtain ⟨others, otherExpanded, ⟨rewrote⟩, found⟩ := ih
      refine ⟨_, _, rewrote.inner.rewrote member, fun Holds everywhere => ?_⟩
      exact (rewrote.list.everywhere (rewrote.found Holds (found Holds everywhere))).2.2

/-- The loops around a list have only names, and so has its own. -/
theorem Within.only (derived : Expanded rules outer slot nodes expanded traces)
    (declared : Node.Everywhere (DeclaresOnly IsName) nodes) (around : ∀ name ∈ outer, IsName name)
    (within : Within traces enclosing frame wrapper inside) :
    frame.Only IsName ∧ ∀ name ∈ boundAround outer enclosing, IsName name := by
  induction within with
  | here member =>
      exact ⟨derived.only isName_item isName_index around declared _ _ _ member, around⟩
  | inside enclosed member ih =>
      obtain ⟨only, outside⟩ := ih
      obtain ⟨others, otherExpanded, ⟨rewrote⟩, found⟩ := enclosed.rewrote derived
      have bound : ∀ name ∈ insertNames (boundAround outer _) (Frame.bindings _), IsName name :=
        fun name inside => (mem_insertNames.1 inside).elim (outside name) (only.bindings name)
      have bodyDeclared :=
        (rewrote.list.everywhere (rewrote.found _ (found _ declared))).2.2
      exact ⟨rewrote.inner.only isName_item isName_index bound bodyDeclared _ _ _ member, bound⟩

end Rewrote

end LoopTemplate.Loop
