import LoopTemplate.Proofs.Flattening
import LoopTemplate.Proofs.Parsing.Words
import LoopTemplate.Proofs.Undo

/-!
# Regular trees

The names in a regular tree are identifiers, and its nodes have the parts that their forms ask for.
What turns an expression that was read into something else keeps it regular.
-/

namespace LoopTemplate.Grammar

open LoopTemplate.Loop (ProperName isOpening isOptionalName isWellFormed)
open LoopTemplate.Tree (Form Node)

/-- Whether a node of a form may have the given parts. -/
def Admits : Form → List Node → Prop
  | .reference name, parts | .binding name, parts => IsName name ∧ parts = []
  | .member _ _, parts => ∃ object, parts = [object]
  | .arrow _, parts =>
      ∃ parameters body, parts = [parameters, body] ∧ parameters.form = .parameters
  | .function _, parts =>
      ∃ name parameters body, parts = [name, parameters, body] ∧ isOptionalName name = true ∧
        parameters.form = .parameters
  | .element, parts => ∃ opening children, parts = opening :: children ∧ isOpening opening = true
  | _, _ => True

/-- Nodes that have the parts that their forms ask for, and so have all nodes inside them. -/
def AllRegular (nodes : List Node) : Prop :=
  Node.Everywhere (fun node => Admits node.form node.parts) nodes

/-- A node that has the parts that its form asks for, and so have all nodes inside it. -/
def Regular (node : Node) : Prop := AllRegular [node]

@[simp, grind .]
theorem allRegular_nil : AllRegular [] := Node.everywhere_nil

@[simp, grind =]
theorem allRegular_cons {node : Node} {nodes : List Node} :
    AllRegular (node :: nodes) ↔ Regular node ∧ AllRegular nodes :=
  Node.everywhere_cons

@[simp, grind =]
theorem allRegular_append {before after : List Node} :
    AllRegular (before ++ after) ↔ AllRegular before ∧ AllRegular after :=
  Node.everywhere_append

@[simp, grind =]
theorem allRegular_reverse {nodes : List Node} : AllRegular nodes.reverse ↔ AllRegular nodes := by
  simp [AllRegular, Node.Everywhere]

@[simp, grind =]
theorem regular_mk {start : Nat} {form : Form} {parts : List Node} :
    Regular (.mk start form parts) ↔ Admits form parts ∧ AllRegular parts :=
  Node.everywhere_mk

attribute [simp] Admits
attribute [grind =] Admits.eq_def Node.form_mk Node.parts_mk

@[simp, grind .]
theorem regular_none : Regular Node.none := by
  simp [Node.none]

theorem allRegular_parts {node : Node} (regular : Regular node) : AllRegular node.parts := by
  obtain ⟨start, form, parts⟩ := node
  exact (regular_mk.1 regular).2

/-- A variable in a regular tree is a name. -/
theorem isName_of_reference {node : Node} {name : String} (regular : Regular node)
    (variable_eq : node.form = .reference name) : IsName name := by
  obtain ⟨start, form, parts⟩ := node
  cases variable_eq
  exact (regular_mk.1 regular).1.1

/-! ## Marking what was read -/

theorem regular_markWrapped {node : Node} (regular : Regular node) :
    Regular (markWrapped node) := by
  fun_cases markWrapped node with
  | case1 | case2 | case3 => simp_all

theorem regular_markPure {node : Node} (regular : Regular node) : Regular (markPure node) := by
  fun_induction markPure node with
  | case1 | case2 | case3 | case7 => grind
  | case4 start inner ih => grind
  | case5 | case6 => grind

theorem regular_markEffectFree {node : Node} (regular : Regular node) :
    Regular (markEffectFree node) := by
  fun_induction markEffectFree node with
  | case1 | case2 | case4 => grind
  | case3 start inner ih => grind

theorem regular_markDeclarator {node : Node} (regular : Regular node) :
    Regular (markDeclarator node) := by
  fun_cases markDeclarator node with
  | case1 => grind [regular_markEffectFree]
  | case2 => exact regular

theorem regular_markDeclaration {node : Node} (regular : Regular node) :
    Regular (markDeclaration node) := by
  fun_cases markDeclaration node with
  | case1 => grind [regular_markDeclarator]
  | case2 => exact regular_markEffectFree regular
  | case3 => exact regular

theorem regular_markStatement {node : Node} (regular : Regular node) :
    Regular (markStatement node) := by
  fun_cases markStatement node with
  | case1 => grind [regular_markDeclaration]
  | case2 => grind [regular_markEffectFree]
  | case3 => exact regular_markDeclaration regular

theorem regular_bareParameter {name : String} (valid : IsName name) (start : Nat) :
    Regular (bareParameter start name) := by
  simp [bareParameter, valid]

theorem regular_of_directive? {raw : Option String} {statement directive : Node}
    (found : directive? raw statement = some directive) : Regular directive := by
  unfold directive? at found
  split at found
  case h_1 =>
    split at found
    · cases found
      simp
    · cases found
  case h_2 => cases found

/-! ## What rewrites rely on -/

theorem isWellFormed_of_admits {node : Node} (admits : Admits node.form node.parts) :
    isWellFormed node = true := by
  obtain ⟨start, form, parts⟩ := node
  cases form with
  | binding name => simpa [isWellFormed] using admits
  | member property optional =>
      obtain ⟨object, rfl⟩ := admits
      rfl
  | arrow head =>
      obtain ⟨parameters, body, rfl, listed⟩ := admits
      simp [isWellFormed, listed]
  | function head =>
      obtain ⟨name, parameters, body, rfl, named, listed⟩ := admits
      simp [isWellFormed, named, listed]
  | element =>
      obtain ⟨opening, children, rfl, opens⟩ := admits
      exact opens
  | _ => rfl

theorem properName_of_admits {node : Node} (admits : Admits node.form node.parts) :
    ProperName node := by
  obtain ⟨start, form, parts⟩ := node
  cases form with
  | reference name => exact admits.2
  | binding name => exact admits
  | _ => trivial

end LoopTemplate.Grammar
