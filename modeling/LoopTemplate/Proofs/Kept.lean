import LoopTemplate.Proofs.TemplateLoop

/-!
# What a rewrite keeps everywhere

A rewrite takes a mapped list apart and puts its pieces together anew: the collection, the
parameters, the body and the markup, and an object in the place of the markup. So what holds
everywhere in the pieces holds everywhere in the loop, if it holds of the nodes around them
(`RewrittenList.everywhere`). `Expanded.everywhere` says what follows for a whole rewrite.
-/

namespace LoopTemplate.Loop

open LoopTemplate.Grammar (IsName plainParameter plainProperty? quotedAttribute)
open LoopTemplate.Tree (Form Node)

/-- The forms of the nodes that are put around the pieces of a rewritten list. -/
def isScaffold : Form → Bool
  | .call _ _ _ | .arrow _ | .function _ | .body _ | .returnStatement => true
  | .opening _ _ | .attribute _ | .container | .quoted _ => true
  | _ => false

section Pieces

variable {Holds : Node → Prop}
  (scaffold : ∀ start form parts, isScaffold form = true → Holds (.mk start form parts))
include scaffold

theorem everywhere_call {mapping : Mapping} {callee parameters body : Node}
    (leadHolds : Node.Everywhere Holds mapping.lead)
    (calleeHolds : Node.Everywhere Holds [callee])
    (parametersHold : Node.Everywhere Holds [parameters])
    (bodyHolds : Node.Everywhere Holds [body]) :
    Node.Everywhere Holds [mapping.call callee parameters body] := by
  have partsHold := Node.everywhere_append.2
    ⟨leadHolds, Node.everywhere_cons.2 ⟨parametersHold, bodyHolds⟩⟩
  have callbackForm : isScaffold mapping.form = true := by
    obtain ⟨start, optional, pure, closing, callbackStart, form, lead, callable⟩ := mapping
    cases callable <;> rfl
  have callbackHolds : Node.Everywhere Holds [mapping.callback parameters body] :=
    Node.everywhere_mk.2 ⟨scaffold _ _ _ callbackForm, partsHold⟩
  exact Node.everywhere_mk.2
    ⟨scaffold _ _ _ rfl, Node.everywhere_cons.2 ⟨calleeHolds, callbackHolds⟩⟩

/-- What holds everywhere in a body holds everywhere in it with another result. -/
theorem everywhere_fill {context : BodyContext} {result other : Node}
    (bodyHolds : Node.Everywhere Holds [context.fill result])
    (otherHolds : Node.Everywhere Holds [other]) : Node.Everywhere Holds [context.fill other] := by
  cases context with
  | whole => exact otherHolds
  | block start closing before returnStart after beforeClear afterClear =>
      obtain ⟨-, statements⟩ := Node.everywhere_mk.1 bodyHolds
      obtain ⟨beforeHolds, later⟩ := Node.everywhere_append.1 statements
      obtain ⟨-, afterHolds⟩ := Node.everywhere_cons.1 later
      have returnHolds : Node.Everywhere Holds [.mk returnStart .returnStatement [other]] :=
        Node.everywhere_mk.2 ⟨scaffold _ _ _ rfl, otherHolds⟩
      exact Node.everywhere_mk.2 ⟨scaffold _ _ _ rfl, Node.everywhere_append.2
        ⟨beforeHolds, Node.everywhere_cons.2 ⟨returnHolds, afterHolds⟩⟩⟩

variable {rules : RewriteRules} {outer : Names} {value callee body wrapper : Node}
  {iteration : Iteration} {list : MatchedList value iteration} {inside : List Trace} {frame : Frame}

/-- What holds everywhere in the pieces of a rewritten list holds everywhere in its loop. -/
theorem RewrittenList.everywhere
    (rewritten : RewrittenList rules outer list callee body inside frame wrapper)
    (only : frame.Only IsName) (own : Holds wrapper)
    (leadHolds : Node.Everywhere Holds list.mapping.lead)
    (calleeHolds : Node.Everywhere Holds [callee])
    (parametersHold : Node.Everywhere Holds [rewritten.parameters])
    (bodyHolds : Node.Everywhere Holds [body])
    (objectHolds : Node.Everywhere Holds [rewritten.object]) : Node.Everywhere Holds [wrapper] := by
  rw [rewritten.body_eq] at bodyHolds
  have callHolds := everywhere_call scaffold leadHolds calleeHolds parametersHold
    (everywhere_fill scaffold bodyHolds objectHolds)
  have childHolds : Node.Everywhere Holds [rewritten.result.withoutParentheses] :=
    bodyHolds.of_mem (rewritten.context.markup_mem_fill rewritten.result)
  obtain ⟨outer, first, firstInner, second, secondInner, third, thirdInner, wrapper_eq⟩ :=
    loopElement_of_loopWrapper only.item only.index rewritten.wrapped
  have quotedHolds : ∀ start inner name text,
      Node.Everywhere Holds [quotedAttribute start inner name text] := fun _ _ _ _ =>
    Node.everywhere_mk.2 ⟨scaffold _ _ _ rfl,
      Node.everywhere_mk.2 ⟨scaffold _ _ _ rfl, Node.everywhere_nil⟩⟩
  have containerHolds : Node.Everywhere Holds [.mk firstInner .container [_]] :=
    Node.everywhere_mk.2 ⟨scaffold _ _ _ rfl, callHolds⟩
  rw [wrapper_eq] at own ⊢
  refine Node.everywhere_mk.2 ⟨own, Node.everywhere_cons.2 ⟨?_, childHolds⟩⟩
  refine Node.everywhere_mk.2 ⟨scaffold _ _ _ rfl, Node.everywhere_cons.2 ⟨?_,
    Node.everywhere_cons.2 ⟨quotedHolds _ _ _ _, quotedHolds _ _ _ _⟩⟩⟩
  exact Node.everywhere_mk.2 ⟨scaffold _ _ _ rfl, containerHolds⟩

end Pieces

/-- What holds of the nodes of an object that hands over names holds everywhere in it. -/
theorem everywhere_handsOver {Holds : Node → Prop} {object : Node} {names : Names}
    (hands : HandsOver object names) (own : ∀ start parts, Holds (.mk start .object parts))
    (property : ∀ start parts, Holds (.mk start (.property .plain false false false) parts))
    (key : ∀ start name, Holds (.mk start (.word name) []))
    (value : ∀ start, ∀ name ∈ names, Holds (.mk start (.reference name) [])) :
    Node.Everywhere Holds [object] := by
  obtain ⟨start, properties, rfl, seen⟩ := hands
  refine Node.everywhere_mk.2 ⟨own start properties, ?_⟩
  intro node member
  obtain ⟨part, among, inside⟩ := Node.mem_allNodes.1 member
  have found : plainProperty? part ∈ names.map some := seen ▸ List.mem_map_of_mem among
  obtain ⟨name, nameMember, plain⟩ := List.mem_map.1 found
  unfold plainProperty? at plain
  split at plain
  case h_1 =>
    split at plain
    case isTrue =>
      cases plain
      simp only [Node.mem_nodes_mk, List.mem_cons, List.not_mem_nil, or_false, false_and,
        exists_false, exists_eq_or_imp, exists_eq_left] at inside
      rcases inside with rfl | rfl | rfl
      · exact property _ _
      · exact key _ _
      · exact value _ _ nameMember
    case isFalse => cases plain
  case h_2 => cases plain

/-! ## Whole rewrites -/

/-- A property of nodes that a rewrite keeps, if it holds of the objects that it puts in. -/
structure Stable (Holds : Node → Prop) : Prop where
  scaffold : ∀ start form parts, isScaffold form = true → Holds (.mk start form parts)
  element : ∀ start parts, Holds (.mk start .element parts)
  parameters : ∀ start first second item index, IsName item → IsName index →
    Node.Everywhere Holds
      [.mk start .parameters [plainParameter first item, plainParameter second index]]
  /-- It does not depend on the parts of a node, except on whether there are any. -/
  parts : ∀ start form parts others, (parts = [] → others = []) → Holds (.mk start form parts) →
    Holds (.mk start form others)

section Stable

variable {Holds : Node → Prop} {rules : RewriteRules} {outer : Names}

theorem Stable.spellParameters (stable : Stable Holds) {iteration : Iteration}
    {parameters spelled : Node} (item : IsName iteration.itemName)
    (index : IsName iteration.indexName) (holds : Node.Everywhere Holds [parameters])
    (spelling : spellParameters iteration parameters = .ok spelled) :
    Node.Everywhere Holds [spelled] := by
  unfold Loop.spellParameters at spelling
  split at spelling
  case isTrue =>
    obtain ⟨start, first, second, rfl⟩ := parametersSnippet_cases item index spelling
    exact stable.parameters start first second _ _ item index
  case isFalse =>
    cases spelling
    exact holds

/-- The objects that a rewrite puts in have a property, if the rewritten bodies have it. -/
def ObjectsHold (rules : RewriteRules) (Holds : Node → Prop) : Prop :=
  ∀ {outer : Names} {value callee body wrapper : Node} {iteration : Iteration}
    {list : MatchedList value iteration} {inside : List Trace} {frame : Frame}
    (rewritten : RewrittenList rules outer list callee body inside frame wrapper),
    Expanded rules (insertNames outer frame.bindings) (.place .inner) [list.body] [body] inside →
    (∀ name ∈ insertNames outer frame.bindings, IsName name) →
    Node.Everywhere (DeclaresOnly IsName) [list.body] → frame.Only IsName →
    Node.Everywhere Holds [body] → Node.Everywhere Holds [rewritten.object]

/-- A rewrite replaces each node by one. -/
theorem Expanded.length_eq {slot : Slot} {nodes expanded : List Node} {traces : List Trace}
    (derived : Expanded rules outer slot nodes expanded traces) :
    expanded.length = nodes.length := by
  simpa using congrArg List.length derived.map_patternNames

/-- What holds everywhere before a rewrite holds everywhere after it. -/
theorem Expanded.everywhere {slot : Slot} {nodes expanded : List Node} {traces : List Trace}
    (derived : Expanded rules outer slot nodes expanded traces) (stable : Stable Holds)
    (objects : ObjectsHold rules Holds) (around : ∀ name ∈ outer, IsName name)
    (declared : Node.Everywhere (DeclaresOnly IsName) nodes)
    (holds : Node.Everywhere Holds nodes) : Node.Everywhere Holds expanded := by
  induction derived with
  | nil => exact Node.everywhere_nil
  | cons head tail headIh tailIh =>
      obtain ⟨headDeclared, tailDeclared⟩ := Node.everywhere_cons.1 declared
      obtain ⟨headHolds, tailHolds⟩ := Node.everywhere_cons.1 holds
      exact Node.everywhere_cons.2
        ⟨headIh around headDeclared headHolds, tailIh around tailDeclared tailHolds⟩
  | @list outer start value callee body wrapper iteration list before inside frame matched
      collection inner rewritten collectionIh innerIh =>
      obtain ⟨only, bodyAround⟩ :=
        names_of_list matched collection inner rewritten declared around
      have valueDeclared := (Node.everywhere_mk.1 declared).2
      have valueHolds := (Node.everywhere_mk.1 holds).2
      obtain ⟨calleeDeclared, -, bodyDeclared⟩ := list.everywhere valueDeclared
      obtain ⟨calleeHolds, parametersHold, bodyHolds⟩ := list.everywhere valueHolds
      obtain ⟨-, callbackHolds⟩ := list.everywhere_call valueHolds
      have leadHolds := (Node.everywhere_append.1 (Node.everywhere_mk.1 callbackHolds).2).1
      have expandedHolds := innerIh bodyAround bodyDeclared bodyHolds
      rw [← rewritten.bindings_eq] at inner bodyAround
      have own : Holds wrapper := by
        have element := (parts_of_loopWrapper rewritten.wrapped).1
        obtain ⟨start, form, parts⟩ := wrapper
        cases element
        exact stable.element start parts
      refine rewritten.everywhere stable.scaffold only own leadHolds
        (collectionIh around calleeDeclared calleeHolds) ?_ expandedHolds
        (objects rewritten inner bodyAround bodyDeclared only expandedHolds)
      exact stable.spellParameters (rewritten.item_eq ▸ only.item) (rewritten.index_eq ▸ only.index)
        parametersHold rewritten.spelled
  | element head tail headIh tailIh =>
      obtain ⟨headDeclared, tailDeclared⟩ :=
        Node.everywhere_cons.1 (Node.everywhere_mk.1 declared).2
      obtain ⟨headHolds, tailHolds⟩ := Node.everywhere_cons.1 (Node.everywhere_mk.1 holds).2
      exact Node.everywhere_mk.2 ⟨stable.element _ _, Node.everywhere_cons.2
        ⟨headIh around headDeclared headHolds, tailIh around tailDeclared tailHolds⟩⟩
  | container unmatched inner ih | fragment inner ih | plain plain unbraced inner ih
  | parenthesized inner ih | member inner ih =>
      obtain ⟨own, partsHold⟩ := Node.everywhere_mk.1 holds
      refine Node.everywhere_mk.2 ⟨stable.parts _ _ _ _ ?_ own,
        ih around (Node.everywhere_mk.1 declared).2 partsHold⟩
      intro noParts
      exact List.length_eq_zero_iff.1 (by rw [inner.length_eq, noParts, List.length_nil])
  | kept notParenthesized notMember => exact holds

end Stable

end LoopTemplate.Loop
