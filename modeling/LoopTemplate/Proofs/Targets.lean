import LoopTemplate.Proofs.Comparison
import LoopTemplate.Proofs.Flattening

/-!
# Targets

A target only names the attributes of loops. If no element of the source names an item or an
index of its own, the loops of a rewritten tree can be told by these attributes, and they can
be renamed in place. Then the tree for one target is the tree for the other, except for the
offsets of the loops' own nodes, and both rewrites report the same.
-/

namespace LoopTemplate.Loop

open LoopTemplate.Grammar (IsName attributeNameOf quotedAttribute)
open LoopTemplate.Tree (AttributeName Form Node)

/-! ## Renaming -/

/-- The name that another adapter has for an attribute of a loop. The value tells which one it
is: the collection stands in braces, the item and the index in quotes. -/
def renamed (before after : Adapter) (value : Form) (name : AttributeName) : AttributeName :=
  match value with
  | .container =>
      if spells name before.collection then attributeNameOf after.collection.toList else name
  | .quoted _ =>
      if spells name before.item then attributeNameOf after.item.toList
      else if spells name before.index then attributeNameOf after.index.toList
      else name
  | _ => name

/-- An attribute of a loop under the name that another adapter has for it. -/
def renameAttribute (before after : Adapter) : Node → Node
  | .mk start (.attribute name) [value] =>
      .mk start (.attribute (renamed before after value.form name)) [value]
  | node => node

/-- A tag with its attributes renamed, each in its place. -/
def renameTag (before after : Adapter) : Node → Node
  | .mk start (.opening tag closed) attributes =>
      .mk start (.opening tag closed) (attributes.map (renameAttribute before after))
  | node => node

/-- An element with the attributes of its tag renamed, if it is a loop of the template. -/
def renameElement (before after : Adapter) : Node → Node
  | .mk start .element (opening :: children) =>
      match loopNames? (captureRules before [] .scoped) opening with
      | some _ => .mk start .element (renameTag before after opening :: children)
      | none => .mk start .element (opening :: children)
  | node => node

mutual

/-- A tree with the attributes of all its loops renamed. -/
def renameLoops (before after : Adapter) : Node → Node
  | .mk start form parts =>
      renameElement before after (.mk start form (renameAllLoops before after parts))

def renameAllLoops (before after : Adapter) : List Node → List Node
  | [] => []
  | node :: nodes => renameLoops before after node :: renameAllLoops before after nodes

end

section Renaming

variable {before after : Adapter}

theorem renameAllLoops_eq_map (nodes : List Node) :
    renameAllLoops before after nodes = nodes.map (renameLoops before after) := by
  induction nodes with
  | nil => rfl
  | cons node nodes ih => rw [renameAllLoops, ih, List.map_cons]

theorem renameElement_of_form {node : Node} (plain : node.form ≠ .element) :
    renameElement before after node = node := by
  unfold renameElement
  split
  · exact absurd rfl plain
  · rfl

/-- An element is no loop if its tag names no item. -/
theorem renameElement_of_none {start : Nat} {form : Form} {parts : List Node}
    (none : ∀ opening, parts.head? = some opening →
      stringAttribute? opening before.item = none) :
    renameElement before after (.mk start form parts) = .mk start form parts := by
  unfold renameElement
  split
  case h_1 start opening children same =>
    cases same
    have unnamed : loopNames? (captureRules before [] .scoped) opening = .none := by
      simp [loopNames?, captureRules, none opening rfl]
    rw [unnamed]
  case h_2 => rfl

theorem form_renameElement (node : Node) :
    (renameElement before after node).form = node.form := by
  unfold renameElement
  split
  · split <;> rfl
  · rfl

@[simp] theorem form_renameLoops (node : Node) :
    (renameLoops before after node).form = node.form := by
  obtain ⟨start, form, parts⟩ := node
  rw [renameLoops, form_renameElement]
  rfl

theorem renameLoops_of_form {start : Nat} {form : Form} {parts : List Node}
    (plain : form ≠ .element) :
    renameLoops before after (.mk start form parts) =
      .mk start form (parts.map (renameLoops before after)) := by
  rw [renameLoops, renameElement_of_form (by exact plain), renameAllLoops_eq_map]

theorem stringValue?_renameTag (node : Node) (name : String) :
    stringValue? name (renameTag before after node) = stringValue? name node := by
  unfold renameTag
  split <;> rfl

/-- Renaming changes no value of an attribute that is a string. -/
theorem stringValue?_renameLoops (node : Node) (name : String) :
    stringValue? name (renameLoops before after node) = stringValue? name node := by
  by_cases named : ∃ found, node.form = .attribute found
  · obtain ⟨start, form, parts⟩ := node
    obtain ⟨found, rfl⟩ := named
    rw [renameLoops_of_form (by simp), stringValue?_of_forms]
    simp
  · have plain : ∀ found, node.form ≠ .attribute found := fun found same => named ⟨found, same⟩
    rw [stringValue?_of_form plain, stringValue?_of_form (by simpa using plain)]

/-- A tag that names nothing names nothing when loops are renamed. -/
theorem stringAttribute?_renameLoops_eq_none {node : Node} {name : String}
    (none : stringAttribute? node name = none) :
    stringAttribute? (renameLoops before after node) name = .none := by
  obtain ⟨start, form, parts⟩ := node
  have kept : ∀ part ∈ renameAllLoops before after parts, stringValue? name part = .none := by
    intro part member
    rw [renameAllLoops_eq_map] at member
    obtain ⟨own, among, rfl⟩ := List.mem_map.1 member
    rw [stringValue?_renameLoops]
    exact List.findSome?_eq_none_iff.1 none own among
  apply List.findSome?_eq_none_iff.2
  rw [renameLoops]
  generalize renameAllLoops before after parts = renamed at kept ⊢
  unfold renameElement
  split
  case h_1 start opening children same =>
    cases same
    split
    case h_1 =>
      simp only [Node.parts_mk, List.forall_mem_cons, stringValue?_renameTag] at kept ⊢
      exact kept
    case h_2 => exact kept
  case h_2 => exact kept

/-- The attributes of a loop's tag are renamed where they stand. -/
theorem renameTag_loopTag (distinct : before.item ≠ before.index) (item index : String)
    (call : Node) (outer first firstInner second secondInner third thirdInner : Nat) :
    renameTag before after (loopTag before item index call outer first firstInner second
      secondInner third thirdInner) =
      loopTag after item index call outer first firstInner second secondInner third
        thirdInner := by
  have apart : spells (attributeNameOf before.index.toList) before.item = false :=
    Bool.eq_false_iff.2 fun spelled => distinct (spells_attributeNameOf_iff.1 spelled).symm
  simp [renameTag, loopTag, renameAttribute, renamed, quotedAttribute, apart,
    Grammar.spells_attributeNameOf]

/-- A renamed loop is the loop of the other adapter, unless its item and its index have one
attribute. -/
theorem renameLoops_loopElement (distinct : before.item ≠ before.index) (item index : String)
    (call child : Node) (outer first firstInner second secondInner third thirdInner : Nat) :
    renameLoops before after (loopElement before item index call child outer first firstInner
        second secondInner third thirdInner) =
      loopElement after item index (renameLoops before after call)
        (renameLoops before after child) outer first firstInner second secondInner third
        thirdInner := by
  have inner : renameLoops before after (loopTag before item index call outer first firstInner
      second secondInner third thirdInner) = loopTag before item index
        (renameLoops before after call) outer first firstInner second secondInner third
        thirdInner := by
    simp [loopTag, renameLoops_of_form, quotedAttribute]
  rw [loopElement_eq, renameLoops, renameAllLoops, renameAllLoops, renameAllLoops, inner]
  simp only [renameElement, loopNames?_loopTag, renameTag_loopTag distinct, loopElement_eq]

end Renaming

/-! ## Two targets -/

/-- Corresponding nodes have a first part that names no item and no index, also when loops are
renamed in it. -/
theorem Corresponds.stringAttribute?_renameLoops {before after : Adapter}
    {nodes others : List Node} (same : Corresponds Eq (some (before, after)) nodes others)
    {name : String} (member : name ∈ [before.item, before.index, after.item, after.index])
    {opening : Node} (first : (nodes.map (renameLoops before after)).head? = some opening) :
    stringAttribute? opening name = none := by
  rw [List.head?_map, Option.map_eq_some_iff] at first
  obtain ⟨node, first, rfl⟩ := first
  obtain ⟨later, rfl⟩ := List.head?_eq_some_iff.1 first
  obtain ⟨other, others, rfl⟩ := List.exists_cons_of_length_eq_add_one same.length_eq
  exact stringAttribute?_renameLoops_eq_none
    (stringAttribute?_eq_none same.uncons.1.attributes member)

/-- Trees that differ in the attributes of loops only differ in the offsets of loops once these
attributes are renamed. -/
theorem Corresponds.map_renameLoops {before after : Adapter}
    (distinct : before.item ≠ before.index) {nodes others : List Node}
    (same : Corresponds Eq (some (before, after)) nodes others) :
    Corresponds Eq (some (after, after)) (nodes.map (renameLoops before after)) others := by
  induction same with
  | nil => exact .nil
  | cons head tail headIh tailIh => exact .cons headIh tailIh
  | @node start otherStart form otherForm parts others starts forms ordinary inner ih =>
      rw [List.map_singleton, renameLoops, renameAllLoops_eq_map,
        renameElement_of_none fun opening => inner.stringAttribute?_renameLoops (by simp)]
      refine .node starts forms (fun name member => ?_) ih
      have kept : stringValue? name (.mk start form (parts.map (renameLoops before after))) =
          stringValue? name (.mk start form parts) := stringValue?_of_forms (by simp) name
      rw [kept]
      exact ordinary name (by grind)
  | loop names made otherMade calls children callsIh childrenIh =>
      cases names
      obtain ⟨_, _, _, _, _, _, _, rfl⟩ := made
      rw [List.map_singleton, renameLoops_loopElement distinct]
      exact .loop rfl ⟨_, _, _, _, _, _, _, rfl⟩ otherMade callsIh childrenIh

/-- A target only names the attributes: rewrites for two targets both fail with the same error,
or report the same loops in the same order and yield trees that differ in the attributes of the
loops that were put in. With these attributes renamed in place, one tree is the other except for
the offsets of those loops' own nodes. -/
theorem targets_differ_in_attributes (before after : Adapter) (policy : MergePolicy)
    {tree : Node} (declared : Node.Everywhere (DeclaresOnly IsName) [tree])
    (distinct : before.item ≠ before.index) (otherDistinct : after.item ≠ after.index)
    (ordinary : ∀ node ∈ tree.nodes,
      ∀ name ∈ [before.item, before.index, after.item, after.index],
        stringValue? name node = none) :
    Agree (fun result other =>
        Corresponds Eq (some (before, after)) [result.tree] [other.tree] ∧
        Corresponds Eq (some (after, after)) [renameLoops before after result.tree]
          [other.tree] ∧
        result.events = other.events)
      (rewrite ⟨before, policy⟩ tree) (rewrite ⟨after, policy⟩ tree) := by
  have linked : Linked (some (before, after)) before after :=
    .renamed ⟨fun same => absurd same distinct, fun same => absurd same otherDistinct⟩
  have kept : Corresponds Eq none [tree] [tree] := .refl (fun _ => rfl) fun _ _ => trivial
  have agree : Agree (WithTraces Eq (Twins Eq (some (before, after))))
      (expand ⟨before, policy⟩ [] .inner tree).run
      (expand ⟨after, policy⟩ [] .inner tree).run :=
    (agree_of_expansion (fun _ => rfl) linked).1 [] .inner tree (by simp) declared
      (fun node member => ordinary node (by simpa using member)) tree kept
  rw [rewrite_eq_expand, rewrite_eq_expand]
  generalize (expand ⟨before, policy⟩ [] .inner tree).run = outcome,
    (expand ⟨after, policy⟩ [] .inner tree).run = otherOutcome at agree
  cases agree with
  | error error => exact .error error
  | ok related =>
      obtain ⟨trees, traces⟩ := related
      refine .ok ⟨trees, trees.map_renameLoops distinct, ?_⟩
      simp only [traces.allEvents_eq, traces.allLists_eq]

theorem targets_differ_in_attributes_rowsOfCells :
    Node.Everywhere (DeclaresOnly IsName) [rowsOfCells] ∧
      ∃ result other, rewrite ⟨.wechat, .flatten⟩ rowsOfCells = .ok result ∧
        rewrite ⟨.ali, .flatten⟩ rowsOfCells = .ok other ∧
        Corresponds Eq (some (.wechat, .ali)) [result.tree] [other.tree] ∧
        Corresponds Eq (some (.ali, .ali)) [renameLoops .wechat .ali result.tree]
          [other.tree] ∧
        result.events = other.events := by
  have declared := declaresOnly_of_properName properName_rowsOfCells
  have agree := targets_differ_in_attributes .wechat .ali .flatten declared
    (by decide) (by decide) (by decide +kernel)
  obtain ⟨result, -, -, -, -, done, -⟩ := rewrite_rowsOfCells
  rw [done] at agree
  cases otherDone : rewrite ⟨.ali, .flatten⟩ rowsOfCells with
  | error error =>
      rw [otherDone] at agree
      cases agree
  | ok other =>
      rw [otherDone] at agree
      cases agree with
      | ok related => exact ⟨declared, result, other, done, rfl, related⟩

end LoopTemplate.Loop
