import LoopTemplate.Proofs.Comparison

/-!
# Recognising a loop

The element that a rewrite puts in for a loop has the three attributes of its adapter, each
spelled as the adapter spells it. An analysis that comes upon the element later finds the item and
the index in it. The attribute for the collection may have the name of one of the others: its
value stands in braces, and an analysis looks at quoted values only.
-/

namespace LoopTemplate.Loop

open LoopTemplate.Grammar (attributeNameOf placeholder quotedAttribute)
open LoopTemplate.Token (isWordText)
open LoopTemplate.Tree (Node)

/-! ## Attributes as they are written -/

/-- The value of an attribute. -/
inductive AttributeValue where
  | braced (expression : Node)
  | quoted (text : String)

/-- The name and the value of an attribute. -/
def attribute? : Node → Option (String × AttributeValue)
  | .mk _ (.attribute name) [.mk _ .container [expression]] => some (name.text, .braced expression)
  | .mk _ (.attribute name) [.mk _ (.quoted text) []] => some (name.text, .quoted text)
  | _ => none

/-- The value of the first attribute of an element, if it stands in braces. -/
def collectionSlot? : Node → Option Node
  | .mk _ .element (opening :: _) =>
      match opening.parts.head?.bind attribute? with
      | some (_, .braced expression) => some expression
      | _ => none
  | _ => none

/-- A name is written as it was given. -/
theorem text_attributeNameOf (name : String) : (attributeNameOf name.toList).text = name := by
  unfold attributeNameOf
  split
  case h_1 => exact String.ofList_toList
  case h_2 space rest split =>
    have whole := splitColon_eq_some split
    rw [← String.toList_inj]
    simp [Tree.AttributeName.text, whole]

theorem attribute?_braced (start inner : Nat) (name : String) (expression : Node) :
    attribute? (.mk start (.attribute (attributeNameOf name.toList))
      [.mk inner .container [expression]]) = some (name, .braced expression) := by
  simp [attribute?, text_attributeNameOf]

theorem attribute?_quotedAttribute (start inner : Nat) (name text : String) :
    attribute? (quotedAttribute start inner name.toList text.toList) =
      some (name, .quoted text) := by
  simp [attribute?, quotedAttribute, text_attributeNameOf]

/-! ## Loops -/

/-- The tag of a loop over a collection: it has the attributes of the adapter, in order, and nothing
else. -/
structure IsLoopTag (adapter : Adapter) (item index : String) (collection tag : Node) : Prop where
  form_eq : tag.form = .opening (.plain wrapperTag) false
  attributes : tag.parts.map attribute? =
    [some (adapter.collection, .braced collection), some (adapter.item, .quoted item),
      some (adapter.index, .quoted index)]

/-- A loop over a collection, with the given children, that an analysis recognises wherever the item
and the index are told apart. -/
structure IsLoopOver (adapter : Adapter) (item index : String) (collection : Node)
    (children : List Node) (element : Node) : Prop where
  tagged : ∃ start tag, element = .mk start .element (tag :: children) ∧
    IsLoopTag adapter item index collection tag ∧
    (adapter.item ≠ adapter.index → ∀ bound policy,
      loopNames? (captureRules adapter bound policy) tag = some (item, index))
  slot : collectionSlot? element = some collection

section Loop

variable (adapter : Adapter) (item index : String) (collection : Node)
  (outer first firstInner second secondInner third thirdInner : Nat)

theorem isLoopTag_loopTag : IsLoopTag adapter item index collection
    (loopTag adapter item index collection outer first firstInner second secondInner third
      thirdInner) where
  form_eq := rfl
  attributes := by
    simp [loopTag, attribute?_braced, attribute?_quotedAttribute]

theorem isLoopOver_loopTag (start : Nat) (children : List Node) :
    IsLoopOver adapter item index collection children (.mk start .element
      (loopTag adapter item index collection outer first firstInner second secondInner third
        thirdInner :: children)) where
  tagged := by
    refine ⟨start, _, rfl, isLoopTag_loopTag adapter item index collection .., ?_⟩
    intro distinct bound policy
    rw [loopNames?_loopTag, if_neg distinct]
  slot := rfl

end Loop

/-- The element for a loop is read, for all attributes that an adapter can have and all names. It
has no children and the three attributes, with a placeholder for the collection. Filled with a
collection and a child, it is the loop over that collection. An analysis recognises both. -/
theorem wrapper_recognised (adapter : Adapter) {item index : String}
    (itemWord : isWordText item.toList = true) (indexWord : isWordText index.toList = true) :
    ∃ wrapper place, wrapperSnippet adapter item index = .ok wrapper ∧
      IsLoopOver adapter item index (placeholder place) [] wrapper ∧
      ∀ collection child, ∃ filled, fillWrapper collection child wrapper = some filled ∧
        loopWrapper adapter item index collection child = .ok filled ∧
        IsLoopOver adapter item index collection [child] filled := by
  obtain ⟨outer, first, firstInner, second, secondInner, third, thirdInner, place, read⟩ :=
    wrapperSnippet_ok adapter itemWord indexWord
  refine ⟨_, place, read, isLoopOver_loopTag adapter item index (placeholder place) .., ?_⟩
  intro collection child
  refine ⟨_, rfl, ?_, isLoopOver_loopTag adapter item index collection ..⟩
  rw [loopWrapper, read]
  rfl

/-- An adapter whose attribute for the collection has the name of the one for the item. -/
def coinciding : Adapter :=
  ⟨"s:for", "s:for", "s-at", by decide, by decide, by decide⟩

/-- Two names, one of them a keyword, are found in the element for a loop with that adapter. -/
theorem wrapper_recognised_coinciding :
    coinciding.collection = coinciding.item ∧ ∃ start tag,
      wrapperSnippet coinciding "class" "_at" = .ok (.mk start .element [tag]) ∧
        ∀ bound policy, loopNames? (captureRules coinciding bound policy) tag =
          some ("class", "_at") := by
  obtain ⟨wrapper, place, read, ⟨⟨start, tag, rfl, _, names⟩, _⟩, _⟩ :=
    @wrapper_recognised coinciding "class" "_at" (by decide_cbv) (by decide_cbv)
  exact ⟨rfl, start, tag, read, names (by decide)⟩

end LoopTemplate.Loop
