import LoopTemplate.Proofs.Corresponding
import LoopTemplate.Proofs.Failure

/-!
# Comparing two rewrites

Two rewrites are compared whose sources differ at most in offsets and whose loops have different
attributes. An analysis finds the same names in corresponding markup: it sees a loop that was put
in on both sides, and no element of the source is taken for a loop on either side. So both
rewrites make the same loops, or both fail with the same error.
-/

namespace LoopTemplate.Loop

open LoopTemplate.Grammar (IsName attributeNameOf plainParameter quotedAttribute)
open LoopTemplate.Tree (Form Node)

/-! ## Attributes -/

theorem splitColon_eq_some {chars space name : List Char}
    (split : splitColon chars = some (space, name)) :
    chars = space ++ ':' :: name := by
  unfold splitColon at split
  split at split
  case h_1 => cases split
  case h_2 c rest dropped =>
    cases split
    have colon : c = ':' := by
      have refused := List.head_dropWhile_not (· != ':') (l := chars) (by simp [dropped])
      simpa [dropped] using refused
    rw [colon] at dropped
    rw [← dropped, List.takeWhile_append_dropWhile]

/-- An attribute is spelled as its name is, and in no other way. -/
theorem spells_attributeNameOf_iff {name text : String} :
    spells (attributeNameOf name.toList) text = true ↔ name = text := by
  constructor
  · intro spelled
    unfold attributeNameOf at spelled
    split at spelled
    case h_1 => simpa [spells] using spelled
    case h_2 space rest split =>
      have same : splitColon text.toList = some (space, rest) := by simpa [spells] using spelled
      rw [← String.toList_inj, splitColon_eq_some split, splitColon_eq_some same]
  · rintro rfl
    exact Grammar.spells_attributeNameOf name

section Attributes

variable {Same : Nat → Nat → Prop} {adapters : Option (Adapter × Adapter)} {node other : Node}

/-- The form of a node and the forms of its parts tell which string value it has. -/
theorem stringValue?_congr {start otherStart : Nat} {form : Form} {parts others : List Node}
    (same : List.Forall₂ (fun part other => Moved Same part.form other.form) parts others)
    (name : String) :
    stringValue? name (.mk otherStart form others) = stringValue? name (.mk start form parts) := by
  by_cases named : ∃ found, form = .attribute found
  · obtain ⟨found, rfl⟩ := named
    rcases same with _ | ⟨forms, _ | ⟨-, -⟩⟩
    case cons.nil part other =>
      obtain ⟨partStart, partForm, inner⟩ := part
      obtain ⟨otherPartStart, otherPartForm, otherInner⟩ := other
      simp only [Node.form_mk] at forms
      cases forms with
      | same => cases partForm <;> rfl
      | _ => rfl
    all_goals simp [stringValue?]
  · have plain : ∀ start parts found, (Node.mk start form parts).form ≠ .attribute found :=
      fun _ _ found same => named ⟨found, same⟩
    rw [stringValue?_of_form (plain _ _), stringValue?_of_form (plain _ _)]

theorem stringValue?_of_forms {start : Nat} {form : Form} {parts others : List Node}
    (forms : others.map Node.form = parts.map Node.form) (name : String) :
    stringValue? name (.mk start form others) = stringValue? name (.mk start form parts) := by
  have kept : List.Forall₂ (Moved Eq) (parts.map Node.form) (others.map Node.form) := by
    rw [forms]
    exact List.forall₂_same.2 fun form _ => .same form
  rw [List.forall₂_map_left_iff, List.forall₂_map_right_iff] at kept
  exact stringValue?_congr kept name

namespace Corresponds

theorem stringValue?_eq (same : Corresponds Same adapters [node] [other]) (name : String) :
    stringValue? name other = stringValue? name node := by
  cases same with
  | @node start otherStart form otherForm parts others starts forms ordinary inner =>
      cases forms with
      | same => exact stringValue?_congr (inner.forall₂.imp fun _ _ => Corresponds.moved) name
      | _ => rfl
  | loop renamed made otherMade calls children =>
      obtain ⟨_, _, _, _, _, _, _, rfl⟩ := made
      obtain ⟨_, _, _, _, _, _, _, rfl⟩ := otherMade
      rfl

theorem ordinary (same : Corresponds Same adapters [node] [other]) : Ordinary adapters node := by
  cases same with
  | node starts forms ordinary inner => exact ordinary
  | loop renamed made otherMade calls children =>
      obtain ⟨_, _, _, _, _, _, _, rfl⟩ := made
      exact ordinary_of_form (by simp [Loop.loopElement])

/-- Parts of corresponding nodes that have the same string values as attributes, and name no loop
where attributes are renamed. -/
structure AlikeAttributes (adapters : Option (Adapter × Adapter)) (node other : Node) : Prop where
  value_eq : ∀ name, stringValue? name other = stringValue? name node
  ordinary : Ordinary adapters node

theorem attributes (same : Corresponds Same adapters [node] [other]) :
    List.Forall₂ (AlikeAttributes adapters) node.parts other.parts := by
  cases same with
  | node starts forms ordinary inner =>
      exact inner.forall₂.imp fun _ _ part => ⟨part.stringValue?_eq, part.ordinary⟩
  | loop renamed made otherMade calls children =>
      obtain ⟨_, _, _, _, _, _, _, rfl⟩ := made
      obtain ⟨_, _, _, _, _, _, _, rfl⟩ := otherMade
      refine .cons ⟨fun _ => rfl, ordinary_of_form (by simp)⟩ (.cons ?_ .nil)
      exact ⟨children.stringValue?_eq, children.ordinary⟩

end Corresponds

end Attributes

theorem stringValue?_quotedAttribute (start inner : Nat) (own text name : String) :
    stringValue? name (quotedAttribute start inner own.toList text.toList) =
      if own = name then some text else none := by
  by_cases same : own = name
  · subst same
    simp [stringValue?, quotedAttribute, Grammar.spells_attributeNameOf]
  · simp [stringValue?, quotedAttribute, same, spells_attributeNameOf_iff]

theorem analyze_quotedAttribute (rules : CaptureRules) (start inner : Nat) (name text : List Char)
    (state : CaptureState) :
    analyze rules (quotedAttribute start inner name text) state = state := by
  simp [quotedAttribute, analyze, analyzeAll]

/-! ## Analysis -/

/-- The adapters of two rewrites: one, or two whose attributes are renamed. A loop is found through
its item and its index, so these are told apart with both adapters or with neither. -/
inductive Linked : Option (Adapter × Adapter) → Adapter → Adapter → Prop where
  | same (adapter : Adapter) : Linked none adapter adapter
  | renamed {before after : Adapter}
      (distinct : before.item = before.index ↔ after.item = after.index) :
      Linked (some (before, after)) before after

section Analysis

variable {Same : Nat → Nat → Prop} {adapters : Option (Adapter × Adapter)} {before after : Adapter}
  {bound : Names} {policy : MergePolicy}

/-- The tag of a loop, filled. -/
def loopTag (adapter : Adapter) (item index : String) (call : Node)
    (outer first firstInner second secondInner third thirdInner : Nat) : Node :=
  .mk outer (.opening (.plain wrapperTag) false) [
    .mk first (.attribute (attributeNameOf adapter.collection.toList))
      [.mk firstInner .container [call]],
    quotedAttribute second secondInner adapter.item.toList item.toList,
    quotedAttribute third thirdInner adapter.index.toList index.toList]

theorem loopElement_eq (adapter : Adapter) (item index : String) (call child : Node)
    (outer first firstInner second secondInner third thirdInner : Nat) :
    loopElement adapter item index call child outer first firstInner second secondInner third
      thirdInner = .mk outer .element [loopTag adapter item index call outer first firstInner second
        secondInner third thirdInner, child] := rfl

/-- What an analysis looks for with the attributes of an adapter. -/
def captureRules (adapter : Adapter) (bound : Names) (policy : MergePolicy) : CaptureRules :=
  ⟨bound, policy, some (adapter.item, adapter.index)⟩

/-- The state among the children of a loop that binds an item and an index. -/
def CaptureState.enterLoop (policy : MergePolicy) (item index : String) (state : CaptureState) :
    CaptureState :=
  match policy with
  | .flatten => state
  | .scoped => { state with hidden := index :: item :: state.hidden }

/-- The tag of a loop names its item and index, or the item twice if both attributes have one
name. -/
theorem loopNames?_loopTag (adapter : Adapter) (item index : String) (call : Node)
    (outer first firstInner second secondInner third thirdInner : Nat) :
    loopNames? (captureRules adapter bound policy) (loopTag adapter item index call outer first
      firstInner second secondInner third thirdInner) =
        some (item, if adapter.item = adapter.index then item else index) := by
  have collection : ∀ name, stringValue? name (.mk first
      (.attribute (attributeNameOf adapter.collection.toList)) [.mk firstInner .container [call]]) =
        none := fun _ => rfl
  by_cases one : adapter.item = adapter.index <;>
    simp [loopNames?, captureRules, loopTag, stringAttribute?, List.findSome?_cons, collection,
      stringValue?_quotedAttribute, one]

/-- In a loop its collection is analysed first. Its child is analysed with the names bound that the
tag shows. -/
theorem MadeLoop.analyze_eq {adapter : Adapter} {item index : String} {call child node : Node}
    (made : MadeLoop adapter item index call child node) (bound : Names) (policy : MergePolicy)
    (state : CaptureState) :
    analyze (captureRules adapter bound policy) node state =
      let collected := analyze (captureRules adapter bound policy) call state
      let shown := if adapter.item = adapter.index then item else index
      (analyze (captureRules adapter bound policy) child
        (collected.enterLoop policy item shown)).leave collected := by
  obtain ⟨outer, first, firstInner, second, secondInner, third, thirdInner, rfl⟩ := made
  rw [loopElement_eq, analyze, enterElement, loopNames?_loopTag]
  cases policy <;>
    simp [loopTag, analyze, analyzeAll, analyze_quotedAttribute, captureRules,
      CaptureState.enterLoop]

theorem stringAttribute?_eq {opening other : Node}
    (alike : List.Forall₂ (Corresponds.AlikeAttributes adapters) opening.parts other.parts)
    (name : String) : stringAttribute? other name = stringAttribute? opening name := by
  unfold stringAttribute?
  generalize opening.parts = parts, other.parts = others at alike ⊢
  induction alike with
  | nil => rfl
  | cons head tail ih => rw [List.findSome?_cons, List.findSome?_cons, head.value_eq, ih]

theorem stringAttribute?_eq_none {opening other : Node}
    (alike : List.Forall₂ (Corresponds.AlikeAttributes (some (before, after))) opening.parts
      other.parts) {name : String}
    (member : name ∈ [before.item, before.index, after.item, after.index]) :
    stringAttribute? opening name = none := by
  unfold stringAttribute?
  generalize opening.parts = parts, other.parts = others at alike ⊢
  induction alike with
  | nil => rfl
  | cons head tail ih =>
      rw [List.findSome?_cons, head.ordinary name member, ih]

/-- Tags that correspond name the same loop, or neither names one. -/
theorem Corresponds.loopNames?_eq {opening other : Node} (linked : Linked adapters before after)
    (same : Corresponds Same adapters [opening] [other]) :
    loopNames? (captureRules after bound policy) other =
      loopNames? (captureRules before bound policy) opening := by
  have alike := same.attributes
  cases linked with
  | same adapter => simp only [loopNames?, captureRules, stringAttribute?_eq alike]
  | renamed distinct =>
      have none : ∀ name ∈ [before.item, before.index, after.item, after.index],
          stringAttribute? opening name = none := fun name => stringAttribute?_eq_none alike
      simp [loopNames?, captureRules, stringAttribute?_eq alike, none]

/-- An analysis enters corresponding elements alike. -/
theorem enterElement_eq {opening other : Node} {state : CaptureState}
    (names_eq : loopNames? (captureRules after bound policy) other =
      loopNames? (captureRules before bound policy) opening) :
    enterElement (captureRules after bound policy) other state =
      enterElement (captureRules before bound policy) opening state := by
  unfold enterElement
  rw [names_eq]
  rfl

/-- Whether an analysis with other attributes does the same in another node. -/
def AnalyzedAlike (before after : Adapter) (bound : Names) (policy : MergePolicy)
    (node other : Node) : Prop :=
  ∀ state, analyze (captureRules after bound policy) other state =
    analyze (captureRules before bound policy) node state

theorem analyzeAll_eq {nodes others : List Node}
    (alike : List.Forall₂ (AnalyzedAlike before after bound policy) nodes others)
    (state : CaptureState) : analyzeAll (captureRules after bound policy) others state =
      analyzeAll (captureRules before bound policy) nodes state := by
  induction alike generalizing state with
  | nil => rfl
  | cons head tail ih => rw [analyzeAll, analyzeAll, head, ih]

/-- A node is analysed as another of the same form, if their parts are analysed alike and, in an
element, name the same loop. -/
theorem analyzedAlike_of_parts {start otherStart : Nat} {form otherForm : Form}
    {parts others : List Node} (forms : Moved Same form otherForm)
    (alike : List.Forall₂ (AnalyzedAlike before after bound policy) parts others)
    (names_eq : ∀ opening other, parts.head? = some opening → others.head? = some other →
      loopNames? (captureRules after bound policy) other =
        loopNames? (captureRules before bound policy) opening) :
    AnalyzedAlike before after bound policy (.mk start form parts)
      (.mk otherStart otherForm others) := by
  intro state
  have all := analyzeAll_eq alike
  cases forms with
  | same =>
      cases form with
      | element =>
          cases alike with
          | nil => simp only [analyze, all]
          | cons openings children =>
              simp only [analyze, openings state, enterElement_eq (names_eq _ _ rfl rfl),
                analyzeAll_eq children]
      | declarator =>
          rcases alike with _ | ⟨pattern, _ | ⟨value, _ | ⟨-, -⟩⟩⟩
          case cons.cons.nil => simp only [analyze, pattern _, value _]
          all_goals simp only [analyze, all]
      | reference | binding => rfl
      | _ => simp only [analyze, all]
  | _ => simp only [analyze, all]

/-- An analysis does the same in corresponding nodes. -/
theorem Corresponds.analyzed {nodes others : List Node} (linked : Linked adapters before after)
    (same : Corresponds Same adapters nodes others) (bound : Names) (policy : MergePolicy) :
    List.Forall₂ (AnalyzedAlike before after bound policy) nodes others := by
  induction same with
  | nil => exact .nil
  | cons head tail headIh tailIh =>
      cases headIh with
      | cons first _ => exact .cons first tailIh
  | node starts forms ordinary inner ih =>
      refine .cons (analyzedAlike_of_parts forms ih fun opening other first otherFirst => ?_) .nil
      obtain ⟨children, rfl⟩ := List.head?_eq_some_iff.1 first
      obtain ⟨otherChildren, rfl⟩ := List.head?_eq_some_iff.1 otherFirst
      exact inner.uncons.1.loopNames?_eq linked
  | loop renamed made otherMade calls children callsIh childrenIh =>
      subst renamed
      cases linked with
      | renamed distinct =>
          refine .cons (fun state => ?_) .nil
          obtain ⟨call, -⟩ := List.forall₂_cons.1 callsIh
          obtain ⟨child, -⟩ := List.forall₂_cons.1 childrenIh
          simp only [made.analyze_eq, otherMade.analyze_eq, call state, distinct]
          rw [child]

/-- Corresponding markup makes two lists hand over the same names. -/
theorem Corresponds.handedNames_eq {markup other : Node} (linked : Linked adapters before after)
    (same : Corresponds Same adapters [markup] [other]) (policy : MergePolicy) (frame : Frame)
    (outer : Names) :
    handedNames ⟨after, policy⟩ frame outer other =
      handedNames ⟨before, policy⟩ frame outer markup := by
  have captures_eq : ∀ bound, captures (captureRules after bound policy) other =
      captures (captureRules before bound policy) markup := by
    intro bound
    cases same.analyzed linked bound policy with
    | cons alike _ => exact congrArg CaptureState.found (alike .empty)
  unfold handedNames
  exact congrArg (insertNames · frame.innerCaptures) (captures_eq _)

end Analysis

/-! ## Traces and outcomes -/

/-- Traces that tell of the same finished loops, and of calls left as they are at corresponding
offsets. -/
inductive TracedAlike (Same : Nat → Nat → Prop) : List Trace → List Trace → Prop where
  | nil : TracedAlike Same [] []
  | skipped {offset other : Nat} {traces others : List Trace} (offsets : Same offset other)
      (later : TracedAlike Same traces others) :
      TracedAlike Same (.skipped offset :: traces) (.skipped other :: others)
  | list {wrapper otherWrapper : Node} {inside otherInside traces others : List Trace}
      (frame : Frame)
      (inner : TracedAlike Same inside otherInside) (later : TracedAlike Same traces others) :
      TracedAlike Same (.list frame wrapper inside :: traces)
        (.list frame otherWrapper otherInside :: others)

namespace TracedAlike

variable {Same : Nat → Nat → Prop} {traces others : List Trace}

theorem append {moreTraces moreOthers : List Trace} (front : TracedAlike Same traces others)
    (back : TracedAlike Same moreTraces moreOthers) :
    TracedAlike Same (traces ++ moreTraces) (others ++ moreOthers) := by
  induction front with
  | nil => exact back
  | skipped offsets later ih => exact .skipped offsets ih
  | list frame inner later innerIh laterIh => exact .list frame inner laterIh

theorem noteAll_eq (alike : TracedAlike Same traces others) (frame : Frame) :
    frame.noteAll others = frame.noteAll traces := by
  induction alike generalizing frame with
  | nil => rfl
  | skipped offsets later ih => exact ih frame
  | list finished inner later innerIh laterIh => exact laterIh (frame.absorb finished)

theorem allLists_eq (alike : TracedAlike Same traces others) :
    Trace.allLists others = Trace.allLists traces := by
  induction alike with
  | nil => rfl
  | skipped offsets later ih => simp only [Trace.allLists, Trace.lists, ih]
  | list frame inner later innerIh laterIh =>
      simp only [Trace.allLists, Trace.lists, innerIh, laterIh]

/-- Traces with the same offsets report the same events. -/
theorem allEvents_eq (alike : TracedAlike Eq traces others) (depth : Nat) :
    Trace.allEvents depth others = Trace.allEvents depth traces := by
  induction alike generalizing depth with
  | nil => rfl
  | skipped offsets later ih => simp only [Trace.allEvents, Trace.events, offsets, ih]
  | list frame inner later innerIh laterIh =>
      simp only [Trace.allEvents, Trace.events, innerIh, laterIh]

end TracedAlike

/-- Outcomes that are both errors, and the same, or are both related results. -/
inductive Agree {α β : Type} (Related : α → β → Prop) :
    Except RewriteError α → Except RewriteError β → Prop where
  | error (error : RewriteError) : Agree Related (.error error) (.error error)
  | ok {value : α} {other : β} (related : Related value other) :
      Agree Related (.ok value) (.ok other)

/-- Related values with traces of the same loops. -/
def WithTraces (Same : Nat → Nat → Prop) {α β : Type} (Related : α → β → Prop)
    (result : α × List Trace) (other : β × List Trace) : Prop :=
  Related result.1 other.1 ∧ TracedAlike Same result.2 other.2

namespace Agree

variable {α β γ δ : Type} {Related : α → β → Prop} {Later : γ → δ → Prop}

theorem bind {first : Except RewriteError α} {otherFirst : Except RewriteError β}
    {later : α → Except RewriteError γ} {otherLater : β → Except RewriteError δ}
    (agree : Agree Related first otherFirst)
    (laterAgree : ∀ value other, first = .ok value → otherFirst = .ok other → Related value other →
      Agree Later (later value) (otherLater other)) :
    Agree Later (first >>= later) (otherFirst >>= otherLater) := by
  cases agree with
  | error error => exact .error error
  | ok related => exact laterAgree _ _ rfl rfl related

variable {Same : Nat → Nat → Prop}

theorem next {first : Traced α} {otherFirst : Traced β} {later : α → Traced γ}
    {otherLater : β → Traced δ} (agree : Agree (WithTraces Same Related) first.run otherFirst.run)
    (laterAgree : ∀ value other traces, first.run = .ok (value, traces) → Related value other →
      Agree (WithTraces Same Later) (later value).run (otherLater other).run) :
    Agree (WithTraces Same Later) (first >>= later).run (otherFirst >>= otherLater).run := by
  change Agree (WithTraces Same Later) (Traced.next first later) (Traced.next otherFirst otherLater)
  unfold Traced.next
  change Agree (WithTraces Same Related) first otherFirst at agree
  cases agree with
  | error error => exact .error error
  | @ok result otherResult related =>
      obtain ⟨value, before⟩ := result
      obtain ⟨other, otherBefore⟩ := otherResult
      have rest := laterAgree value other before rfl related.1
      change Agree (WithTraces Same Later) (later value) (otherLater other) at rest
      dsimp only
      generalize later value = outcome, otherLater other = otherOutcome at rest ⊢
      cases rest with
      | error error => exact .error error
      | ok laterRelated => exact .ok ⟨laterRelated.1, related.2.append laterRelated.2⟩

theorem pure {value : α} {other : β} (related : Related value other) :
    Agree (WithTraces Same Related) (Pure.pure value : Traced α).run
      (Pure.pure other : Traced β).run :=
  .ok ⟨related, .nil⟩

theorem leave {trace other : Trace} (alike : TracedAlike Same [trace] [other]) :
    Agree (WithTraces Same fun _ _ => True) (Traced.leave trace).run (Traced.leave other).run :=
  .ok ⟨trivial, alike⟩

theorem ofExcept {outcome : Except RewriteError α} {other : Except RewriteError β}
    (agree : Agree Related outcome other) :
    Agree (WithTraces Same Related) (Traced.ofExcept outcome).run (Traced.ofExcept other).run := by
  cases agree with
  | error error => exact .error error
  | ok related => exact .ok ⟨related, .nil⟩

end Agree

/-! ## One list -/

section Step

variable {Same : Nat → Nat → Prop} {adapters : Option (Adapter × Adapter)} {before after : Adapter}
  {policy : MergePolicy} {outer : Names} {value otherValue : Node} {iteration : Iteration}
  {offset otherOffset : Nat}

/-- How nodes and their expansions are related. -/
abbrev Twins (Same : Nat → Nat → Prop) (adapters : Option (Adapter × Adapter))
    (node other : Node) : Prop :=
  Corresponds Same adapters [node] [other]

/-- Parameters that correspond are spelled alike. -/
theorem agree_spellParameters (same : ∀ offset, Same offset offset)
    {parameters otherParameters : Node}
    (parametersSame : Corresponds Same none [parameters] [otherParameters])
    (ordinary : Node.Everywhere (Ordinary adapters) [parameters])
    (item : IsName iteration.itemName) (index : IsName iteration.indexName) :
    Agree (Twins Same adapters) (spellParameters iteration parameters)
      (spellParameters iteration otherParameters) := by
  obtain ⟨start, form, parts⟩ := parameters
  obtain ⟨otherStart, otherForm, otherParts, rfl, -, -, partsSame⟩ :=
    parametersSame.exists_mk (.inl rfl)
  unfold spellParameters
  rw [Node.parts_mk, Node.parts_mk, partsSame.length_eq]
  split
  case isTrue =>
    cases read : parametersSnippet [iteration.itemName, iteration.indexName] with
    | error error => exact .error error
    | ok node =>
        obtain ⟨start, first, second, rfl⟩ := parametersSnippet_cases item index read
        refine .ok (Corresponds.refl same (everywhere_ordinary ?_))
        simp [Node.Everywhere, Node.mem_nodes_mk, plainParameter, or_imp, forall_and]
  case isFalse => exact .ok (parametersSame.rename ordinary)

/-- The same names make corresponding objects. -/
theorem agree_captureObject (same : ∀ offset, Same offset offset) {names : Names}
    (valid : ∀ name ∈ names, IsName name) :
    Agree (Twins Same adapters) (captureObject names) (captureObject names) := by
  cases read : captureObject names with
  | error error => exact .error error
  | ok object =>
      refine .ok (Corresponds.refl same (everywhere_ordinary ?_))
      refine everywhere_handsOver (handsOver_of_captureObject valid read) ?_ ?_ ?_ ?_ <;> simp

/-- The same names make corresponding loops of corresponding calls and children. -/
theorem agree_loopWrapper (same : ∀ offset, Same offset offset)
    (linked : Linked adapters before after)
    {item index : String} (itemValid : IsName item) (indexValid : IsName index)
    {call otherCall child otherChild : Node} (calls : Twins Same adapters call otherCall)
    (children : Twins Same adapters child otherChild) :
    Agree (Twins Same adapters) (loopWrapper before item index call child)
      (loopWrapper after item index otherCall otherChild) := by
  obtain ⟨outer, first, firstInner, second, secondInner, third, thirdInner, made⟩ :=
    loopWrapper_ok before itemValid indexValid
  cases linked with
  | same =>
      rw [made, made]
      have kept : ∀ nodes : List Node, Corresponds Same none nodes nodes :=
        fun nodes => .refl same fun _ _ => trivial
      refine .ok (.node (same outer) (.same _) trivial (.push (.node (same outer) (.same _) trivial
        (.push (.node (same first) (.same _) trivial ?_) (kept _))) children))
      exact .node (same firstInner) (.same _) trivial calls
  | renamed =>
      obtain ⟨_, _, _, _, _, _, _, otherMade⟩ := loopWrapper_ok after itemValid indexValid
      rw [made, otherMade]
      exact .ok (.loop rfl ⟨_, _, _, _, _, _, _, rfl⟩ ⟨_, _, _, _, _, _, _, rfl⟩ calls children)

/-- Rewritten callbacks of the same finished loop, each for the call that it stands in. -/
structure CallbackTwins (Same : Nat → Nat → Prop) (adapters : Option (Adapter × Adapter))
    (mapping otherMapping : Mapping) (result other : RewrittenCallback × List Trace) : Prop where
  frame_eq : other.1.frame = result.1.frame
  valid : IsName result.1.frame.item ∧ IsName result.1.frame.index
  markup : Twins Same adapters result.1.markup other.1.markup
  call : ∀ {callee otherCallee}, Twins Same adapters callee otherCallee →
    Twins Same adapters
      (.mk mapping.start (.call mapping.optional mapping.pure mapping.closing)
        [callee, result.1.callback])
      (.mk otherMapping.start (.call otherMapping.optional otherMapping.pure otherMapping.closing)
        [otherCallee, other.1.callback])
  inside : TracedAlike Same result.2 other.2

/-- Corresponding lists have corresponding pieces, and their loops bind the same names. -/
structure ListTwins (Same : Nat → Nat → Prop) (adapters : Option (Adapter × Adapter))
    (list : MatchedList value iteration) (other : MatchedList otherValue iteration) : Prop where
  callees : Corresponds Same none [list.callee] [other.callee]
  parameters : Corresponds Same none [list.parameters] [other.parameters]
  bodies : Corresponds Same none [list.body] [other.body]
  refill : ∀ {callee otherCallee parameters otherParameters body otherBody},
    Twins Same adapters callee otherCallee →
    Twins Same adapters parameters otherParameters → Twins Same adapters body otherBody →
      Twins Same adapters (list.mapping.call callee parameters body)
        (other.mapping.call otherCallee otherParameters otherBody)

theorem listTwins (values : Corresponds Same none [value] [otherValue])
    (ordinary : Node.Everywhere (Ordinary adapters) [value])
    (list : MatchedList value iteration) (other : MatchedList otherValue iteration) :
    ListTwins Same adapters list other := by
  have calls := values.withoutParentheses
  rw [list.shape_body, other.shape_body] at calls
  obtain ⟨callees, parameters, bodies, refill⟩ := calls.call
  refine ⟨callees, parameters, bodies, refill ?_⟩
  obtain ⟨-, callback⟩ := list.everywhere_call ordinary
  exact (Node.everywhere_append.1 (Node.everywhere_mk.1 callback).2).1

variable {list : MatchedList value iteration} {other : MatchedList otherValue iteration}
  (same : ∀ offset, Same offset offset)
  (linked : Linked adapters before after)
  (values : Corresponds Same none [value] [otherValue])
  (ordinary : Node.Everywhere (Ordinary adapters) [value])
  (declared : Node.Everywhere (DeclaresOnly IsName) [value]) (around : ∀ name ∈ outer, IsName name)
include same linked values ordinary declared around

theorem agree_expandCallback {spelled otherSpelled : Node}
    (spelledSame : Twins Same adapters spelled otherSpelled)
    (bodies : Agree (WithTraces Same (Twins Same adapters))
      (expand ⟨before, policy⟩ (insertNames outer (loopOf iteration list.body).bindings) .inner
        list.body).run
      (expand ⟨after, policy⟩ (insertNames outer (loopOf iteration other.body).bindings) .inner
        other.body).run) :
    Agree (CallbackTwins Same adapters list.mapping other.mapping)
      (expandCallback ⟨before, policy⟩ outer iteration offset spelled
        (list.mapping.callback list.parameters list.body))
      (expandCallback ⟨after, policy⟩ outer iteration otherOffset otherSpelled
        (other.mapping.callback other.parameters other.body)) := by
  have twins := listTwins values ordinary list other
  have opened := only_loopOf list isName_item isName_index declared
  have loop_eq : loopOf iteration other.body = loopOf iteration list.body := by
    rw [loopOf, loopOf, twins.bodies.declaredNames_eq]
  rw [expandCallback_callback, expandCallback_callback]
  dsimp only
  refine bodies.bind ?_
  rintro ⟨body, inside⟩ ⟨otherBody, otherInside⟩ done otherDone ⟨bodySame, alike⟩
  obtain ⟨context, result, rfl, -, markup⟩ := context_of_expand list.markup done
  obtain ⟨otherContext, otherResult, rfl, -, otherMarkup⟩ :=
    context_of_expand other.markup otherDone
  obtain ⟨resultSame, refill⟩ := bodySame.fill markup otherMarkup
  have bodyBinds :=
    bindsOnly_of_declaresOnly isName_item isName_index (list.everywhere declared).2.2
  have finished := only_finishedLoop_of_expand list opened around bodyBinds done
    result.withoutParentheses
  have objects : Agree (Twins Same adapters) _ _ := agree_captureObject same finished.captures
  dsimp only
  rw [completeCallback_fill context _ _ markup, completeCallback_fill otherContext _ _ otherMarkup,
    loop_eq, alike.noteAll_eq, resultSame.withoutParentheses.handedNames_eq linked]
  rw [finishedLoop_captures] at objects
  dsimp only
  cases handed : captureObject (handedNames ⟨before, policy⟩ ((loopOf iteration list.body).noteAll
      inside) outer result.withoutParentheses) with
  | error error => exact .error error
  | ok object =>
      rw [handed] at objects
      cases objects with
      | ok objectSame =>
          exact .ok ⟨rfl, ⟨finished.item, finished.index⟩, resultSame.withoutParentheses,
            fun calleeSame => twins.refill calleeSame spelledSame (refill objectSame), alike⟩

theorem agree_expandList
    (callees : Agree (WithTraces Same (Twins Same adapters))
      (expandCallee ⟨before, policy⟩ outer list.callee).run
      (expandCallee ⟨after, policy⟩ outer other.callee).run)
    (bodies : Agree (WithTraces Same (Twins Same adapters))
      (expand ⟨before, policy⟩ (insertNames outer (loopOf iteration list.body).bindings) .inner
        list.body).run
      (expand ⟨after, policy⟩ (insertNames outer (loopOf iteration other.body).bindings) .inner
        other.body).run) :
    Agree (WithTraces Same (Twins Same adapters))
      (expandList ⟨before, policy⟩ outer iteration offset value).run
      (expandList ⟨after, policy⟩ outer iteration otherOffset otherValue).run := by
  have opened := only_loopOf list isName_item isName_index declared
  have parameters := agree_spellParameters same (listTwins values ordinary list other).parameters
    (list.everywhere ordinary).2.1 opened.item opened.index
  rw [expandList_of_shape list.shape_body, expandList_of_shape other.shape_body]
  refine (Agree.ofExcept parameters).next ?_
  intro spelled otherSpelled _ _ spelledSame
  refine callees.next ?_
  intro callee otherCallee _ _ calleesSame
  refine (Agree.ofExcept (agree_expandCallback same linked values ordinary declared around
    spelledSame bodies)).next ?_
  rintro ⟨rewritten, inside⟩ ⟨otherRewritten, otherInside⟩ _ _ callbacks
  dsimp only
  rw [callbacks.frame_eq]
  refine (Agree.ofExcept (agree_loopWrapper same linked callbacks.valid.1 callbacks.valid.2
    (callbacks.call calleesSame) callbacks.markup)).next ?_
  intro wrapper otherWrapper _ _ wrappersSame
  exact .ok ⟨wrappersSame, .list _ callbacks.inside .nil⟩

end Step

/-! ## Whole expansions -/

/-- Nodes around one part each agree if the parts do. -/
theorem Agree.around {Same : Nat → Nat → Prop} {adapters : Option (Adapter × Adapter)}
    {start otherStart : Nat} {form : Form} {part otherPart : Traced Node}
    (starts : Same start otherStart) (unnamed : ∀ name, form ≠ .attribute name)
    (parts : Agree (WithTraces Same (Twins Same adapters)) part.run otherPart.run) :
    Agree (WithTraces Same (Twins Same adapters))
      (do return Node.mk start form [← part] : Traced Node).run
      (do return Node.mk otherStart form [← otherPart] : Traced Node).run := by
  refine parts.next ?_
  intro inner otherInner _ _ innerSame
  exact Agree.pure (.node starts (.same _) (ordinary_of_form unnamed) innerSame)

/-- What a rewritten node is made of tells no attribute apart that was none before. -/
theorem ordinary_of_expandAll {rules : RewriteRules} {adapters : Option (Adapter × Adapter)}
    {outer : Names} {start : Nat} {form : Form} {parts expanded : List Node} {traces : List Trace}
    (ordinary : Ordinary adapters (.mk start form parts))
    (done : (expandAll rules outer .inner parts).run = .ok (expanded, traces)) :
    Ordinary adapters (.mk start form expanded) := by
  cases adapters with
  | none => trivial
  | some pair =>
      intro name member
      rw [stringValue?_of_forms (map_form_of_expandAll done)]
      exact ordinary name member

theorem Plain.moved {Same : Nat → Nat → Prop} {form otherForm : Form} {parts otherParts : List Node}
    (plain : Plain form parts) (forms : Moved Same form otherForm)
    (partsSame : Corresponds Same none parts otherParts) : Plain otherForm otherParts where
  notElement := by
    rintro opening children rfl rfl
    cases forms
    obtain ⟨opening, children, rfl⟩ :=
      List.exists_cons_of_length_eq_add_one partsSame.length_eq.symm
    exact plain.notElement opening children rfl rfl
  notFragment := by
    rintro rfl
    cases forms
    exact plain.notFragment rfl

section Whole

variable {Same : Nat → Nat → Prop} {adapters : Option (Adapter × Adapter)} {before after : Adapter}
  {policy : MergePolicy} (same : ∀ offset, Same offset offset)
  (linked : Linked adapters before after)
include same linked

/-- Corresponding nodes are rewritten alike with both adapters. -/
theorem agree_of_expansion :
    (∀ outer place node, (∀ name ∈ outer, IsName name) →
        Node.Everywhere (DeclaresOnly IsName) [node] →
        Node.Everywhere (Ordinary adapters) [node] → ∀ other,
        Corresponds Same none [node] [other] →
          Agree (WithTraces Same (Twins Same adapters))
            (expand ⟨before, policy⟩ outer place node).run
            (expand ⟨after, policy⟩ outer place other).run) ∧
      (∀ outer place nodes, (∀ name ∈ outer, IsName name) →
        Node.Everywhere (DeclaresOnly IsName) nodes →
        Node.Everywhere (Ordinary adapters) nodes → ∀ others,
        Corresponds Same none nodes others →
          Agree (WithTraces Same (Corresponds Same adapters))
            (expandAll ⟨before, policy⟩ outer place nodes).run
            (expandAll ⟨after, policy⟩ outer place others).run) := by
  apply expansion_induction _ _ fun outer node => (∀ name ∈ outer, IsName name) →
    Node.Everywhere (DeclaresOnly IsName) [node] →
    Node.Everywhere (Ordinary adapters) [node] → ∀ other,
    Corresponds Same none [node] [other] →
      Agree (WithTraces Same (Twins Same adapters))
        (expandCallee ⟨before, policy⟩ outer node).run
        (expandCallee ⟨after, policy⟩ outer other).run
  case nil =>
    intro outer place around declared ordinary others nodesSame
    cases nodesSame
    exact Agree.pure .nil
  case cons =>
    intro outer place node nodes nodeAgree nodesAgree around declared ordinary others nodesSame
    obtain ⟨nodeDeclared, nodesDeclared⟩ := Node.everywhere_cons.1 declared
    obtain ⟨nodeOrdinary, nodesOrdinary⟩ := Node.everywhere_cons.1 ordinary
    obtain ⟨other, others, rfl⟩ := List.exists_cons_of_length_eq_add_one nodesSame.length_eq
    obtain ⟨nodeSame, restSame⟩ := nodesSame.uncons
    rw [expandAll, expandAll]
    refine (nodeAgree around nodeDeclared nodeOrdinary other nodeSame).next ?_
    intro first otherFirst _ _ firstSame
    refine (nodesAgree around nodesDeclared nodesOrdinary others restSame).next ?_
    intro rest otherRest _ _ restSame
    exact Agree.pure (firstSame.push restSame)
  case container =>
    intro outer start value unmatched valueAgree around declared ordinary other nodeSame
    obtain ⟨otherStart, otherForm, otherValue, rfl, starts, forms, valueSame⟩ :=
      nodeSame.exists_mk_singleton
    cases forms
    have values := valueAgree around (Node.everywhere_mk.1 declared).2
      (Node.everywhere_mk.1 ordinary).2 otherValue valueSame
    simp only [expand, iteration?_eq valueSame, unmatched, isMapCall_eq valueSame]
    split
    case isTrue =>
      refine (Agree.leave (.skipped starts .nil)).next ?_
      intro _ _ _ _ _
      exact values.around starts (by simp)
    case isFalse => exact values.around starts (by simp)
  case list =>
    intro outer start value iteration list matched calleeAgree bodyAgree around declared ordinary
      other nodeSame
    obtain ⟨otherStart, otherForm, otherValue, rfl, starts, forms, valueSame⟩ :=
      nodeSame.exists_mk_singleton
    cases forms
    have valueDeclared := (Node.everywhere_mk.1 declared).2
    have valueOrdinary := (Node.everywhere_mk.1 ordinary).2
    have otherMatched := (iteration?_eq valueSame).trans matched
    obtain ⟨otherList⟩ := nonempty_of_iteration? otherMatched
    have twins := listTwins valueSame valueOrdinary list otherList
    obtain ⟨calleeDeclared, -, bodyDeclared⟩ := list.everywhere valueDeclared
    obtain ⟨calleeOrdinary, -, bodyOrdinary⟩ := list.everywhere valueOrdinary
    have opened := only_loopOf list isName_item isName_index valueDeclared
    have loop_eq : loopOf iteration otherList.body = loopOf iteration list.body := by
      rw [loopOf, loopOf, twins.bodies.declaredNames_eq]
    simp only [expand, otherMatched, matched]
    apply agree_expandList same linked valueSame valueOrdinary valueDeclared around
    · exact calleeAgree around calleeDeclared calleeOrdinary _ twins.callees
    · rw [loop_eq]
      refine bodyAgree (fun name member => ?_) bodyDeclared bodyOrdinary _ twins.bodies
      exact (mem_insertNames.1 member).elim (around name) (opened.bindings name)
  case element =>
    intro outer place start opening children openingAgree childrenAgree around declared ordinary
      other nodeSame
    obtain ⟨openingDeclared, childrenDeclared⟩ :=
      Node.everywhere_cons.1 (Node.everywhere_mk.1 declared).2
    obtain ⟨openingOrdinary, childrenOrdinary⟩ :=
      Node.everywhere_cons.1 (Node.everywhere_mk.1 ordinary).2
    obtain ⟨otherStart, otherForm, otherParts, rfl, starts, forms, partsSame⟩ :=
      nodeSame.exists_mk (.inl rfl)
    cases forms
    obtain ⟨otherOpening, otherChildren, rfl⟩ :=
      List.exists_cons_of_length_eq_add_one partsSame.length_eq
    obtain ⟨openingSame, childrenSame⟩ := partsSame.uncons
    rw [expand, expand]
    refine (openingAgree around openingDeclared openingOrdinary otherOpening openingSame).next ?_
    intro first otherFirst _ _ firstSame
    refine (childrenAgree around childrenDeclared childrenOrdinary otherChildren
      childrenSame).next ?_
    intro rest otherRest _ _ restSame
    exact Agree.pure (.node starts (.same _) (ordinary_of_form (by simp)) (firstSame.push restSame))
  case fragment =>
    intro outer place start children childrenAgree around declared ordinary other nodeSame
    obtain ⟨otherStart, otherForm, otherChildren, rfl, starts, forms, childrenSame⟩ :=
      nodeSame.exists_mk (.inl rfl)
    cases forms
    rw [expand, expand]
    refine (childrenAgree around (Node.everywhere_mk.1 declared).2 (Node.everywhere_mk.1 ordinary).2
      otherChildren childrenSame).next ?_
    intro rest otherRest _ _ restSame
    exact Agree.pure (.node starts (.same _) (ordinary_of_form (by simp)) restSame)
  case plain =>
    intro outer place start form parts plain unbraced partsAgree around declared ordinary other
      nodeSame
    obtain ⟨otherStart, otherForm, otherParts, rfl, starts, forms, partsSame⟩ :=
      nodeSame.exists_mk (.inl rfl)
    rw [expand_plain plain unbraced, expand_plain (plain.moved forms partsSame) ?_]
    · refine (partsAgree around (Node.everywhere_mk.1 declared).2 (Node.everywhere_mk.1 ordinary).2
        otherParts partsSame).next ?_
      intro rest otherRest traces done restSame
      exact Agree.pure (.node starts forms
        (ordinary_of_expandAll (Node.everywhere_mk.1 ordinary).1 done) restSame)
    · rintro rfl otherValue rfl rfl
      cases forms
      obtain ⟨value, rfl⟩ := partsSame.exists_singleton
      exact unbraced rfl value rfl rfl
  case parenthesized =>
    intro outer start callee calleeAgree around declared ordinary other nodeSame
    obtain ⟨otherStart, otherForm, otherCallee, rfl, starts, forms, calleeSame⟩ :=
      nodeSame.exists_mk_singleton
    cases forms
    rw [expandCallee, expandCallee]
    exact (calleeAgree around (Node.everywhere_mk.1 declared).2 (Node.everywhere_mk.1 ordinary).2
      otherCallee calleeSame).around starts (by simp)
  case member =>
    intro outer start name optional object objectAgree around declared ordinary other nodeSame
    obtain ⟨otherStart, otherForm, otherObject, rfl, starts, forms, objectSame⟩ :=
      nodeSame.exists_mk_singleton
    cases forms
    rw [expandCallee, expandCallee]
    exact (objectAgree around (Node.everywhere_mk.1 declared).2 (Node.everywhere_mk.1 ordinary).2
      otherObject objectSame).around starts (by simp)
  case kept =>
    intro outer node notParenthesized notMember around declared ordinary other nodeSame
    obtain ⟨start, form, parts⟩ := node
    obtain ⟨otherStart, otherForm, otherParts, rfl, starts, forms, partsSame⟩ :=
      nodeSame.exists_mk (.inl rfl)
    rw [expandCallee, expandCallee]
    · exact Agree.pure (nodeSame.rename ordinary)
    · rintro _ otherInner ⟨⟩
      cases forms
      obtain ⟨inner, rfl⟩ := partsSame.exists_singleton
      exact notParenthesized start inner rfl
    · rintro _ name optional otherObject ⟨⟩
      cases forms
      obtain ⟨object, rfl⟩ := partsSame.exists_singleton
      exact notMember start name optional object rfl
    · exact notParenthesized
    · exact notMember

end Whole

end LoopTemplate.Loop
