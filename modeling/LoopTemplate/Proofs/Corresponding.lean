import Mathlib.Data.List.Forall2
import LoopTemplate.Proofs.Kept

/-!
# Trees that differ in offsets and in the names of loop attributes

`Corresponds` relates trees that are the same except for two things. Offsets may differ, as far as
`Same` allows. And where attributes are renamed, a loop of the template on the first side stands
where one with the other attributes stands on the second. The offsets of a loop's own nodes say
nothing, as they come from the text that was read for it. With nothing renamed, the relation says
that one tree is the other at another place of a source, and then a mapped list is matched on both
sides or on neither.
-/

namespace LoopTemplate.Loop

open LoopTemplate.Tree (ExportSpecifier Form Node)

/-! ## Forms and offsets -/

/-- Names of an export list at other offsets. -/
structure MovedSpecifier (Same : Nat → Nat → Prop) (specifier other : ExportSpecifier) : Prop where
  inside : other.inside = specifier.inside
  outside : other.outside = specifier.outside
  insideStart : Same specifier.insideStart other.insideStart
  outsideStart : Same specifier.outsideStart other.outsideStart

/-- Forms that are the same except for the offsets that they hold. -/
inductive Moved (Same : Nat → Nat → Prop) : Form → Form → Prop where
  | same (form : Form) : Moved Same form form
  | body {closing other : Nat} (closings : Same closing other) :
      Moved Same (.body closing) (.body other)
  | call {optional pure : Bool} {closing other : Nat} (closings : Same closing other) :
      Moved Same (.call optional pure closing) (.call optional pure other)
  | construct {pure : Bool} {closing other : Nat} (closings : Same closing other) :
      Moved Same (.construct pure closing) (.construct pure other)
  | importCall {phase : Option String} {closing other : Nat} (closings : Same closing other) :
      Moved Same (.importCall phase closing) (.importCall phase other)
  | emptyContainer {closing other : Nat} (closings : Same closing other) :
      Moved Same (.emptyContainer closing) (.emptyContainer other)
  | spreadAttribute {mark other : Nat} (marks : Same mark other) :
      Moved Same (.spreadAttribute mark) (.spreadAttribute other)
  | exportNames {specifiers others : List ExportSpecifier} {source : Option Tree.ModuleSource}
      (names : List.Forall₂ (MovedSpecifier Same) specifiers others) :
      Moved Same (.exportNames specifiers source) (.exportNames others source)
  | module {hashbang : Option String} {stop other : Nat} (stops : Same stop other) :
      Moved Same (.module hashbang stop) (.module hashbang other)

/-! ## Trees -/

/-- Whether a node is a loop of the template that was made with the given names and filled with the
given nodes. -/
def MadeLoop (adapter : Adapter) (item index : String) (call child node : Node) : Prop :=
  ∃ outer first firstInner second secondInner third thirdInner,
    node = loopElement adapter item index call child outer first firstInner second secondInner third
      thirdInner

/-- Whether a node is no string-valued attribute that names the item or index of a loop before or
after attributes are renamed. Nothing is asked where none is renamed. -/
def Ordinary : Option (Adapter × Adapter) → Node → Prop
  | none, _ => True
  | some (before, after), node =>
      ∀ name ∈ [before.item, before.index, after.item, after.index], stringValue? name node = none

/-- Nodes that are the same except for offsets, and for the attributes of loops where these are
renamed. -/
inductive Corresponds (Same : Nat → Nat → Prop) (adapters : Option (Adapter × Adapter)) :
    List Node → List Node → Prop where
  | nil : Corresponds Same adapters [] []
  | cons {node other next : Node} {nodes others : List Node}
      (head : Corresponds Same adapters [node] [other])
      (tail : Corresponds Same adapters (next :: nodes) others) :
      Corresponds Same adapters (node :: next :: nodes) (other :: others)
  | node {start otherStart : Nat} {form otherForm : Form} {parts others : List Node}
      (starts : Same start otherStart) (forms : Moved Same form otherForm)
      (ordinary : Ordinary adapters (.mk start form parts))
      (inner : Corresponds Same adapters parts others) :
      Corresponds Same adapters [.mk start form parts] [.mk otherStart otherForm others]
  | loop {before after : Adapter} {item index : String}
      {call otherCall child otherChild node other : Node}
      (renamed : adapters = some (before, after))
      (made : MadeLoop before item index call child node)
      (otherMade : MadeLoop after item index otherCall otherChild other)
      (calls : Corresponds Same adapters [call] [otherCall])
      (children : Corresponds Same adapters [child] [otherChild]) :
      Corresponds Same adapters [node] [other]

theorem stringValue?_of_form {node : Node} (plain : ∀ name, node.form ≠ .attribute name)
    (name : String) : stringValue? name node = none := by
  unfold stringValue?
  split
  case h_1 => exact absurd rfl (plain _)
  case h_2 => rfl

theorem ordinary_of_form {adapters : Option (Adapter × Adapter)} {node : Node}
    (plain : ∀ name, node.form ≠ .attribute name) : Ordinary adapters node := by
  cases adapters with
  | none => trivial
  | some pair => exact fun name _ => stringValue?_of_form plain name

theorem everywhere_ordinary {adapters : Option (Adapter × Adapter)} {nodes : List Node}
    (plain : Node.Everywhere (fun node => ∀ name, node.form ≠ .attribute name) nodes) :
    Node.Everywhere (Ordinary adapters) nodes :=
  fun node member => ordinary_of_form (plain node member)

namespace Corresponds

variable {Same : Nat → Nat → Prop} {adapters : Option (Adapter × Adapter)} {node other : Node}
  {nodes others : List Node}

/-! ### Putting together -/

theorem push (head : Corresponds Same adapters [node] [other])
    (tail : Corresponds Same adapters nodes others) :
    Corresponds Same adapters (node :: nodes) (other :: others) := by
  cases nodes with
  | nil =>
      cases tail
      exact head
  | cons next nodes => exact .cons head tail

theorem append {moreNodes moreOthers : List Node} (front : Corresponds Same adapters nodes others)
    (back : Corresponds Same adapters moreNodes moreOthers) :
    Corresponds Same adapters (nodes ++ moreNodes) (others ++ moreOthers) := by
  induction front with
  | nil => exact back
  | cons head tail headIh tailIh => exact head.push tailIh
  | node starts forms ordinary inner ih =>
      exact (Corresponds.node starts forms ordinary inner).push back
  | loop renamed made otherMade calls children callsIh childrenIh =>
      exact (Corresponds.loop renamed made otherMade calls children).push back

theorem of_each (each : ∀ node ∈ nodes, Corresponds Same adapters [node] [node]) :
    Corresponds Same adapters nodes nodes := by
  induction nodes with
  | nil => exact .nil
  | cons node nodes ih =>
      exact (each node List.mem_cons_self).push
        (ih fun other member => each other (List.mem_cons_of_mem _ member))

theorem refl (same : ∀ offset, Same offset offset)
    (ordinary : Node.Everywhere (Ordinary adapters) nodes) :
    Corresponds Same adapters nodes nodes := by
  have each : ∀ node : Node, Node.Everywhere (Ordinary adapters) [node] →
      Corresponds Same adapters [node] [node] := by
    intro node
    induction node using Node.induction_on_parts with
    | step start form parts ih =>
        intro ordinary
        obtain ⟨own, inside⟩ := Node.everywhere_mk.1 ordinary
        refine .node (same start) (.same form) own (of_each fun part member => ih part member ?_)
        exact ordinary.of_mem (Node.mem_nodes_of_part member part.mem_nodes_self)
  refine of_each fun node member => each node fun inner inside => ordinary inner ?_
  rw [Node.mem_allNodes] at inside ⊢
  obtain ⟨single, isNode, inside⟩ := inside
  exact ⟨node, member, List.mem_singleton.1 isNode ▸ inside⟩

/-- Nodes of a source still correspond when attributes are renamed, if they have none of these. -/
theorem rename (same : Corresponds Same none nodes others)
    (ordinary : Node.Everywhere (Ordinary adapters) nodes) :
    Corresponds Same adapters nodes others := by
  induction same with
  | nil => exact .nil
  | cons head tail headIh tailIh =>
      obtain ⟨headOrdinary, tailOrdinary⟩ := Node.everywhere_cons.1 ordinary
      exact .cons (headIh headOrdinary) (tailIh tailOrdinary)
  | node starts forms _ inner ih =>
      obtain ⟨own, inside⟩ := Node.everywhere_mk.1 ordinary
      exact .node starts forms own (ih inside)
  | loop renamed => cases renamed

/-! ### Taking apart -/

theorem uncons (same : Corresponds Same adapters (node :: nodes) (other :: others)) :
    Corresponds Same adapters [node] [other] ∧ Corresponds Same adapters nodes others := by
  cases same with
  | cons head tail => exact ⟨head, tail⟩
  | node starts forms ordinary inner => exact ⟨.node starts forms ordinary inner, .nil⟩
  | loop renamed made otherMade calls children =>
      exact ⟨.loop renamed made otherMade calls children, .nil⟩

theorem length_eq (same : Corresponds Same adapters nodes others) :
    others.length = nodes.length := by
  induction same with
  | nil => rfl
  | cons head tail headIh tailIh => simp only [List.length_cons, tailIh]
  | node | loop => rfl

theorem forall₂ (same : Corresponds Same adapters nodes others) :
    List.Forall₂ (fun node other => Corresponds Same adapters [node] [other]) nodes others := by
  induction nodes generalizing others with
  | nil =>
      obtain rfl := List.length_eq_zero_iff.1 same.length_eq
      exact .nil
  | cons node nodes ih =>
      cases others with
      | nil => cases same.length_eq
      | cons other others =>
          obtain ⟨head, tail⟩ := same.uncons
          exact .cons head (ih tail)

theorem split {before otherBefore after otherAfter : List Node}
    (same : Corresponds Same adapters (before ++ after) (otherBefore ++ otherAfter))
    (length_eq : otherBefore.length = before.length) :
    Corresponds Same adapters before otherBefore ∧ Corresponds Same adapters after otherAfter := by
  induction before generalizing otherBefore with
  | nil =>
      obtain rfl := List.length_eq_zero_iff.1 length_eq
      exact ⟨.nil, same⟩
  | cons first before ih =>
      cases otherBefore with
      | nil => cases length_eq
      | cons otherFirst otherBefore =>
          obtain ⟨headSame, tailSame⟩ := same.uncons
          obtain ⟨beforeSame, afterSame⟩ := ih tailSame (Nat.succ.inj length_eq)
          exact ⟨headSame.push beforeSame, afterSame⟩

theorem moved (same : Corresponds Same adapters [node] [other]) :
    Moved Same node.form other.form := by
  cases same with
  | node starts forms ordinary inner => exact forms
  | loop renamed made otherMade calls children =>
      obtain ⟨_, _, _, _, _, _, _, rfl⟩ := made
      obtain ⟨_, _, _, _, _, _, _, rfl⟩ := otherMade
      exact .same .element

/-- Nodes that are no loops have the same parts but for offsets. -/
theorem parts {start otherStart : Nat} {form otherForm : Form} {parts otherParts : List Node}
    (same : Corresponds Same adapters [.mk start form parts] [.mk otherStart otherForm otherParts])
    (plain : adapters = none ∨ form ≠ .element) :
    Same start otherStart ∧ Moved Same form otherForm ∧
      Corresponds Same adapters parts otherParts := by
  cases same with
  | node starts forms ordinary inner => exact ⟨starts, forms, inner⟩
  | loop renamed made otherMade calls children =>
      obtain ⟨_, _, _, _, _, _, _, same⟩ := made
      cases same
      rcases plain with rfl | notElement
      · cases renamed
      · exact absurd rfl notElement

theorem withoutParentheses (same : Corresponds Same adapters [node] [other]) :
    Corresponds Same adapters [node.withoutParentheses] [other.withoutParentheses] := by
  fun_induction Node.withoutParentheses node generalizing other with
  | case1 start inner ih =>
      obtain ⟨otherStart, otherForm, otherParts⟩ := other
      obtain ⟨-, forms, partsSame⟩ := same.parts (.inr (by simp))
      obtain ⟨otherInner, rfl⟩ := List.length_eq_one_iff.1 partsSame.length_eq
      cases forms
      simpa only [Node.withoutParentheses] using ih partsSame
  | case2 node alone =>
      have kept : other.withoutParentheses = other := by
        rw [Node.withoutParentheses]
        rintro start inner rfl
        obtain ⟨nodeStart, form, parts⟩ := node
        have forms := same.moved
        cases forms
        obtain ⟨-, -, partsSame⟩ := same.parts (.inr (by simp))
        obtain ⟨part, rfl⟩ := List.length_eq_one_iff.1 partsSame.length_eq.symm
        exact alone nodeStart part rfl
      rwa [kept]

theorem isMarkup_eq (same : Corresponds Same adapters [node] [other]) :
    isMarkup other = isMarkup node := by
  unfold isMarkup
  have forms := same.withoutParentheses.moved
  generalize node.withoutParentheses.form = form, other.withoutParentheses.form = otherForm
    at forms ⊢
  cases forms <;> rfl

theorem isMapCallee_eq (same : Corresponds Same adapters [node] [other]) :
    isMapCallee other = isMapCallee node := by
  unfold isMapCallee
  have forms := same.withoutParentheses.moved
  generalize node.withoutParentheses.form = form, other.withoutParentheses.form = otherForm
    at forms ⊢
  cases forms <;> rfl

/-- A node has parts where a corresponding one has, and they correspond. -/
theorem exists_mk {start : Nat} {form : Form} {parts : List Node}
    (same : Corresponds Same adapters [.mk start form parts] [other])
    (plain : adapters = none ∨ form ≠ .element) :
    ∃ otherStart otherForm otherParts, other = .mk otherStart otherForm otherParts ∧
      Same start otherStart ∧ Moved Same form otherForm ∧
      Corresponds Same adapters parts otherParts := by
  obtain ⟨otherStart, otherForm, otherParts⟩ := other
  exact ⟨otherStart, otherForm, otherParts, rfl, same.parts plain⟩

theorem exists_mk_singleton {start : Nat} {form : Form} {part : Node}
    (same : Corresponds Same none [.mk start form [part]] [other]) :
    ∃ otherStart otherForm otherPart, other = .mk otherStart otherForm [otherPart] ∧
      Same start otherStart ∧ Moved Same form otherForm ∧
      Corresponds Same none [part] [otherPart] := by
  obtain ⟨otherStart, otherForm, otherParts, rfl, starts, forms, partsSame⟩ :=
    same.exists_mk (.inl rfl)
  obtain ⟨otherPart, rfl⟩ := List.length_eq_one_iff.1 partsSame.length_eq
  exact ⟨otherStart, otherForm, otherPart, rfl, starts, forms, partsSame⟩

/-- A node with one part corresponds only to a node with one part. -/
theorem exists_singleton {otherPart : Node} (same : Corresponds Same none nodes [otherPart]) :
    ∃ part, nodes = [part] :=
  List.length_eq_one_iff.1 same.length_eq.symm

end Corresponds

/-! ## Mapped lists -/

section Matching

variable {Same : Nat → Nat → Prop} {node other : Node} {nodes others : List Node}

theorem countAllReturns_eq (same : Corresponds Same none nodes others) :
    countAllReturns others = countAllReturns nodes := by
  induction same with
  | nil => rfl
  | cons head tail headIh tailIh =>
      simp only [countAllReturns, Nat.add_zero] at headIh tailIh ⊢
      rw [headIh, tailIh]
  | @node start otherStart form otherForm parts others starts forms ordinary inner ih =>
      cases forms with
      | same =>
          simp only [countAllReturns]
          cases form <;> simp only [countReturns, ih]
      | _ => simp only [countAllReturns, countReturns, ih]
  | loop renamed => cases renamed

/-- Statements that correspond return markup both or neither. -/
theorem returned?_any_eq (same : Corresponds Same none [node] [other]) :
    (returned? other).any isMarkup = (returned? node).any isMarkup := by
  obtain ⟨start, form, parts⟩ := node
  obtain ⟨otherStart, otherForm, otherParts, rfl, -, forms, partsSame⟩ := same.exists_mk (.inl rfl)
  by_cases returns : form = .returnStatement ∧ ∃ value, parts = [value]
  · obtain ⟨rfl, value, rfl⟩ := returns
    cases forms
    obtain ⟨otherValue, rfl⟩ := List.length_eq_one_iff.1 partsSame.length_eq
    simpa only [returned?, Option.any_some] using partsSame.isMarkup_eq
  · have silent : ∀ start form parts, ¬(form = .returnStatement ∧ ∃ value, parts = [value]) →
        returned? (.mk start form parts) = none := by
      intro start form parts other
      unfold returned?
      split
      case h_1 value same =>
        cases same
        exact absurd ⟨rfl, value, rfl⟩ other
      case h_2 => rfl
    rw [silent _ _ _ returns, silent]
    rintro ⟨rfl, value, rfl⟩
    cases forms
    obtain ⟨part, rfl⟩ := List.length_eq_one_iff.1 partsSame.length_eq.symm
    exact returns ⟨rfl, part, rfl⟩

theorem bodyShape?_eq (same : Corresponds Same none [node] [other]) :
    bodyShape? other = bodyShape? node := by
  obtain ⟨start, form, parts⟩ := node
  obtain ⟨otherStart, otherForm, otherParts, rfl, -, forms, partsSame⟩ := same.exists_mk (.inl rfl)
  have markup_eq := same.isMarkup_eq
  have returns_eq : returnsMarkup otherParts = returnsMarkup parts := by
    unfold returnsMarkup
    rw [countAllReturns_eq partsSame]
    congr 1
    have each := partsSame.forall₂
    clear markup_eq same forms partsSame
    induction each with
    | nil => rfl
    | cons head tail ih => rw [List.any_cons, List.any_cons, returned?_any_eq head, ih]
  cases forms with
  | same => cases form <;> simp only [bodyShape?, markup_eq, returns_eq]
  | _ => simp only [bodyShape?, markup_eq, returns_eq]

theorem parameterName?_eq (same : Corresponds Same none [node] [other]) :
    parameterName? other = parameterName? node := by
  obtain ⟨start, form, parts⟩ := node
  obtain ⟨otherStart, otherForm, otherParts, rfl, -, forms, partsSame⟩ := same.exists_mk (.inl rfl)
  cases forms with
  | same =>
      cases partsSame.forall₂ with
      | nil => cases form <;> rfl
      | @cons first otherFirst rest otherRest head tail =>
          obtain ⟨firstStart, firstForm, firstParts⟩ := first
          obtain ⟨_, _, _, rfl, -, firstForms, -⟩ := head.exists_mk (.inl rfl)
          cases form with
          | parameter =>
              cases firstForms with
              | same => cases firstForm <;> rfl
              | _ => rfl
          | _ => rfl
  | _ => rfl

theorem parameterNames?_eq (same : Corresponds Same none [node] [other]) :
    parameterNames? other = parameterNames? node := by
  obtain ⟨start, form, parts⟩ := node
  obtain ⟨otherStart, otherForm, otherParts, rfl, -, forms, partsSame⟩ := same.exists_mk (.inl rfl)
  have names_eq : otherParts.mapM parameterName? = parts.mapM parameterName? := by
    have each := partsSame.forall₂
    clear same forms partsSame
    induction each with
    | nil => rfl
    | cons head tail ih => rw [List.mapM_cons, List.mapM_cons, parameterName?_eq head, ih]
  unfold parameterNames?
  rw [Node.parts_mk, Node.parts_mk, partsSame.length_eq, names_eq]

/-- Whether two callbacks correspond in their parameters and bodies, or neither node is a
callback. -/
def CallbacksMatch (Same : Nat → Nat → Prop) : Option (Node × Node) → Option (Node × Node) → Prop
  | some (parameters, body), some (otherParameters, otherBody) =>
      Corresponds Same none [parameters] [otherParameters] ∧
        Corresponds Same none [body] [otherBody]
  | none, none => True
  | _, _ => False

theorem callbacksMatch (same : Corresponds Same none [node] [other]) :
    CallbacksMatch Same (callback? node) (callback? other) := by
  obtain ⟨start, form, parts⟩ := node
  obtain ⟨otherStart, otherForm, otherParts, rfl, -, forms, partsSame⟩ := same.exists_mk (.inl rfl)
  cases forms with
  | same =>
      cases form with
      | arrow head =>
          obtain ⟨async, wrapped, effectFree⟩ := head
          cases async with
          | true => exact trivial
          | false =>
              rcases partsSame.forall₂ with _ | ⟨parameters, _ | ⟨body, _ | ⟨-, -⟩⟩⟩
              · exact trivial
              · exact trivial
              · exact ⟨parameters, body⟩
              · exact trivial
      | function head =>
          obtain ⟨expression, async, generator, wrapped, effectFree⟩ := head
          cases async with
          | true => exact trivial
          | false =>
              cases generator with
              | true => exact trivial
              | false =>
                  rcases partsSame.forall₂ with
                    _ | ⟨-, _ | ⟨parameters, _ | ⟨body, _ | ⟨-, -⟩⟩⟩⟩
                  · exact trivial
                  · exact trivial
                  · exact trivial
                  · exact ⟨parameters, body⟩
                  · exact trivial
      | _ => exact trivial
  | _ => exact trivial

/-- What makes an expression a mapped list, looking through parentheses. -/
theorem iteration?_of_call {start : Nat} {optional pure : Bool} {closing : Nat}
    {callee argument : Node}
    (shape : node.withoutParentheses = .mk start (.call optional pure closing) [callee, argument]) :
    iteration? node = if isMapCallee callee then do
      let (parameters, body) ← callback? argument
      let names ← parameterNames? parameters
      let shape ← bodyShape? body
      return ⟨names[0]?, names[1]?, shape⟩
    else none := by
  rw [iteration?, shape]

/-- What is no call with one argument is no mapped list. -/
theorem iteration?_of_other {start : Nat} {form : Form} {parts : List Node}
    (shape : node.withoutParentheses = .mk start form parts)
    (notCalled : ¬((∃ optional pure closing, form = .call optional pure closing) ∧
      parts.length = 2)) : iteration? node = none := by
  rw [iteration?, shape]
  split
  case h_1 same =>
    cases same
    exact absurd ⟨⟨_, _, _, rfl⟩, rfl⟩ notCalled
  case h_2 => rfl

/-- Corresponding expressions are mapped lists with the same names, or neither is one. -/
theorem iteration?_eq (same : Corresponds Same none [node] [other]) :
    iteration? other = iteration? node := by
  have inner := same.withoutParentheses
  rcases shape : node.withoutParentheses with ⟨start, form, parts⟩
  rw [shape] at inner
  obtain ⟨otherStart, otherForm, otherParts, otherShape, -, forms, partsSame⟩ :=
    inner.exists_mk (.inl rfl)
  by_cases called : (∃ optional pure closing, form = .call optional pure closing) ∧ parts.length = 2
  · obtain ⟨⟨optional, pure, closing, rfl⟩, pair⟩ := called
    obtain ⟨otherClosing, rfl⟩ : ∃ closing, otherForm = .call optional pure closing := by
      cases forms <;> exact ⟨_, rfl⟩
    rcases partsSame.forall₂ with _ | ⟨callee, _ | ⟨argument, _ | ⟨-, -⟩⟩⟩
    case cons.cons.nil node other callback otherCallback =>
      rw [iteration?_of_call shape, iteration?_of_call otherShape, callee.isMapCallee_eq]
      have matching := callbacksMatch argument
      cases found : callback? callback with
      | none =>
          cases otherFound : callback? otherCallback with
          | none => rfl
          | some pieces => simp [found, otherFound, CallbacksMatch] at matching
      | some pieces =>
          cases otherFound : callback? otherCallback with
          | none => simp [found, otherFound, CallbacksMatch] at matching
          | some otherPieces =>
              rw [found, otherFound] at matching
              obtain ⟨parametersSame, bodySame⟩ := matching
              simp only [Option.bind_eq_bind, Option.bind_some, parameterNames?_eq parametersSame,
                bodyShape?_eq bodySame]
    all_goals cases pair
  · rw [iteration?_of_other shape called, iteration?_of_other otherShape]
    rintro ⟨⟨optional, pure, closing, rfl⟩, pair⟩
    refine called ⟨?_, partsSame.length_eq.symm.trans pair⟩
    cases forms <;> exact ⟨_, _, _, rfl⟩

theorem isMapCall_eq (same : Corresponds Same none [node] [other]) :
    isMapCall other = isMapCall node := by
  have inner := same.withoutParentheses
  rcases shape : node.withoutParentheses with ⟨start, form, parts⟩
  rw [shape] at inner
  obtain ⟨otherStart, otherForm, otherParts, otherShape, -, forms, partsSame⟩ :=
    inner.exists_mk (.inl rfl)
  rw [isMapCall, isMapCall, shape, otherShape]
  cases partsSame.forall₂ with
  | nil =>
      cases forms with
      | same => cases form <;> rfl
      | _ => rfl
  | cons callee rest =>
      cases forms with
      | same => cases form with
        | call => exact callee.isMapCallee_eq
        | _ => rfl
      | call => exact callee.isMapCallee_eq
      | _ => rfl

end Matching

/-! ## Declared names -/

section Declared

variable {Same : Nat → Nat → Prop} {node other : Node} {nodes others : List Node}

namespace Corresponds

/-- What is read off corresponding nodes is the same, if it depends on nothing but the form of a
node and what is read off its parts. -/
theorem map_eq {α : Type} {read : Node → α} (same : Corresponds Same none nodes others)
    (step : ∀ {start otherStart form otherForm parts others}, Moved Same form otherForm →
      Corresponds Same none parts others → parts.map read = others.map read →
        read (.mk start form parts) = read (.mk otherStart otherForm others)) :
    nodes.map read = others.map read := by
  induction same with
  | nil => rfl
  | cons head tail headIh tailIh => exact congrArg₂ (· ++ ·) headIh tailIh
  | node starts forms ordinary inner ih =>
      exact congrArg (fun found => [found]) (step forms inner ih)
  | loop renamed => cases renamed

theorem map_patternNames (same : Corresponds Same none nodes others) :
    nodes.map patternNames = others.map patternNames := by
  refine same.map_eq ?_
  intro start otherStart form otherForm parts others forms _ ih
  cases forms with
  | same => exact patternNames_congr form ih
  | _ => rfl

theorem map_firstNames (same : Corresponds Same none nodes others) :
    nodes.map firstNames = others.map firstNames := by
  refine same.map_eq ?_
  intro start otherStart form otherForm parts others _ inner _
  exact firstNames_congr inner.map_patternNames

theorem map_statementNames (same : Corresponds Same none nodes others) :
    nodes.map statementNames = others.map statementNames := by
  refine same.map_eq ?_
  intro start otherStart form otherForm parts others forms inner _
  cases forms with
  | same =>
      exact statementNames_congr form inner.map_patternNames inner.map_firstNames
  | _ => rfl

/-- Corresponding bodies declare the same names. -/
theorem declaredNames_eq (same : Corresponds Same none [node] [other]) :
    declaredNames other = declaredNames node := by
  rw [declaredNames_eq_topNames, declaredNames_eq_topNames]
  obtain ⟨start, form, parts⟩ := node
  obtain ⟨otherStart, otherForm, otherParts, rfl, -, forms, partsSame⟩ := same.exists_mk (.inl rfl)
  cases forms with
  | same =>
      cases form with
      | body => rw [topNames, topNames, partsSame.map_statementNames]
      | _ => rfl
  | body => rw [topNames, topNames, partsSame.map_statementNames]
  | _ => rfl

end Corresponds

end Declared

/-! ## Pieces of a mapped list -/

namespace Corresponds

section Pieces

variable {Same : Nat → Nat → Prop} {adapters : Option (Adapter × Adapter)}

/-- Of corresponding statements both are a `return` or neither is. -/
theorem noReturn_iff {node other : Node} (same : Corresponds Same adapters [node] [other]) :
    NoReturn other ↔ NoReturn node := by
  unfold NoReturn
  have forms := same.moved
  generalize node.form = form, other.form = otherForm at forms ⊢
  cases forms <;> simp

/-- The first `return` stands at the same place among corresponding statements. -/
theorem returns_at {before otherBefore after otherAfter : List Node}
    {statement otherStatement : Node}
    (same : Corresponds Same adapters (before ++ statement :: after)
      (otherBefore ++ otherStatement :: otherAfter))
    (returns : ¬ NoReturn statement) (otherReturns : ¬ NoReturn otherStatement)
    (clear : ∀ statement ∈ before, NoReturn statement)
    (otherClear : ∀ statement ∈ otherBefore, NoReturn statement) :
    otherBefore.length = before.length := by
  induction before generalizing otherBefore with
  | nil =>
      cases otherBefore with
      | nil => rfl
      | cons other otherBefore =>
          obtain ⟨head, -⟩ := same.uncons
          exact absurd (head.noReturn_iff.1 (otherClear other List.mem_cons_self)) returns
  | cons first before ih =>
      cases otherBefore with
      | nil =>
          obtain ⟨head, -⟩ := same.uncons
          exact absurd (head.noReturn_iff.2 (clear first List.mem_cons_self)) otherReturns
      | cons other otherBefore =>
          obtain ⟨-, tail⟩ := same.uncons
          rw [List.length_cons, List.length_cons, ih tail
            (fun statement member => clear statement (List.mem_cons_of_mem _ member))
            (fun statement member => otherClear statement (List.mem_cons_of_mem _ member))]

theorem noBody_iff {node other : Node} (same : Corresponds Same adapters [node] [other]) :
    NoBody other ↔ NoBody node := by
  unfold NoBody
  have forms := same.moved
  generalize node.form = form, other.form = otherForm at forms ⊢
  cases forms <;> simp

/-- Corresponding bodies have corresponding results, and still correspond when both results are
replaced by such. -/
theorem fill {context otherContext : BodyContext} {result otherResult : Node}
    (same : Corresponds Same adapters [context.fill result] [otherContext.fill otherResult])
    (markup : isMarkup result = true) (otherMarkup : isMarkup otherResult = true) :
    Corresponds Same adapters [result] [otherResult] ∧
      ∀ {object otherObject}, Corresponds Same adapters [object] [otherObject] →
        Corresponds Same adapters [context.fill object] [otherContext.fill otherObject] := by
  cases context with
  | whole =>
      cases otherContext with
      | whole => exact ⟨same, fun objects => objects⟩
      | block =>
          have noBody := same.noBody_iff.2 (noBody_of_isMarkup markup)
          exact absurd rfl (noBody _)
  | block start closing before returnStart after beforeClear afterClear =>
      cases otherContext with
      | whole =>
          have noBody := same.noBody_iff.1 (noBody_of_isMarkup otherMarkup)
          exact absurd rfl (noBody _)
      | block otherStart otherClosing otherBefore otherReturn otherAfter otherBeforeClear
          otherAfterClear =>
          obtain ⟨starts, forms, statements⟩ := same.parts (.inr (by simp))
          have length_eq := statements.returns_at (by simp [NoReturn]) (by simp [NoReturn])
            beforeClear otherBeforeClear
          obtain ⟨beforeSame, later⟩ := statements.split length_eq
          obtain ⟨returnSame, afterSame⟩ := later.uncons
          obtain ⟨returnStarts, -, resultSame⟩ := returnSame.parts (.inr (by simp))
          refine ⟨resultSame, fun objects => ?_⟩
          refine .node starts forms (ordinary_of_form (by simp))
            (beforeSame.append (.push ?_ afterSame))
          exact .node returnStarts (.same _) (ordinary_of_form (by simp)) objects

/-- Corresponding calls have corresponding pieces, and still correspond when all pieces are replaced
by such. -/
theorem call {mapping otherMapping : Mapping}
    {callee otherCallee parameters otherParameters body otherBody : Node}
    (same : Corresponds Same none [mapping.call callee parameters body]
      [otherMapping.call otherCallee otherParameters otherBody]) :
    Corresponds Same none [callee] [otherCallee] ∧
      Corresponds Same none [parameters] [otherParameters] ∧
      Corresponds Same none [body] [otherBody] ∧
      ∀ {adapters callee otherCallee parameters otherParameters body otherBody},
        Node.Everywhere (Ordinary adapters) mapping.lead →
        Corresponds Same adapters [callee] [otherCallee] →
        Corresponds Same adapters [parameters] [otherParameters] →
        Corresponds Same adapters [body] [otherBody] →
          Corresponds Same adapters [mapping.call callee parameters body]
            [otherMapping.call otherCallee otherParameters otherBody] := by
  obtain ⟨starts, forms, partsSame⟩ := same.parts (.inl rfl)
  obtain ⟨calleeSame, argumentSame⟩ := partsSame.uncons
  obtain ⟨callbackStarts, callbackForms, callbackParts⟩ := argumentSame.parts (.inl rfl)
  have length_eq : otherMapping.lead.length = mapping.lead.length := by
    simpa using callbackParts.length_eq
  obtain ⟨leadSame, lastSame⟩ := callbackParts.split length_eq
  obtain ⟨parametersSame, bodySame⟩ := lastSame.uncons
  refine ⟨calleeSame, parametersSame, bodySame, fun ordinary callees declared bodies => ?_⟩
  have notAttribute : ∀ name, mapping.form ≠ .attribute name := by
    intro name
    obtain ⟨_, _, _, _, _, form, lead, callable⟩ := mapping
    cases callable <;> simp
  refine .node starts forms (ordinary_of_form (by simp)) (callees.push ?_)
  exact .node callbackStarts callbackForms (ordinary_of_form notAttribute)
    ((leadSame.rename ordinary).append (declared.push bodies))

end Pieces

end Corresponds

end LoopTemplate.Loop
