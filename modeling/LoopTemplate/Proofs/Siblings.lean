import LoopTemplate.Proofs.Undo

/-!
# Children keep their places

Every element and fragment of a tree is still there after a rewrite, with as many children, each
in its place: a mapped list is replaced by one loop, and any other child by itself. Only the order
of the elements in the whole tree changes, since markup moves out of callbacks.
-/

namespace LoopTemplate.Loop

open LoopTemplate.Grammar (IsName plainProperty? quotedAttribute)
open LoopTemplate.Tree (Form Node)

/-! ## Families -/

/-- The children of an element or fragment that is no loop of the template. -/
def siblings? (adapter : Adapter) : Node → Option (List Node)
  | .mk start .element (opening :: children) =>
      if isLoop adapter (.mk start .element (opening :: children)) then none else some children
  | .mk _ .fragment children => some children
  | _ => none

/-- The children of all elements and fragments in nodes, loops of the template aside. -/
def families (adapter : Adapter) (nodes : List Node) : List (List Node) :=
  (Node.allNodes nodes).filterMap (siblings? adapter)

section Families

variable {adapter : Adapter}

theorem families_cons (node : Node) (nodes : List Node) :
    families adapter (node :: nodes) = families adapter [node] ++ families adapter nodes := by
  simp [families, Node.allNodes]

theorem families_append (before after : List Node) :
    families adapter (before ++ after) = families adapter before ++ families adapter after := by
  induction before with
  | nil => rfl
  | cons node before ih =>
      rw [List.cons_append, families_cons, ih, families_cons node before, List.append_assoc]

theorem families_mk (start : Nat) (form : Form) (parts : List Node) :
    families adapter [.mk start form parts] =
      (siblings? adapter (.mk start form parts)).toList ++ families adapter parts := by
  simp only [families, Node.allNodes, Node.nodes, List.append_nil, List.filterMap_cons]
  cases siblings? adapter (.mk start form parts) <;> rfl

theorem siblings?_of_form {node : Node} (notElement : node.form ≠ .element)
    (notFragment : node.form ≠ .fragment) : siblings? adapter node = none := by
  unfold siblings?
  split
  case h_1 => exact absurd rfl notElement
  case h_2 => exact absurd rfl notFragment
  case h_3 => rfl

/-- A node that is no markup has only the families of its parts. -/
theorem families_of_siblings? {start : Nat} {form : Form} {parts : List Node}
    (none : siblings? adapter (.mk start form parts) = none) :
    families adapter [.mk start form parts] = families adapter parts := by
  rw [families_mk, none]
  rfl

theorem families_withoutParentheses (node : Node) :
    families adapter [node.withoutParentheses] = families adapter [node] := by
  fun_induction Node.withoutParentheses node with
  | case1 start inner ih => rw [ih, families_of_siblings? rfl]
  | case2 node other => rfl

/-- What stands around the result of a body has its own families. -/
theorem exists_families_fill (adapter : Adapter) (context : BodyContext) :
    ∃ rest, ∀ result, (families adapter [context.fill result]).Perm
      (families adapter [result] ++ rest) := by
  cases context with
  | whole => exact ⟨[], fun result => by rw [List.append_nil]; exact .refl _⟩
  | block start closing before returnStart after beforeClear afterClear =>
      refine ⟨families adapter before ++ families adapter after, fun result => ?_⟩
      rw [BodyContext.fill, families_of_siblings? rfl, families_append, families_cons,
        families_of_siblings? rfl, ← List.append_assoc, ← List.append_assoc]
      exact List.perm_append_comm.append_right _

theorem families_call (mapping : Mapping) (callee parameters body : Node) :
    families adapter [mapping.call callee parameters body] =
      families adapter [callee] ++ (families adapter mapping.lead ++
        (families adapter [parameters] ++ families adapter [body])) := by
  have callback : families adapter [mapping.callback parameters body] =
      families adapter (mapping.lead ++ [parameters, body]) := by
    obtain ⟨start, optional, pure, closing, callbackStart, form, lead, callable⟩ := mapping
    cases callable <;> exact families_of_siblings? rfl
  rw [Mapping.call, families_of_siblings? rfl, families_cons, callback, families_append,
    families_cons parameters]

theorem families_loopElement {item index : String} {call child : Node}
    (outer first firstInner second secondInner third thirdInner : Nat) :
    families adapter [loopElement adapter item index call child outer first firstInner second
        secondInner third thirdInner] = families adapter [call] ++ families adapter [child] := by
  have none : siblings? adapter (loopElement adapter item index call child outer first firstInner
      second secondInner third thirdInner) = none :=
    if_pos (isLoop_loopElement outer first firstInner second secondInner third thirdInner)
  have quoted : families adapter
      [quotedAttribute second secondInner adapter.item.toList item.toList,
        quotedAttribute third thirdInner adapter.index.toList index.toList] = [] := rfl
  unfold loopElement at none ⊢
  rw [families_of_siblings? none, families_cons, families_of_siblings? rfl, families_cons,
    families_of_siblings? rfl, families_of_siblings? rfl, quoted, List.append_nil]

theorem families_plainParameters (adapter : Adapter) {parameters : Node}
    (plain : PlainParameters parameters) : families adapter [parameters] = [] := by
  obtain ⟨start, parts, rfl, plain⟩ := plain
  rw [families_of_siblings? rfl]
  induction parts with
  | nil => rfl
  | cons part parts ih =>
      obtain ⟨name, partStart, bindingStart, rfl⟩ := plain part List.mem_cons_self
      rw [families_cons, ih fun other member => plain other (List.mem_cons_of_mem _ member)]
      rfl

/-- A name, or none, has no families. -/
theorem families_lead (adapter : Adapter) {lead : List Node}
    (plain : ∀ name ∈ lead, isOptionalName name = true) : families adapter lead = [] := by
  induction lead with
  | nil => rfl
  | cons name lead ih =>
      rw [families_cons, ih fun other member => plain other (List.mem_cons_of_mem _ member)]
      have named := plain name List.mem_cons_self
      unfold isOptionalName at named
      split at named
      case h_1 => rfl
      case h_2 => rfl
      case h_3 => cases named

theorem families_handsOver (adapter : Adapter) {object : Node} {names : Names}
    (hands : HandsOver object names) : families adapter [object] = [] := by
  obtain ⟨start, properties, rfl, named⟩ := hands
  rw [families_of_siblings? rfl]
  induction properties generalizing names with
  | nil => rfl
  | cons property properties ih =>
      cases names with
      | nil => cases named
      | cons name names =>
          simp only [List.map_cons, List.cons.injEq] at named
          have own : families adapter [property] = [] := by
            obtain ⟨found, -⟩ := named
            unfold plainProperty? at found
            split at found
            case h_1 => rfl
            case h_2 => cases found
          rw [families_cons, own, ih named.2]
          rfl

end Families

/-! ## What a rewrite keeps -/

/-- The families in nodes, with each child as it is viewed. -/
def viewFamilies (view : Node → Bool × Node) (adapter : Adapter) (nodes : List Node) :
    List (List (Bool × Node)) :=
  (families adapter nodes).map (List.map view)

section View

variable {view : Node → Bool × Node} {adapter : Adapter}

theorem viewFamilies_cons (node : Node) (nodes : List Node) :
    viewFamilies view adapter (node :: nodes) =
      viewFamilies view adapter [node] ++ viewFamilies view adapter nodes := by
  simp only [viewFamilies, families_cons node nodes, List.map_append]

theorem viewFamilies_of_none {start : Nat} {form : Form} {parts : List Node}
    (none : siblings? adapter (.mk start form parts) = none) :
    viewFamilies view adapter [.mk start form parts] = viewFamilies view adapter parts := by
  simp only [viewFamilies, families_of_siblings? none]

theorem viewFamilies_of_some {start : Nat} {form : Form} {parts children : List Node}
    (own : siblings? adapter (.mk start form parts) = some children) :
    viewFamilies view adapter [.mk start form parts] =
      children.map view :: viewFamilies view adapter parts := by
  simp only [viewFamilies, families_mk, own, Option.toList_some, List.singleton_append,
    List.map_cons]

end View

/-- A rewritten list has the families of the list, if its collection and its body have theirs. -/
theorem families_rewrittenList {rules : RewriteRules} {outer : Names} {start : Nat}
    {value callee body wrapper : Node} {iteration : Iteration} {inside : List Trace} {frame : Frame}
    {list : MatchedList value iteration}
    (rewritten : RewrittenList rules outer list callee body inside frame wrapper)
    (fit : Fit rules.adapter (.place .child) [.mk start .container [value]])
    (matched : iteration? value = some iteration) (only : frame.Only IsName)
    (calleeKept : (viewFamilies (seen rules.adapter) rules.adapter [callee]).Perm
      (viewFamilies (expected .child) rules.adapter [list.callee]))
    (bodyKept : (viewFamilies (seen rules.adapter) rules.adapter [body]).Perm
      (viewFamilies (expected .child) rules.adapter [list.body])) :
    (viewFamilies (seen rules.adapter) rules.adapter [wrapper]).Perm
      (viewFamilies (expected .child) rules.adapter [.mk start .container [value]]) := by
  obtain ⟨leadPlain, rewritable, form_eq, alone⟩ := fit.callback list matched
  have leadNone := families_lead rules.adapter leadPlain
  have oldParameters := families_plainParameters rules.adapter
    (plainParameters_of_list rewritable form_eq alone)
  have newParameters := families_plainParameters rules.adapter
    (plainParameters_of_spellParameters rewritable form_eq alone (rewritten.item_eq ▸ only.item)
      (rewritten.index_eq ▸ only.index) rewritten.spelled)
  have objectNone := families_handsOver rules.adapter
    (handsOver_of_captureObject only.captures rewritten.handed)
  obtain ⟨rest, around⟩ := exists_families_fill rules.adapter rewritten.context
  obtain ⟨outer, first, firstInner, second, secondInner, third, thirdInner, wrapper_eq⟩ :=
    loopElement_of_loopWrapper only.item only.index rewritten.wrapped
  have after : (families rules.adapter [wrapper]).Perm
      (families rules.adapter [callee] ++ families rules.adapter [body]) := by
    have moved := (around rewritten.object).append_right (families rules.adapter [rewritten.result])
    rw [objectNone, List.nil_append] at moved
    have whole := around rewritten.result
    rw [← rewritten.body_eq] at whole
    rw [wrapper_eq, families_loopElement, families_call, leadNone, newParameters,
      families_withoutParentheses, List.nil_append, List.nil_append, List.append_assoc]
    exact (moved.trans (List.perm_append_comm.trans whole.symm)).append_left _
  have before : families rules.adapter [.mk start .container [value]] =
      families rules.adapter [list.callee] ++ families rules.adapter [list.body] := by
    rw [families_of_siblings? rfl, ← families_withoutParentheses, list.shape_body, families_call,
      leadNone, oldParameters, List.nil_append, List.nil_append]
  have kept := calleeKept.append bodyKept
  simp only [viewFamilies, ← List.map_append] at kept ⊢
  rw [before]
  exact (after.map _).trans kept

/-- After a rewrite the elements and fragments have their children, each in its place. -/
theorem Expanded.families_perm {rules : RewriteRules} {outer : Names} {slot : Slot}
    {nodes expanded : List Node} {traces : List Trace}
    (derived : Expanded rules outer slot nodes expanded traces)
    (fit : Fit rules.adapter slot nodes) (around : ∀ name ∈ outer, IsName name) :
    (viewFamilies (seen rules.adapter) rules.adapter expanded).Perm
      (viewFamilies (expected .child) rules.adapter nodes) := by
  induction derived with
  | nil => exact .refl _
  | cons head tail headIh tailIh =>
      obtain ⟨headFit, tailFit⟩ := fit.cons
      rw [viewFamilies_cons, viewFamilies_cons _ (_ :: _)]
      exact (headIh headFit around).append (tailIh tailFit around)
  | container unmatched inner ih =>
      rw [viewFamilies_of_none rfl, viewFamilies_of_none rfl]
      exact ih fit.parts around
  | @list outer start value callee body wrapper iteration list before inside frame matched
      collection inner rewritten collectionIh innerIh =>
      obtain ⟨calleeFit, bodyFit⟩ := fit.list list
      obtain ⟨only, bodyAround⟩ := names_of_list matched collection inner rewritten fit.names around
      exact families_rewrittenList rewritten fit matched only (collectionIh calleeFit around)
        (innerIh bodyFit bodyAround)
  | @element outer place start opening first children rest before after head tail headIh tailIh =>
      obtain ⟨openingFit, childrenFit⟩ := fit.element
      have undoable := (Node.everywhere_mk.1 fit.good).1
      have noLoop := (noLoop_of_expanded undoable head rest).1
      have seenOwn : siblings? rules.adapter (.mk start .element (first :: rest)) = some rest := by
        rw [siblings?, noLoop]
        rfl
      have expectedOwn :
          siblings? rules.adapter (.mk start .element (opening :: children)) = some children := by
        rw [siblings?, undoable.noLoop]
        rfl
      rw [viewFamilies_of_some seenOwn, viewFamilies_of_some expectedOwn,
        tail.seen_eq childrenFit around, viewFamilies_cons, viewFamilies_cons opening]
      exact ((headIh openingFit around).append (tailIh childrenFit around)).cons _
  | fragment inner ih =>
      rw [viewFamilies_of_some rfl, viewFamilies_of_some rfl, inner.seen_eq fit.fragment around]
      exact (ih fit.fragment around).cons _
  | @plain outer place start form parts expanded traces plain unbraced inner ih =>
      have notElement := fit.notElement plain
      rw [viewFamilies_of_none (siblings?_of_form notElement plain.notFragment),
        viewFamilies_of_none (siblings?_of_form notElement plain.notFragment)]
      exact ih fit.parts around
  | parenthesized inner ih =>
      rw [viewFamilies_of_none rfl, viewFamilies_of_none rfl]
      exact ih fit.parenthesized around
  | member inner ih =>
      rw [viewFamilies_of_none rfl, viewFamilies_of_none rfl]
      exact ih fit.parts around
  | @kept outer node notParenthesized notMember =>
      obtain ⟨start, name, optional, object, rfl⟩ := fit.member notParenthesized
      exact (notMember start name optional object rfl).elim

/-- A rewrite can be undone: with its loops put back, the tree is the tree before, with its mapped
lists tidied. Every element and fragment has as many children as before, each in its place, and
just the mapped lists among them became loops. -/
theorem undo_rewrite {rules : RewriteRules} {tree : Node} {rewritten : Rewritten}
    (undoable : Node.Everywhere (Undoable rules.adapter) [tree])
    (done : rewrite rules tree = .ok rewritten) :
    bare (undo rules.adapter rewritten.tree) = bare (tidy .inner tree) ∧
      (viewFamilies (seen rules.adapter) rules.adapter [rewritten.tree]).Perm
        (viewFamilies (expected .child) rules.adapter [tree]) := by
  have derived := (expanded_of_expansion rules).1 [] .inner tree rewritten.tree
    (tracesOf rules tree) (expand_of_rewrite done).1
  have fit : Fit rules.adapter (.place .inner) [tree] := .inner undoable
  have whole : seen rules.adapter rewritten.tree = expected .inner tree := by
    simpa using derived.seen_eq fit nofun
  exact ⟨congrArg Prod.snd whole, derived.families_perm fit nofun⟩

/-- The list in a list can be put back. -/
theorem undo_rewrite_rowsOfCells :
    Node.Everywhere (Undoable .wechat) [rowsOfCells] ∧
      ∃ rewritten, rewrite ⟨.wechat, .flatten⟩ rowsOfCells = .ok rewritten ∧
        bare (undo .wechat rewritten.tree) = bare (tidy .inner rowsOfCells) ∧
        (viewFamilies (seen .wechat) .wechat [rewritten.tree]).Perm
          (viewFamilies (expected .child) .wechat [rowsOfCells]) := by
  have undoable : Node.Everywhere (Undoable .wechat) [rowsOfCells] := by
    unfold Node.Everywhere
    decide +kernel
  obtain ⟨rewritten, _, _, _, _, done, -⟩ := rewrite_rowsOfCells
  exact ⟨undoable, rewritten, done, undo_rewrite undoable done⟩

end LoopTemplate.Loop
