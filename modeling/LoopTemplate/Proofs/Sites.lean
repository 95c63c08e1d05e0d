import LoopTemplate.Proofs.TemplateLoop
import Mathlib.Data.List.Forall2

/-!
# Where mapped lists stand

`sites` lists the mapped lists of a tree in the order in which they are rewritten: what is in the
collection of a list and in the body of its callback comes before the list. `forall₂_sites` says
that a rewrite replaces just these, one after the other, and that the loop at a site depends only
on what stands there and on the names that are bound around it.
-/

namespace LoopTemplate.Loop

open LoopTemplate.Grammar (IsName)
open LoopTemplate.Tree (Form Node)

/-! ## Sites -/

/-- A mapped list in braces between tags. -/
structure Site where
  /-- The offset of the braces. -/
  start : Nat
  value : Node
  iteration : Iteration
  /-- The parameters of the callback. -/
  parameters : Node
  /-- The body of the callback. -/
  body : Node
  /-- The names that the mapped lists bind in whose bodies it stands, the nearest first. -/
  scopes : List (List String)

namespace Site

/-- The names that the list binds. -/
def bindings (site : Site) : List String := (loopOf site.iteration site.body).bindings

end Site

mutual

/-- The mapped lists in a node, in the order in which they are rewritten. -/
def sites (scopes : List (List String)) (place : Place) : Node → List Site
  | .mk start .container [value] =>
      match place, iteration? value with
      | .child, some iteration => listSites scopes (Site.mk start value iteration) value
      | _, _ => sites scopes .inner value
  | .mk _ .element (opening :: children) =>
      sites scopes .inner opening ++ allSites scopes .child children
  | .mk _ .fragment children => allSites scopes .child children
  | .mk _ _ parts => allSites scopes .inner parts

/-- The mapped lists in nodes one after the other. -/
def allSites (scopes : List (List String)) (place : Place) : List Node → List Site
  | [] => []
  | node :: nodes => sites scopes place node ++ allSites scopes place nodes

/-- The mapped lists in a mapped list, and the list. -/
def listSites (scopes : List (List String)) (site : Node → Node → List (List String) → Site) :
    Node → List Site
  | .mk _ .parenthesized [inner] => listSites scopes site inner
  | .mk _ (.call _ _ _) [callee, argument] =>
      calleeSites scopes callee ++ callbackSites scopes site argument
  | _ => []

/-- The mapped lists in the collection of a mapped list. -/
def calleeSites (scopes : List (List String)) : Node → List Site
  | .mk _ .parenthesized [inner] => calleeSites scopes inner
  | .mk _ (.member _ _) [object] => sites scopes .inner object
  | _ => []

/-- The mapped lists in the callback of a mapped list, and the list. -/
def callbackSites (scopes : List (List String)) (site : Node → Node → List (List String) → Site) :
    Node → List Site
  | .mk _ (.arrow _) [parameters, body] =>
      sites ((site parameters body scopes).bindings :: scopes) .inner body ++
        [site parameters body scopes]
  | .mk _ (.function _) [_, parameters, body] =>
      sites ((site parameters body scopes).bindings :: scopes) .inner body ++
        [site parameters body scopes]
  | _ => []

end

/-- The mapped lists in a mapped list, from its pieces. -/
theorem listSites_of_shape (scopes : List (List String))
    (site : Node → Node → List (List String) → Site) {value callee parameters body : Node}
    {mapping : Mapping} (shape : value.withoutParentheses = mapping.call callee parameters body) :
    listSites scopes site value =
      calleeSites scopes callee ++
        (sites ((site parameters body scopes).bindings :: scopes) .inner body ++
          [site parameters body scopes]) := by
  fun_induction Node.withoutParentheses value with
  | case1 start inner ih => rw [listSites, ih shape]
  | case2 node other =>
      subst shape
      obtain ⟨start, optional, pure, closing, callbackStart, form, lead, callable⟩ := mapping
      cases callable <;> simp [Mapping.call, Mapping.callback, listSites, callbackSites]

theorem sites_plain (scopes : List (List String)) {place : Place} {start : Nat} {form : Form}
    {parts : List Node} (plain : Plain form parts)
    (unbraced : place = .child → ∀ value, form = .container → parts = [value] → False) :
    sites scopes place (.mk start form parts) = allSites scopes .inner parts := by
  by_cases braced : form = .container ∧ ∃ value, parts = [value]
  · obtain ⟨rfl, value, rfl⟩ := braced
    cases place with
    | child => exact absurd rfl (unbraced rfl value rfl)
    | inner => simp [sites, allSites]
  · rw [sites]
    · rintro value rfl rfl
      exact braced ⟨rfl, value, rfl⟩
    · exact plain.notElement
    · exact plain.notFragment

theorem allSites_append (scopes : List (List String)) (place : Place) (before after : List Node) :
    allSites scopes place (before ++ after) =
      allSites scopes place before ++ allSites scopes place after := by
  induction before with
  | nil => rfl
  | cons node before ih => rw [List.cons_append, allSites, ih, allSites, List.append_assoc]

/-- The lists in a sequence of nodes are the lists in its nodes. -/
theorem mem_allSites {scopes : List (List String)} {place : Place} {nodes : List Node}
    {site : Site} :
    site ∈ allSites scopes place nodes ↔ ∃ node ∈ nodes, site ∈ sites scopes place node := by
  induction nodes with
  | nil => simp [allSites]
  | cons node nodes ih => simp [allSites, ih]

/-- The bodies of the mapped lists in a node are inside it, wherever the node stands. -/
structure HoldsBodies (node : Node) : Prop where
  anywhere : ∀ scopes place, ∀ site ∈ sites scopes place node, site.body ∈ node.nodes
  callee : ∀ scopes, ∀ site ∈ calleeSites scopes node, site.body ∈ node.nodes
  callback : ∀ scopes (make : Node → Node → List (List String) → Site),
    (∀ parameters body scopes, (make parameters body scopes).body = body) →
      ∀ site ∈ callbackSites scopes make node, site.body ∈ node.nodes
  list : ∀ scopes (make : Node → Node → List (List String) → Site),
    (∀ parameters body scopes, (make parameters body scopes).body = body) →
      ∀ site ∈ listSites scopes make node, site.body ∈ node.nodes

/-- Every node holds the bodies of its lists, by induction on the node with its four places at
once. -/
theorem holdsBodies (node : Node) : HoldsBodies node := by
  induction node using Node.induction_on_parts with
  | step start form parts ih =>
      have inPart : ∀ {start form parts} {part body : Node}, part ∈ parts → body ∈ part.nodes →
          body ∈ (Node.mk start form parts).nodes :=
        fun member inside => Node.mem_nodes_of_part member inside
      have inParts : ∀ {scopes place others} {site : Site}, others ⊆ parts →
          site ∈ allSites scopes place others → site.body ∈ (Node.mk start form parts).nodes := by
        intro scopes place others site among member
        obtain ⟨part, inside, member⟩ := mem_allSites.1 member
        exact inPart (among inside) ((ih part (among inside)).anywhere _ _ _ member)
      constructor
      case anywhere =>
        intro scopes place site member
        unfold sites at member
        split at member
        case h_1 value same =>
          cases same
          split at member
          · exact inPart (by simp) ((ih value (by simp)).list _ _ (fun _ _ _ => rfl) _ member)
          · exact inPart (by simp) ((ih value (by simp)).anywhere _ _ _ member)
        case h_2 opening children same =>
          cases same
          rcases List.mem_append.1 member with inOpening | inChildren
          · exact inPart (by simp) ((ih opening (by simp)).anywhere _ _ _ inOpening)
          · exact inParts (List.subset_cons_self _ _) inChildren
        case h_3 same | h_4 same =>
          cases same
          exact inParts (List.Subset.refl _) member
      case callee =>
        intro scopes site member
        unfold calleeSites at member
        split at member
        case h_1 inner same =>
          cases same
          exact inPart (by simp) ((ih inner (by simp)).callee _ _ member)
        case h_2 object same =>
          cases same
          exact inPart (by simp) ((ih object (by simp)).anywhere _ _ _ member)
        case h_3 => cases member
      case callback =>
        intro scopes make made site member
        unfold callbackSites at member
        split at member
        case h_1 parameters body same | h_2 parameters body same =>
          cases same
          rcases List.mem_append.1 member with inBody | own
          · exact inPart (by simp) ((ih body (by simp)).anywhere _ _ _ inBody)
          · rw [List.mem_singleton.1 own, made]
            exact inPart (by simp) (Node.mem_nodes_self body)
        case h_3 => cases member
      case list =>
        intro scopes make made site member
        unfold listSites at member
        split at member
        case h_1 inner same =>
          cases same
          exact inPart (by simp) ((ih inner (by simp)).list _ _ made _ member)
        case h_2 callee argument same =>
          cases same
          rcases List.mem_append.1 member with inCallee | inArgument
          · exact inPart (by simp) ((ih callee (by simp)).callee _ _ inCallee)
          · exact inPart (by simp) ((ih argument (by simp)).callback _ _ made _ inArgument)
        case h_3 => cases member

/-! ## Loops -/

namespace Trace

mutual

/-- The lists that were rewritten, in order, each with the loop that replaced it. -/
def loops : Trace → List (Frame × Node)
  | skipped _ => []
  | list frame wrapper inside => allLoops inside ++ [(frame, wrapper)]

/-- The lists that were rewritten in traces one after the other. -/
def allLoops : List Trace → List (Frame × Node)
  | [] => []
  | trace :: traces => loops trace ++ allLoops traces

end

theorem allLoops_append (before after : List Trace) :
    allLoops (before ++ after) = allLoops before ++ allLoops after := by
  induction before with
  | nil => rfl
  | cons trace before ih => rw [List.cons_append, allLoops, ih, allLoops, List.append_assoc]

theorem mem_allLoops {traces : List Trace} {loop : Frame × Node} :
    loop ∈ allLoops traces ↔ ∃ trace ∈ traces, loop ∈ trace.loops := by
  induction traces with
  | nil => simp [allLoops]
  | cons trace traces ih => simp [allLoops, ih]

end Trace

/-- What is reported of a rewritten list: its item, its index and the captured names. -/
def Event.loop? : Event → Option (String × String × Names)
  | .rewrote item index captures _ => some (item, index, captures)
  | _ => none

/-- The lists are reported in the order in which they are rewritten. -/
theorem Trace.filterMap_events :
    (∀ (trace : Trace) (depth : Nat), (trace.events depth).filterMap Event.loop? =
        trace.loops.map fun loop => (loop.1.item, loop.1.index, loop.1.captures)) ∧
      (∀ (traces : List Trace) (depth : Nat), (allEvents depth traces).filterMap Event.loop? =
        (allLoops traces).map fun loop => (loop.1.item, loop.1.index, loop.1.captures)) := by
  apply Trace.loops.mutual_induct
  case case1 =>
    intro offset depth
    rfl
  case case2 =>
    intro frame wrapper inside insideReported depth
    rw [events, loops, List.filterMap_append, insideReported, List.map_append]
    rfl
  case case3 =>
    intro depth
    rfl
  case case4 =>
    intro trace traces traceReported tracesReported depth
    rw [allEvents, allLoops, List.filterMap_append, traceReported, tracesReported, List.map_append]

/-- What a rewrite of a tree reports of the lists, if it succeeds. -/
def reportedLoops? (rules : RewriteRules) (tree : Node) : Option (List (String × String × Names)) :=
  (rewrite rules tree).toOption.map fun rewritten => rewritten.events.filterMap Event.loop?

theorem rewrite_of_reportedLoops? {rules : RewriteRules} {tree : Node}
    {loops : List (String × String × Names)} (reported : reportedLoops? rules tree = some loops) :
    ∃ rewritten, rewrite rules tree = .ok rewritten ∧
      rewritten.events.filterMap Event.loop? = loops := by
  unfold reportedLoops? at reported
  cases done : rewrite rules tree with
  | error error =>
      rw [done] at reported
      cases reported
  | ok rewritten =>
      rw [done] at reported
      cases reported
      exact ⟨rewritten, rfl, rfl⟩

/-! ## Where loops stand -/

section Placed

variable {rules : RewriteRules} {outer : Names} {value callee body wrapper : Node}
  {iteration : Iteration} {list : MatchedList value iteration} {inside : List Trace} {frame : Frame}

theorem RewrittenList.object_mem_wrapper
    (rewritten : RewrittenList rules outer list callee body inside frame wrapper) :
    rewritten.context.fill rewritten.object ∈ wrapper.nodes := by
  have inCallback : rewritten.context.fill rewritten.object ∈ (list.mapping.callback
      rewritten.parameters (rewritten.context.fill rewritten.object)).nodes :=
    Node.mem_nodes_of_part (by simp [Mapping.callback]) (Node.mem_nodes_self _)
  have inCall : rewritten.context.fill rewritten.object ∈ (list.mapping.call callee
      rewritten.parameters (rewritten.context.fill rewritten.object)).nodes :=
    Node.mem_nodes_of_part (List.mem_cons_of_mem _ List.mem_cons_self) inCallback
  exact Node.mem_nodes_trans inCall (parts_of_loopWrapper rewritten.wrapped).2.1

/-- The elements in the body of a rewritten list are in its loop. -/
theorem RewrittenList.mem_wrapper
    (rewritten : RewrittenList rules outer list callee body inside frame wrapper) {inner : Node}
    (among : inner ∈ body.nodes) (element : inner.form = .element) : inner ∈ wrapper.nodes := by
  rw [rewritten.body_eq] at among
  rcases mem_nodes_fill _ among element with inResult | inBody
  · exact Node.mem_nodes_trans (mem_nodes_withoutParentheses inResult element)
      (parts_of_loopWrapper rewritten.wrapped).2.2
  · exact Node.mem_nodes_trans (inBody _) rewritten.object_mem_wrapper

variable {slot : Slot} {nodes expanded : List Node} {traces : List Trace}

theorem Expanded.placed_of_mem (derived : Expanded rules outer slot nodes expanded traces)
    (member : .list frame wrapper inside ∈ traces) {loop : Frame × Node}
    (among : loop ∈ (Trace.list frame wrapper inside).loops) :
    loop.2.form = .element ∧ loop.2 ∈ Node.allNodes expanded := by
  induction frame, wrapper, inside using Trace.list_induction
    generalizing outer slot nodes expanded traces with
  | step frame wrapper inside ih =>
      obtain ⟨rewrote⟩ := derived.rewrote member
      rw [Trace.loops, List.mem_append, List.mem_singleton, Trace.mem_allLoops] at among
      rcases among with ⟨trace, nestedMember, nestedAmong⟩ | rfl
      · cases trace with
        | skipped offset => cases nestedAmong
        | list nested element inner =>
            obtain ⟨isElement, inBody⟩ :=
              ih nested element inner nestedMember rewrote.inner nestedMember nestedAmong
            have inWrapper := rewrote.rewritten.mem_wrapper (by simpa using inBody) isElement
            obtain ⟨node, nodeMember, inNode⟩ := Node.mem_allNodes.1 rewrote.placed
            exact ⟨isElement, Node.mem_allNodes.2
              ⟨node, nodeMember, Node.mem_nodes_trans inWrapper inNode⟩⟩
      · exact ⟨(parts_of_loopWrapper rewrote.rewritten.wrapped).1, rewrote.placed⟩

/-- The loops that replaced lists are among the expanded nodes. -/
theorem Expanded.placed (derived : Expanded rules outer slot nodes expanded traces)
    {loop : Frame × Node} (among : loop ∈ Trace.allLoops traces) :
    loop.2 ∈ Node.allNodes expanded := by
  obtain ⟨trace, member, among⟩ := Trace.mem_allLoops.1 among
  cases trace with
  | skipped offset => cases among
  | list frame wrapper inside => exact (derived.placed_of_mem member among).2

end Placed

/-! ## The loop of a site -/

/-- The names that are bound at the given scopes, the outermost first. -/
def boundBy : List (List String) → Names
  | [] => []
  | scope :: scopes => insertNames (boundBy scopes) scope

theorem mem_boundBy {scopes : List (List String)} {name : String} :
    name ∈ boundBy scopes ↔ ∃ scope ∈ scopes, name ∈ scope := by
  induction scopes with
  | nil => simp [boundBy]
  | cons scope scopes ih => simp [boundBy, ih, or_comm]

/-- How the mapped list at a site was replaced by a loop, given the names that are bound around
it. -/
structure ReplacedBy (rules : RewriteRules) (site : Site) (loop : Frame × Node) where
  list : MatchedList site.value site.iteration
  parameters_eq : list.parameters = site.parameters
  body_eq : list.body = site.body
  callee : Node
  body : Node
  inside : List Trace
  inner : Expanded rules (insertNames (boundBy site.scopes) loop.1.bindings) (.place .inner)
    [list.body] [body] inside
  rewritten : RewrittenList rules (boundBy site.scopes) list callee body inside loop.1 loop.2
  declared : Node.Everywhere (DeclaresOnly IsName) [list.body]
  only : loop.1.Only IsName
  around : ∀ name ∈ insertNames (boundBy site.scopes) loop.1.bindings, IsName name

/-- The mapped lists in nodes one after the other, at places or in the callee of a list. -/
def slotSites (scopes : List (List String)) : Slot → List Node → List Site
  | .place place, nodes => allSites scopes place nodes
  | .callee, nodes => nodes.flatMap (calleeSites scopes)

theorem slotSites_cons (scopes : List (List String)) (slot : Slot) (node : Node)
    (nodes : List Node) :
    slotSites scopes slot (node :: nodes) =
      slotSites scopes slot [node] ++ slotSites scopes slot nodes := by
  cases slot <;> simp [slotSites, allSites]

@[simp] theorem slotSites_place (scopes : List (List String)) (place : Place) (node : Node) :
    slotSites scopes (.place place) [node] = sites scopes place node := by
  simp [slotSites, allSites]

@[simp] theorem slotSites_callee (scopes : List (List String)) (node : Node) :
    slotSites scopes .callee [node] = calleeSites scopes node := by
  simp [slotSites]

/-- The lists in a mapped list are those in its collection, then those in its body, then itself. -/
theorem MatchedList.slotSites_container {value : Node} {iteration : Iteration}
    (list : MatchedList value iteration) (matched : iteration? value = some iteration)
    (scopes : List (List String)) (start : Nat) :
    slotSites scopes (.place .child) [.mk start .container [value]] =
      slotSites scopes .callee [list.callee] ++
        (slotSites ((loopOf iteration list.body).bindings :: scopes) (.place .inner) [list.body] ++
          [⟨start, value, iteration, list.parameters, list.body, scopes⟩]) := by
  simp only [slotSites_place, slotSites_callee, sites, matched,
    listSites_of_shape _ _ list.shape_body]
  rfl

/-- What is known of a mapped list that was expanded where the given names are bound. -/
structure ExpandedList (rules : RewriteRules) (scopes : List (List String)) {value : Node}
    {iteration : Iteration} (list : MatchedList value iteration) (callee body wrapper : Node)
    (before inside : List Trace) (frame : Frame) where
  matched : iteration? value = some iteration
  collection : Expanded rules (boundBy scopes) .callee [list.callee] [callee] before
  inner : Expanded rules (insertNames (boundBy scopes) (loopOf iteration list.body).bindings)
    (.place .inner) [list.body] [body] inside
  rewritten : RewrittenList rules (boundBy scopes) list callee body inside frame wrapper
  declared : Node.Everywhere (DeclaresOnly IsName) [value]
  around : ∀ name ∈ boundBy scopes, IsName name
  only : frame.Only IsName
  bodyAround : ∀ name ∈ insertNames (boundBy scopes) (loopOf iteration list.body).bindings,
    IsName name

/-- What holds of each mapped list that is expanded holds of the sites and the loops one after the
other. -/
theorem Expanded.forall₂_slotSites {rules : RewriteRules} {Holds : Site → Frame × Node → Prop}
    (each : ∀ {scopes : List (List String)} {value callee body wrapper : Node}
      {iteration : Iteration} {list : MatchedList value iteration} {before inside : List Trace}
      {frame : Frame} (start : Nat),
      ExpandedList rules scopes list callee body wrapper before inside frame →
        Holds ⟨start, value, iteration, list.parameters, list.body, scopes⟩ (frame, wrapper))
    {outer : Names} {slot : Slot} {nodes expanded : List Node} {traces : List Trace}
    {scopes : List (List String)} (derived : Expanded rules outer slot nodes expanded traces)
    (outer_eq : outer = boundBy scopes) (around : ∀ name ∈ outer, IsName name)
    (declared : Node.Everywhere (DeclaresOnly IsName) nodes) :
    List.Forall₂ Holds (slotSites scopes slot nodes) (Trace.allLoops traces) := by
  induction derived generalizing scopes with
  | @nil outer slot => cases slot <;> exact .nil
  | cons head tail headIh tailIh =>
      obtain ⟨headDeclared, tailDeclared⟩ := Node.everywhere_cons.1 declared
      rw [slotSites_cons, Trace.allLoops_append]
      exact List.rel_append (headIh outer_eq around headDeclared)
        (tailIh outer_eq around tailDeclared)
  | @container outer start value expanded traces unmatched inner ih =>
      have skipped : Trace.allLoops (if isMapCall value then [.skipped start] else []) = [] := by
        split <;> rfl
      have replaced := ih outer_eq around (Node.everywhere_mk.1 declared).2
      rw [Trace.allLoops_append, skipped]
      simpa [sites, unmatched] using replaced
  | @list outer start value callee body wrapper iteration list before inside frame matched
      collection inner rewritten collectionIh innerIh =>
      have valueDeclared := (Node.everywhere_mk.1 declared).2
      obtain ⟨only, bodyAround⟩ :=
        names_of_list matched collection inner rewritten declared around
      obtain ⟨calleeDeclared, -, bodyDeclared⟩ := list.everywhere valueDeclared
      subst outer_eq
      have calleeReplaced := collectionIh rfl around calleeDeclared
      have bodyReplaced :=
        @innerIh ((loopOf iteration list.body).bindings :: scopes) rfl bodyAround bodyDeclared
      have self := each start
        ⟨matched, collection, inner, rewritten, valueDeclared, around, only, bodyAround⟩
      rw [list.slotSites_container matched, Trace.allLoops_append]
      simp only [Trace.allLoops, Trace.loops, List.append_nil]
      exact List.rel_append calleeReplaced (List.rel_append bodyReplaced (.cons self .nil))
  | element head tail headIh tailIh =>
      obtain ⟨headDeclared, tailDeclared⟩ :=
        Node.everywhere_cons.1 (Node.everywhere_mk.1 declared).2
      have headReplaced := headIh outer_eq around headDeclared
      rw [slotSites_place] at headReplaced ⊢
      rw [sites, Trace.allLoops_append]
      exact List.rel_append headReplaced (tailIh outer_eq around tailDeclared)
  | fragment inner ih =>
      rw [slotSites_place, sites]
      exact ih outer_eq around (Node.everywhere_mk.1 declared).2
  | plain plain unbraced inner ih =>
      rw [slotSites_place, sites_plain scopes plain unbraced]
      exact ih outer_eq around (Node.everywhere_mk.1 declared).2
  | parenthesized inner ih | member inner ih =>
      have replaced := ih outer_eq around (Node.everywhere_mk.1 declared).2
      simpa [calleeSites] using replaced
  | kept notParenthesized notMember =>
      rw [slotSites_callee, calleeSites]
      · exact .nil
      · exact notParenthesized
      · exact notMember

/-- A rewrite replaces the mapped lists one after the other. -/
theorem Expanded.forall₂_sites {rules : RewriteRules} {outer : Names} {slot : Slot}
    {nodes expanded : List Node} {traces : List Trace} {scopes : List (List String)}
    (derived : Expanded rules outer slot nodes expanded traces) (outer_eq : outer = boundBy scopes)
    (around : ∀ name ∈ outer, IsName name)
    (declared : Node.Everywhere (DeclaresOnly IsName) nodes) :
    List.Forall₂ (fun site loop => Nonempty (ReplacedBy rules site loop))
      (slotSites scopes slot nodes) (Trace.allLoops traces) := by
  refine derived.forall₂_slotSites ?_ outer_eq around declared
  intro scopes value callee body wrapper iteration list before inside frame start found
  exact ⟨{
    list, callee, body, inside
    rewritten := found.rewritten
    only := found.only
    parameters_eq := rfl
    body_eq := rfl
    declared := (list.everywhere found.declared).2.2
    inner := found.rewritten.bindings_eq ▸ found.inner
    around := found.rewritten.bindings_eq ▸ found.bodyAround }⟩

/-- A rewrite replaces each mapped list by a loop in its result, and reports the loops in order. -/
theorem replaced_of_rewrite {rules : RewriteRules} {tree : Node} {rewritten : Rewritten}
    (declared : Node.Everywhere (DeclaresOnly IsName) [tree])
    (done : rewrite rules tree = .ok rewritten) :
    ∃ loops : List (Frame × Node),
      rewritten.events.filterMap Event.loop? =
        loops.map (fun loop => (loop.1.item, loop.1.index, loop.1.captures)) ∧
      (∀ loop ∈ loops, loop.2 ∈ rewritten.tree.nodes) ∧
      List.Forall₂ (fun site loop => Nonempty (ReplacedBy rules site loop))
        (sites [] .inner tree) loops := by
  obtain ⟨expansion, events_eq⟩ := expand_of_rewrite done
  have derived := (expanded_of_expansion _).1 [] .inner tree rewritten.tree _ expansion
  have replaced := derived.forall₂_sites (show [] = boundBy [] from rfl) nofun declared
  rw [slotSites_place] at replaced
  refine ⟨_, ?_, fun loop among => by simpa using derived.placed among, replaced⟩
  rw [events_eq, List.filterMap_append, Trace.filterMap_events.2]
  exact List.append_nil _

end LoopTemplate.Loop
