import LoopTemplate.Proofs.FreeNames
import LoopTemplate.Proofs.Parsing.Regular
import LoopTemplate.Proofs.Scoping
import LoopTemplate.Proofs.Sight

/-!
# Rewriting inner lists first

A list hands over what its markup reads after the lists in the markup were rewritten. Rewriting
moves the markup of an inner list out of its callback, into a loop that binds the item and index
of the list, and reports to the lists around it what the inner list hands over. So under `scoped`
the outer list hands over every name that is found in its markup as written. It hands over more
only where the markup declares a name around an inner list and not as its item or index
(`strays`): in the callback of the inner list the name was hidden from the outer list, and in the
loop it is not.
-/

namespace LoopTemplate.Loop

open LoopTemplate.Grammar (Admits AllRegular IsName Regular plainParameter)
open LoopTemplate.Tree (Form Node)

/-! ## Stray names -/

/-- Names that are hidden ahead of some mapped lists, if there are any. -/
def ahead (later : List Site) (names : List String) : List String :=
  if later.isEmpty then [] else names

mutual

/-- The names that a node declares around mapped lists in it, other than as the items and indices
of the lists. -/
def strays (adapter : Adapter) (place : Place) : Node → List String
  | .mk _ .container [value] =>
      match place, iteration? value with
      | .child, some iteration => listStrays adapter iteration value
      | _, _ => strays adapter .inner value
  | .mk _ .element (opening :: children) =>
      strays adapter .inner opening ++
        ahead (allSites [] .child children)
          (lasting opening ++ templateScope (captureRules adapter [] .scoped) opening) ++
        allStrays adapter .child children
  | .mk _ .fragment children => allStrays adapter .child children
  | .mk _ .declarator [pattern, value] =>
      strays adapter .inner value ++ ahead (sites [] .inner pattern) (lasting value) ++
        strays adapter .inner pattern
  | .mk _ _ parts => allStrays adapter .inner parts

/-- The names that nodes declare around mapped lists in them. -/
def allStrays (adapter : Adapter) (place : Place) : List Node → List String
  | [] => []
  | node :: nodes =>
      strays adapter place node ++ ahead (allSites [] place nodes) (lasting node) ++
        allStrays adapter place nodes

/-- The names that a mapped list declares, its item and index apart. -/
def listStrays (adapter : Adapter) (iteration : Iteration) : Node → List String
  | .mk _ .parenthesized [inner] => listStrays adapter iteration inner
  | .mk _ (.call _ _ _) [callee, argument] =>
      calleeStrays adapter callee ++ lasting callee ++
        outside [iteration.itemName, iteration.indexName] (callbackStrays adapter argument)
  | _ => []

/-- The names that the collection of a mapped list declares around mapped lists in it. -/
def calleeStrays (adapter : Adapter) : Node → List String
  | .mk _ .parenthesized [inner] => calleeStrays adapter inner
  | .mk _ (.member _ _) [object] => strays adapter .inner object
  | _ => []

/-- The names that a callback declares around its result. -/
def callbackStrays (adapter : Adapter) : Node → List String
  | .mk _ (.arrow _) [parameters, body] =>
      lasting parameters ++ lasting body ++ strays adapter .inner body
  | .mk _ (.function _) [own, parameters, body] =>
      lasting own ++ lasting parameters ++ lasting body ++ strays adapter .inner body
  | _ => []

end

/-- The names that a node at a place or in the callee of a list declares around mapped lists in
it. -/
def slotStrays (adapter : Adapter) : Slot → Node → List String
  | .place place => strays adapter place
  | .callee => calleeStrays adapter

/-- The names that a mapped list declares, from its pieces. -/
theorem listStrays_of_shape (adapter : Adapter) (iteration : Iteration)
    {value callee parameters body : Node} {mapping : Mapping}
    (shape : value.withoutParentheses = mapping.call callee parameters body) :
    listStrays adapter iteration value =
      calleeStrays adapter callee ++ lasting callee ++
        outside [iteration.itemName, iteration.indexName]
          (allLasting mapping.lead ++ lasting parameters ++ lasting body ++
            strays adapter .inner body) := by
  fun_induction Node.withoutParentheses value with
  | case1 start inner ih => rw [listStrays, ih shape]
  | case2 node other =>
      subst shape
      obtain ⟨start, optional, pure, closing, callbackStart, form, lead, callable⟩ := mapping
      cases callable <;>
        simp [Mapping.call, Mapping.callback, listStrays, callbackStrays, allLasting]

/-! ## One name through a rewrite -/

section Tracked

variable {adapter : Adapter} {name : String} {slot : Slot} {place : Place}

/-- What a rewrite of a node does to one name. -/
structure Tracked (adapter : Adapter) (name : String) (slot : Slot) (node expanded : Node)
    (traces : List Trace) : Prop where
  /-- Only mapped lists hand over names. -/
  sited : name ∈ traces.flatMap Trace.handed → slotSites [] slot [node] ≠ []
  lasting_eq : lasting expanded = lasting node
  keeps : sees adapter name node = true → sees adapter name expanded = true
  adds : name ∉ slotStrays adapter slot node → sees adapter name expanded = true →
    sees adapter name node = true
  /-- What the lists hand over and do not bind is seen from outside. -/
  shows : name ∉ slotStrays adapter slot node → name ∈ traces.flatMap Trace.handed →
    sees adapter name expanded = true

/-- What a rewrite of nodes one after the other does to one name. -/
inductive AllTracked (adapter : Adapter) (name : String) (slot : Slot) :
    List Node → List Node → List Trace → Prop where
  | nil : AllTracked adapter name slot [] [] []
  | cons {node first : Node} {nodes rest : List Node} {before after : List Trace}
      (head : Tracked adapter name slot node first before)
      (tail : AllTracked adapter name slot nodes rest after) :
      AllTracked adapter name slot (node :: nodes) (first :: rest) (before ++ after)

theorem Tracked.single {node expanded : Node} {traces : List Trace}
    (tracked : Tracked adapter name slot node expanded traces) :
    AllTracked adapter name slot [node] [expanded] traces := by
  simpa using AllTracked.cons tracked .nil

theorem AllTracked.single {node expanded : Node} {traces : List Trace}
    (tracked : AllTracked adapter name slot [node] [expanded] traces) :
    Tracked adapter name slot node expanded traces := by
  cases tracked with
  | cons head tail =>
      cases tail
      simpa using head

theorem mem_ahead {later : List Site} {names : List String} :
    name ∈ ahead later names ↔ later ≠ [] ∧ name ∈ names := by
  unfold ahead
  cases later <;> simp

namespace AllTracked

variable {nodes expanded : List Node} {traces : List Trace}

theorem sited (tracked : AllTracked adapter name slot nodes expanded traces)
    (handed : name ∈ traces.flatMap Trace.handed) : slotSites [] slot nodes ≠ [] := by
  induction tracked with
  | nil => cases handed
  | cons head tail ih =>
      rw [slotSites_cons]
      intro none
      obtain ⟨noneFirst, noneLater⟩ := List.append_eq_nil_iff.1 none
      rw [List.flatMap_append, List.mem_append] at handed
      rcases handed with first | later
      · exact head.sited first noneFirst
      · exact ih later noneLater

theorem lasting_eq (tracked : AllTracked adapter name slot nodes expanded traces) :
    allLasting expanded = allLasting nodes := by
  induction tracked with
  | nil => rfl
  | cons head tail ih => rw [allLasting, allLasting, head.lasting_eq, ih]

theorem keeps (tracked : AllTracked adapter name slot nodes expanded traces)
    (seen : anySees adapter name nodes = true) : anySees adapter name expanded = true := by
  induction tracked with
  | nil => exact seen
  | cons head tail ih =>
      simp only [anySees, Bool.or_eq_true, Bool.and_eq_true, head.lasting_eq] at seen ⊢
      exact seen.imp head.keeps (And.imp_right ih)

theorem adds (tracked : AllTracked adapter name (.place place) nodes expanded traces)
    (free : name ∉ allStrays adapter place nodes) (seen : anySees adapter name expanded = true) :
    anySees adapter name nodes = true := by
  induction tracked with
  | nil => exact seen
  | cons head tail ih =>
      simp only [allStrays, List.mem_append, not_or] at free
      simp only [anySees, Bool.or_eq_true, Bool.and_eq_true, head.lasting_eq] at seen ⊢
      exact seen.imp (head.adds free.1.1) (And.imp_right (ih free.2))

theorem shows (tracked : AllTracked adapter name (.place place) nodes expanded traces)
    (free : name ∉ allStrays adapter place nodes) (handed : name ∈ traces.flatMap Trace.handed) :
    anySees adapter name expanded = true := by
  induction tracked with
  | nil => cases handed
  | cons head tail ih =>
      simp only [allStrays, List.mem_append, not_or, mem_ahead, not_and] at free
      rw [anySees, head.lasting_eq]
      rw [List.flatMap_append, List.mem_append] at handed
      rcases handed with first | later
      · simp [head.shows free.1.1 first]
      · simp [free.1.2 (tail.sited later), ih free.2 later]

end AllTracked

/-! ## One node -/

section Nodes

variable {start : Nat} {form : Form} {parts expanded : List Node} {traces : List Trace}

theorem strays_plain (adapter : Adapter) (plain : Plain form parts)
    (unbraced : place = .child → ∀ value, form = .container → parts = [value] → False)
    (notInitialized : ∀ pattern value, form = .declarator → parts = [pattern, value] → False) :
    strays adapter place (.mk start form parts) = allStrays adapter .inner parts := by
  by_cases braced : form = .container ∧ ∃ value, parts = [value]
  · obtain ⟨rfl, value, rfl⟩ := braced
    cases place with
    | child => exact absurd rfl (unbraced rfl value rfl)
    | inner => simp [strays, allStrays, allSites, ahead]
  · rw [strays]
    · rintro value rfl rfl
      exact braced ⟨rfl, value, rfl⟩
    · exact plain.notElement
    · exact plain.notFragment
    · exact notInitialized

theorem lasting_congr {others : List Node} (plain : Plain form parts)
    (length_eq : others.length = parts.length) (same : allLasting others = allLasting parts) :
    lasting (.mk start form others) = lasting (.mk start form parts) := by
  by_cases element : form = .element
  · subst element
    cases parts with
    | nil =>
        obtain rfl := List.length_eq_zero_iff.1 length_eq
        rfl
    | cons opening children => exact (plain.notElement opening children rfl rfl).elim
  · cases form <;> simp_all [lasting]

/-- Where a node sees what its parts see, and is rewritten where they are, it is as they are. -/
theorem Tracked.of_parts {node other : Node}
    (tracked : AllTracked adapter name (.place place) parts expanded traces)
    (sites_eq : slotSites [] slot [node] = allSites [] place parts)
    (strays_eq : slotStrays adapter slot node = allStrays adapter place parts)
    (lasting_eq : lasting other = lasting node)
    (before : sees adapter name node = anySees adapter name parts)
    (after : sees adapter name other = anySees adapter name expanded) :
    Tracked adapter name slot node other traces := by
  constructor
  case sited =>
    rw [sites_eq]
    exact tracked.sited
  case lasting_eq => exact lasting_eq
  case keeps =>
    rw [before, after]
    exact tracked.keeps
  case adds =>
    rw [before, after, strays_eq]
    exact tracked.adds
  case shows =>
    rw [after, strays_eq]
    exact tracked.shows

theorem sees_plain (plain : Plain form parts)
    (notReference : ∀ read, form = .reference read → False)
    (notBinding : ∀ declared, form = .binding declared → False)
    (notInitialized : ∀ pattern value, form = .declarator → parts = [pattern, value] → False) :
    sees adapter name (.mk start form parts) = anySees adapter name parts := by
  rw [sees]
  · exact notReference
  · exact notBinding
  · exact plain.notElement
  · exact notInitialized

theorem AllTracked.length_eq (tracked : AllTracked adapter name slot parts expanded traces) :
    expanded.length = parts.length := by
  induction tracked with
  | nil => rfl
  | cons head tail ih => simp [ih]

/-- The value of a variable comes before its pattern. -/
theorem tracked_initialized {pattern value otherPattern otherValue : Node}
    {patternTraces valueTraces : List Trace}
    (patternTracked : Tracked adapter name (.place .inner) pattern otherPattern patternTraces)
    (valueTracked : Tracked adapter name (.place .inner) value otherValue valueTraces) :
    Tracked adapter name (.place place) (.mk start .declarator [pattern, value])
      (.mk start .declarator [otherPattern, otherValue]) (patternTraces ++ valueTraces) := by
  have both := AllTracked.cons patternTracked valueTracked.single
  have strays_eq : slotStrays adapter (.place place) (.mk start .declarator [pattern, value]) =
      strays adapter .inner value ++ ahead (sites [] .inner pattern) (lasting value) ++
        strays adapter .inner pattern := by
    rw [slotStrays, strays]
  constructor
  case sited =>
    have sites_eq : slotSites [] (.place place) [.mk start .declarator [pattern, value]] =
        allSites [] .inner [pattern, value] := by
      rw [slotSites_place, sites]
      all_goals simp
    rw [sites_eq]
    exact both.sited
  case lasting_eq => simpa [lasting] using both.lasting_eq
  case keeps =>
    simp only [sees, Bool.or_eq_true, Bool.and_eq_true, valueTracked.lasting_eq]
    exact Or.imp valueTracked.keeps (And.imp_right patternTracked.keeps)
  case adds =>
    rw [strays_eq]
    intro free
    simp only [List.mem_append, not_or] at free
    simp only [sees, Bool.or_eq_true, Bool.and_eq_true, valueTracked.lasting_eq]
    exact Or.imp (valueTracked.adds free.1.1) (And.imp_right (patternTracked.adds free.2))
  case shows =>
    rw [strays_eq, List.flatMap_append]
    intro free handed
    simp only [List.mem_append, not_or, mem_ahead, not_and] at free
    rw [sees, valueTracked.lasting_eq]
    rcases List.mem_append.1 handed with early | late
    · have visible : name ∉ lasting value :=
        free.1.2 (by simpa using patternTracked.sited early)
      simp [visible, patternTracked.shows free.2 early]
    · simp [valueTracked.shows free.1.1 late]

theorem tracked_plain (admits : Admits form parts) (plain : Plain form parts)
    (unbraced : place = .child → ∀ value, form = .container → parts = [value] → False)
    (tracked : AllTracked adapter name (.place .inner) parts expanded traces) :
    Tracked adapter name (.place place) (.mk start form parts) (.mk start form expanded)
      traces := by
  by_cases named : (∃ read, form = .reference read) ∨ ∃ declared, form = .binding declared
  · obtain rfl : parts = [] := by
      rcases named with ⟨_, rfl⟩ | ⟨_, rfl⟩
      · exact admits.2
      · exact admits.2
    cases tracked
    exact ⟨by simp, rfl, id, fun _ => id, by simp⟩
  by_cases initialized : form = .declarator ∧ ∃ pattern value, parts = [pattern, value]
  · obtain ⟨rfl, pattern, value, rfl⟩ := initialized
    cases tracked with
    | cons head tail =>
        cases tail with
        | cons last none =>
            cases none
            simpa using tracked_initialized head last
  have notReference : ∀ read, form = .reference read → False :=
    fun read same => named (.inl ⟨read, same⟩)
  have notBinding : ∀ declared, form = .binding declared → False :=
    fun declared same => named (.inr ⟨declared, same⟩)
  have notInitialized : ∀ pattern value, form = .declarator → parts = [pattern, value] → False :=
    fun pattern value isDeclarator both => initialized ⟨isDeclarator, pattern, value, both⟩
  have length_eq := tracked.length_eq
  apply Tracked.of_parts tracked
  case sites_eq => rw [slotSites_place, sites_plain [] plain unbraced]
  case strays_eq => exact strays_plain adapter plain unbraced notInitialized
  case lasting_eq => exact lasting_congr plain length_eq tracked.lasting_eq
  case before => exact sees_plain plain notReference notBinding notInitialized
  case after =>
    apply sees_plain _ notReference notBinding
    · rintro pattern value rfl rfl
      obtain ⟨first, second, rfl⟩ := List.length_eq_two.1 length_eq.symm
      exact notInitialized first second rfl rfl
    · refine ⟨?_, plain.notFragment⟩
      rintro opening children rfl rfl
      cases parts with
      | nil => cases length_eq
      | cons first rest => exact plain.notElement first rest rfl rfl

theorem tracked_fragment {children : List Node}
    (tracked : AllTracked adapter name (.place .child) children expanded traces) :
    Tracked adapter name (.place place) (.mk start .fragment children)
      (.mk start .fragment expanded) traces := by
  apply Tracked.of_parts tracked
  case sites_eq => rw [slotSites_place, sites]
  case strays_eq => rw [slotStrays, strays]
  case lasting_eq => simpa [lasting] using tracked.lasting_eq
  case before => simp [sees]
  case after => simp [sees]

/-- Braces, parentheses and accesses to properties are as what they hold. -/
theorem tracked_lone {node other : Node} {inside : Slot} {value otherValue : Node}
    {others : List Trace} (tracked : Tracked adapter name inside value otherValue traces)
    (handed_eq : others.flatMap Trace.handed = traces.flatMap Trace.handed)
    (sites_eq : slotSites [] slot [node] = slotSites [] inside [value])
    (strays_eq : slotStrays adapter slot node = slotStrays adapter inside value)
    (lasting_eq : lasting node = lasting value)
    (otherLasting_eq : lasting other = lasting otherValue)
    (before : sees adapter name node = sees adapter name value)
    (after : sees adapter name other = sees adapter name otherValue) :
    Tracked adapter name slot node other others := by
  obtain ⟨sited, kept, keeps, adds, shows⟩ := tracked
  rw [← sites_eq, ← handed_eq] at sited
  rw [← lasting_eq, ← otherLasting_eq] at kept
  rw [← before, ← after] at keeps
  rw [← strays_eq, ← before, ← after] at adds
  rw [← strays_eq, ← after, ← handed_eq] at shows
  exact ⟨sited, kept, keeps, adds, shows⟩

theorem tracked_element {opening first : Node} {children rest : List Node}
    {before after : List Trace}
    (scope_eq : templateScope (captureRules adapter [] .scoped) first =
      templateScope (captureRules adapter [] .scoped) opening)
    (head : Tracked adapter name (.place .inner) opening first before)
    (tail : AllTracked adapter name (.place .child) children rest after) :
    Tracked adapter name (.place place) (.mk start .element (opening :: children))
      (.mk start .element (first :: rest)) (before ++ after) := by
  have strays_eq : slotStrays adapter (.place place) (.mk start .element (opening :: children)) =
      strays adapter .inner opening ++
        ahead (allSites [] .child children)
          (lasting opening ++ templateScope (captureRules adapter [] .scoped) opening) ++
        allStrays adapter .child children := by
    rw [slotStrays, strays]
  constructor
  case sited =>
    rw [slotSites_place, sites, List.flatMap_append]
    intro handed none
    obtain ⟨noneFirst, noneLater⟩ := List.append_eq_nil_iff.1 none
    rcases List.mem_append.1 handed with early | late
    · exact head.sited early (by simpa using noneFirst)
    · exact tail.sited late noneLater
  case lasting_eq => simpa [lasting] using head.lasting_eq
  case keeps =>
    simp only [sees, Bool.or_eq_true, Bool.and_eq_true, head.lasting_eq, scope_eq]
    exact Or.imp head.keeps (And.imp_right tail.keeps)
  case adds =>
    rw [strays_eq]
    intro free
    simp only [List.mem_append, not_or] at free
    simp only [sees, Bool.or_eq_true, Bool.and_eq_true, head.lasting_eq, scope_eq]
    exact Or.imp (head.adds free.1.1) (And.imp_right (tail.adds free.2))
  case shows =>
    rw [strays_eq, List.flatMap_append]
    intro free handed
    simp only [List.mem_append, not_or, mem_ahead, not_and] at free
    rw [sees, head.lasting_eq, scope_eq]
    rcases List.mem_append.1 handed with early | late
    · simp [head.shows free.1.1 early]
    · obtain ⟨visible, unbound⟩ := free.1.2 (tail.sited late)
      simp [visible, unbound, tail.shows free.2 late]

end Nodes

/-! ## Attributes -/

section Attributes

variable {rules : RewriteRules} {outer : Names} {traces : List Trace}

/-- A rewrite keeps the string values of attributes. -/
theorem Expanded.map_stringValue? {nodes expanded : List Node}
    (derived : Expanded rules outer slot nodes expanded traces) (name : String) :
    expanded.map (stringValue? name) = nodes.map (stringValue? name) := by
  induction derived with
  | nil => rfl
  | cons head tail headIh tailIh =>
      rw [List.map_cons, List.map_cons, tailIh]
      exact congrArg (· ++ _) headIh
  | list matched collection inner rewritten collectionIh innerIh =>
      have form_eq := (parts_of_loopWrapper rewritten.wrapped).1
      rw [List.map_singleton, List.map_singleton, stringValue?_of_form (by simp [form_eq]),
        stringValue?_of_form (by simp)]
  | @plain outer place start form parts expanded traces plain unbraced inner ih =>
      rw [List.map_singleton, List.map_singleton,
        stringValue?_of_forms (inner.map_form rfl)]
  | container unmatched inner ih | element head tail headIh tailIh | fragment inner ih
  | parenthesized inner ih | member inner ih =>
      rw [List.map_singleton, List.map_singleton, stringValue?_of_form (by simp),
        stringValue?_of_form (by simp)]
  | kept notParenthesized notMember => rfl

theorem stringAttribute?_eq_findSome? (opening : Node) (name : String) :
    stringAttribute? opening name = (opening.parts.map (stringValue? name)).findSome? id := by
  rw [stringAttribute?, List.findSome?_map]
  rfl

/-- A rewrite of a tag keeps the names that it shows as a loop. -/
theorem Expanded.templateScope_eq {opening first : Node}
    (derived : Expanded rules outer (.place .inner) [opening] [first] traces)
    (captureRules : CaptureRules) :
    templateScope captureRules first = templateScope captureRules opening := by
  have same : ∀ name, stringAttribute? first name = stringAttribute? opening name := by
    intro name
    rw [stringAttribute?_eq_findSome?, stringAttribute?_eq_findSome?]
    cases derived with
    | element head tail =>
        have headSame := head.map_stringValue? name
        simp only [List.map_singleton, List.cons.injEq, and_true] at headSame
        simp [headSame, tail.map_stringValue? name]
    | fragment inner | plain plain unbraced inner =>
        rw [Node.parts_mk, Node.parts_mk, inner.map_stringValue? name]
  simp only [templateScope, loopNames?, same]

end Attributes

/-! ## One list -/

section List

theorem mem_allLasting {nodes : List Node} :
    name ∈ allLasting nodes ↔ ∃ node ∈ nodes, name ∈ lasting node := by
  induction nodes with
  | nil => simp [allLasting]
  | cons node nodes ih => simp [allLasting, ih]

theorem lasting_of_parameters {node : Node} (form_eq : node.form = .parameters) :
    lasting node = allLasting node.parts := by
  obtain ⟨start, form, parts⟩ := node
  cases form_eq
  simp [lasting]

namespace Mapping

variable (mapping : Mapping) (callee parameters body : Node)

theorem lasting_call : lasting (mapping.call callee parameters body) = lasting callee := by
  have callback : lasting (mapping.callback parameters body) = [] := by
    obtain ⟨start, optional, pure, closing, callbackStart, form, lead, callable⟩ := mapping
    cases callable <;> simp [Mapping.callback, lasting]
  simp [call, lasting, allLasting, callback]

/-- A call with a callback sees what its callee sees, and then what the callback sees. -/
theorem sees_call_iff : sees adapter name (mapping.call callee parameters body) = true ↔
    sees adapter name callee = true ∨ name ∉ lasting callee ∧
      (anySees adapter name mapping.lead = true ∨ name ∉ allLasting mapping.lead ∧
        (sees adapter name parameters = true ∨
          name ∉ lasting parameters ∧ sees adapter name body = true)) := by
  have callback : sees adapter name (mapping.callback parameters body) =
      anySees adapter name (mapping.lead ++ [parameters, body]) := by
    obtain ⟨start, optional, pure, closing, callbackStart, form, lead, callable⟩ := mapping
    cases callable <;> simp [Mapping.callback, sees]
  rw [call, sees]
  · simp [anySees, callback, anySees_append]
  all_goals simp

end Mapping

variable {value : Node} {iteration : Iteration} {list : MatchedList value iteration}

/-- A list that declares both parameters hides its item and index behind them. -/
theorem MatchedList.mem_lasting_parameters (form_eq : list.parameters.form = .parameters)
    (both : list.parameters.parts.length = 2)
    (own : name ∈ [iteration.itemName, iteration.indexName]) : name ∈ lasting list.parameters := by
  obtain ⟨-, named⟩ := plain_of_parameterNames? list.declared
  have two : list.names.length = 2 := by
    rw [← both, ← List.length_map parameterName?, named, List.length_map]
  rw [list.names_eq, two, List.drop_of_length_le (by simp), List.append_nil] at own
  have found : some name ∈ list.parameters.parts.map parameterName? :=
    named ▸ List.mem_map_of_mem own
  obtain ⟨parameter, member, parameterNamed⟩ := List.mem_map.1 found
  obtain ⟨start, bindingStart, bindingParts, rest, rfl⟩ :=
    parameter_of_parameterName? parameterNamed
  rw [lasting_of_parameters form_eq]
  exact mem_allLasting.2 ⟨_, member, by simp [lasting, allLasting]⟩

variable {outer : Names} {callee body wrapper : Node} {inside : List Trace} {frame : Frame}

/-- What a list hands over is seen by its rewritten markup or handed over by a list in its body. -/
theorem RewrittenList.seen_of_captures
    (rewritten : RewrittenList ⟨adapter, .scoped⟩ outer list callee body inside frame wrapper)
    (captured : name ∈ frame.captures) :
    sees adapter name rewritten.result = true ∨ name ∈ inside.flatMap Trace.handed := by
  rw [rewritten.captures_eq, handedNames, mem_insertNames, Frame.innerCaptures_noteAll,
    mem_insertNames] at captured
  rcases captured with found | before | handed
  · rw [← sees_withoutParentheses]
    exact .inl (mem_captures_iff.1 found).2
  · cases before
  · exact .inr handed

theorem MatchedList.sees_container_iff (list : MatchedList value iteration) {start : Nat} :
    sees adapter name (.mk start .container [value]) = true ↔
      sees adapter name list.callee = true ∨ name ∉ lasting list.callee ∧
        (anySees adapter name list.mapping.lead = true ∨ name ∉ allLasting list.mapping.lead ∧
          (sees adapter name list.parameters = true ∨
            name ∉ lasting list.parameters ∧ sees adapter name list.body = true)) := by
  rw [← list.mapping.sees_call_iff, ← list.shape_body, sees_withoutParentheses]
  simp [sees]

theorem MatchedList.lasting_container (list : MatchedList value iteration) {start : Nat} :
    lasting (.mk start .container [value]) = lasting list.callee := by
  rw [← list.mapping.lasting_call list.callee list.parameters list.body, ← list.shape_body,
    lasting_withoutParentheses]
  simp [lasting]

/-- The tag of the loop that replaced a list with both parameters has the list's own parameters. -/
theorem RewrittenList.madeLoop
    (rewritten : RewrittenList ⟨adapter, .scoped⟩ outer list callee body inside frame wrapper)
    (only : frame.Only IsName) (both : list.parameters.parts.length = 2) :
    MadeLoop adapter frame.item frame.index
      (list.mapping.call callee list.parameters (rewritten.context.fill rewritten.object))
      rewritten.result.withoutParentheses wrapper := by
  have spelled := rewritten.spelled
  rw [spellParameters, if_neg (by omega)] at spelled
  rw [Except.ok.inj spelled]
  exact loopElement_of_loopWrapper only.item only.index rewritten.wrapped

/-- The loop that replaced a list is seen as the list's call was, and its markup is seen behind
the tag, which hides the item and index. -/
theorem RewrittenList.sees_wrapper_iff
    (rewritten : RewrittenList ⟨adapter, .scoped⟩ outer list callee body inside frame wrapper)
    (distinct : adapter.item ≠ adapter.index) (only : frame.Only IsName)
    (both : list.parameters.parts.length = 2) :
    sees adapter name wrapper = true ↔
      (sees adapter name callee = true ∨ name ∉ lasting callee ∧
        (anySees adapter name list.mapping.lead = true ∨ name ∉ allLasting list.mapping.lead ∧
          (sees adapter name list.parameters = true ∨ name ∉ lasting list.parameters ∧
            sees adapter name (rewritten.context.fill rewritten.object) = true))) ∨
      name ∉ lasting callee ∧ name ∉ [frame.item, frame.index] ∧
        sees adapter name rewritten.result = true := by
  rw [(rewritten.madeLoop only both).sees_iff distinct, list.mapping.sees_call_iff,
    list.mapping.lasting_call, sees_withoutParentheses]

theorem MatchedList.slotStrays_container (list : MatchedList value iteration) {start : Nat}
    (matched : iteration? value = some iteration) :
    slotStrays adapter (.place .child) (.mk start .container [value]) =
      calleeStrays adapter list.callee ++ lasting list.callee ++
        outside [iteration.itemName, iteration.indexName]
          (allLasting list.mapping.lead ++ lasting list.parameters ++ lasting list.body ++
            strays adapter .inner list.body) := by
  rw [← listStrays_of_shape adapter iteration list.shape_body]
  simp [slotStrays, strays, matched]

/-- Outside of the item and index a name that is not stray is visible throughout the callback. -/
theorem MatchedList.visible_of_not_stray (list : MatchedList value iteration) {start : Nat}
    (matched : iteration? value = some iteration)
    (free : name ∉ slotStrays adapter (.place .child) (.mk start .container [value]))
    (notOwn : name ∉ [iteration.itemName, iteration.indexName]) :
    name ∉ lasting list.callee ∧ name ∉ allLasting list.mapping.lead ∧
      name ∉ lasting list.parameters ∧ name ∉ lasting list.body ∧
      name ∉ strays adapter .inner list.body := by
  rw [list.slotStrays_container matched] at free
  simp only [List.mem_append, mem_outside] at free
  grind

/-- What a rewrite of a mapped list does to one name. In its callback the item and index were
hidden by the parameters, and in the loop they are hidden by the tag. -/
theorem tracked_list {start : Nat} {before : List Trace} (distinct : adapter.item ≠ adapter.index)
    (matched : iteration? value = some iteration) (only : frame.Only IsName)
    (form_eq : list.parameters.form = .parameters) (both : list.parameters.parts.length = 2)
    (rewritten : RewrittenList ⟨adapter, .scoped⟩ outer list callee body inside frame wrapper)
    (calleeTracked : Tracked adapter name .callee list.callee callee before)
    (bodyTracked : Tracked adapter name (.place .inner) list.body body inside) :
    Tracked adapter name (.place .child) (.mk start .container [value]) wrapper
      (before ++ [.list frame wrapper inside]) := by
  obtain ⟨objectLasting, objectSees⟩ :=
    @sees_of_handsOver adapter name _ _ (handsOver_of_captureObject only.captures rewritten.handed)
  have objectShown : name ∉ lasting rewritten.object := by simp [objectLasting]
  have own_eq : [frame.item, frame.index] = [iteration.itemName, iteration.indexName] := by
    rw [rewritten.item_eq, rewritten.index_eq]
  have own : name ∈ [frame.item, frame.index] → name ∈ lasting list.parameters :=
    own_eq ▸ list.mem_lasting_parameters form_eq both
  have after : sees adapter name wrapper = true ↔ _ := rewritten.sees_wrapper_iff distinct only both
  rw [calleeTracked.lasting_eq] at after
  have body_eq := rewritten.body_eq
  have bodyLasting := bodyTracked.lasting_eq
  rw [body_eq] at bodyLasting
  constructor
  case sited =>
    simp [sites, matched, listSites_of_shape [] _ list.shape_body]
  case lasting_eq =>
    rw [(rewritten.madeLoop only both).lasting_eq, list.mapping.lasting_call,
      calleeTracked.lasting_eq, list.lasting_container]
  case keeps =>
    rw [list.sees_container_iff, after]
    rintro (inCallee |
      ⟨visible, inLead | ⟨leadVisible, inParameters | ⟨parametersVisible, inBody⟩⟩⟩)
    · exact .inl (.inl (calleeTracked.keeps inCallee))
    · exact .inl (.inr ⟨visible, .inl inLead⟩)
    · exact .inl (.inr ⟨visible, .inr ⟨leadVisible, .inl inParameters⟩⟩)
    · have inExpanded := bodyTracked.keeps inBody
      rw [body_eq] at inExpanded
      rcases rewritten.context.sees_fill_or objectShown inExpanded with around | inResult
      · exact .inl (.inr ⟨visible, .inr ⟨leadVisible, .inr ⟨parametersVisible, around⟩⟩⟩)
      · exact .inr ⟨visible, fun isOwn => parametersVisible (own isOwn), inResult⟩
  case adds =>
    intro free
    rw [list.sees_container_iff, after]
    -- What the loop sees of the callback's result or what a list in it hands over, the callback
    -- saw.
    have fromBody : name ∉ [frame.item, frame.index] →
        sees adapter name (rewritten.context.fill rewritten.result) = true ∨
          sees adapter name rewritten.result = true ∨ name ∈ inside.flatMap Trace.handed →
        name ∉ lasting list.callee ∧ name ∉ allLasting list.mapping.lead ∧
          name ∉ lasting list.parameters ∧ sees adapter name list.body = true := by
      intro notOwn seen
      obtain ⟨visible, leadVisible, parametersVisible, bodyVisible, bodyFree⟩ :=
        list.visible_of_not_stray matched free (own_eq ▸ notOwn)
      refine ⟨visible, leadVisible, parametersVisible, bodyTracked.adds bodyFree ?_⟩
      rcases seen with inFilled | inResult | handed
      · rwa [body_eq]
      · rw [body_eq]
        exact rewritten.context.sees_fill (bodyLasting ▸ bodyVisible) inResult
      · exact bodyTracked.shows bodyFree handed
    rintro ((inCallee |
      ⟨visible, inLead | ⟨leadVisible, inParameters | ⟨parametersVisible, inFilled⟩⟩⟩) |
      ⟨-, notOwn, inResult⟩)
    · rw [list.slotStrays_container matched] at free
      simp only [List.mem_append, not_or] at free
      exact .inl (calleeTracked.adds free.1.1 inCallee)
    · exact .inr ⟨visible, .inl inLead⟩
    · exact .inr ⟨visible, .inr ⟨leadVisible, .inl inParameters⟩⟩
    · have notOwn : name ∉ [frame.item, frame.index] := fun isOwn => parametersVisible (own isOwn)
      obtain ⟨-, -, -, bodyVisible, -⟩ := list.visible_of_not_stray matched free (own_eq ▸ notOwn)
      have resultShown := rewritten.context.lasting_result (bodyLasting ▸ bodyVisible)
      have seen : sees adapter name (rewritten.context.fill rewritten.result) = true ∨
          sees adapter name rewritten.result = true ∨ name ∈ inside.flatMap Trace.handed :=
        (rewritten.context.sees_fill_or resultShown inFilled).imp_right fun inObject =>
          rewritten.seen_of_captures (objectSees.1 inObject)
      obtain ⟨-, -, -, inBody⟩ := fromBody notOwn seen
      exact .inr ⟨visible, .inr ⟨leadVisible, .inr ⟨parametersVisible, inBody⟩⟩⟩
    · obtain ⟨visible, leadVisible, parametersVisible, inBody⟩ :=
        fromBody notOwn (.inr (.inl inResult))
      exact .inr ⟨visible, .inr ⟨leadVisible, .inr ⟨parametersVisible, inBody⟩⟩⟩
  case shows =>
    intro free handed
    rw [after]
    rw [List.flatMap_append, List.mem_append] at handed
    rcases handed with early | late
    · rw [list.slotStrays_container matched] at free
      simp only [List.mem_append, not_or] at free
      exact .inl (.inl (calleeTracked.shows free.1.1 early))
    · rw [List.flatMap_singleton, Trace.mem_handed] at late
      have notOwn : name ∉ [frame.item, frame.index] := by
        have unbound := late.2
        simp_all [Frame.bindings]
      obtain ⟨visible, leadVisible, parametersVisible, bodyVisible, -⟩ :=
        list.visible_of_not_stray matched free (own_eq ▸ notOwn)
      have filledVisible := rewritten.context.lasting_fill (bodyLasting ▸ bodyVisible) objectShown
      have inFilled := rewritten.context.sees_fill filledVisible (objectSees.2 late.1)
      exact .inl (.inr ⟨visible, .inr ⟨leadVisible, .inr ⟨parametersVisible, inFilled⟩⟩⟩)

end List

/-! ## Whole rewrites -/

section Rewrites

variable {outer : Names} {nodes expanded : List Node} {traces : List Trace}

theorem declaresOnly_of_allRegular (regular : AllRegular nodes) :
    Node.Everywhere (DeclaresOnly IsName) nodes := by
  intro node member declared form_eq
  have admits : Admits node.form node.parts := regular node member
  rw [form_eq] at admits
  exact admits.1

theorem MatchedList.form_parameters {value : Node} {iteration : Iteration}
    (list : MatchedList value iteration) (regular : Regular value) :
    list.parameters.form = .parameters := by
  have admits := (list.everywhere_call regular).2.own
  have callable := list.mapping.callable
  rw [Mapping.callback, Node.form_mk, Node.parts_mk] at admits
  generalize list.mapping.form = form, list.mapping.lead = lead at admits callable
  cases callable with
  | arrow head sync =>
      obtain ⟨parameters, body, same, form_eq⟩ := admits
      cases same
      exact form_eq
  | function head own sync single =>
      obtain ⟨name, parameters, body, same, -, form_eq⟩ := admits
      cases same
      exact form_eq

/-- What a rewrite does to one name, where all mapped lists declare both parameters. -/
theorem Expanded.allTracked (distinct : adapter.item ≠ adapter.index)
    (derived : Expanded ⟨adapter, .scoped⟩ outer slot nodes expanded traces)
    (regular : AllRegular nodes) (around : ∀ name ∈ outer, IsName name)
    (scopes : List (List String))
    (both : ∀ site ∈ slotSites scopes slot nodes, site.parameters.parts.length = 2) :
    AllTracked adapter name slot nodes expanded traces := by
  induction derived generalizing scopes with
  | nil => exact .nil
  | cons head tail headIh tailIh =>
      obtain ⟨headRegular, tailRegular⟩ := Node.everywhere_cons.1 regular
      rw [slotSites_cons] at both
      have headTracked := headIh headRegular around scopes fun site member =>
        both site (List.mem_append_left _ member)
      have tailTracked := tailIh tailRegular around scopes fun site member =>
        both site (List.mem_append_right _ member)
      exact .cons headTracked.single tailTracked
  | @container outer start value expanded traces unmatched inner ih =>
      have sites_eq : ∀ scopes, slotSites scopes (.place .child) [.mk start .container [value]] =
          slotSites scopes (.place .inner) [value] := by
        intro scopes
        simp [sites, unmatched]
      rw [sites_eq] at both
      have tracked := (ih (Node.everywhere_mk.1 regular).2 around scopes both).single
      have handed_eq : ((if isMapCall value then [Trace.skipped start] else []) ++ traces).flatMap
          Trace.handed = traces.flatMap Trace.handed := by
        split <;> rfl
      refine (tracked_lone tracked handed_eq (sites_eq []) ?_ ?_ ?_ ?_ ?_).single <;>
        simp [slotStrays, strays, unmatched, lasting, sees]
  | @list outer start value callee body wrapper iteration list before inside frame matched
      collection inner rewritten collectionIh innerIh =>
      have valueRegular := (Node.everywhere_mk.1 regular).2
      obtain ⟨calleeRegular, -, bodyRegular⟩ := list.everywhere valueRegular
      obtain ⟨only, bodyAround⟩ := names_of_list matched collection inner rewritten
        (declaresOnly_of_allRegular regular) around
      rw [list.slotSites_container matched] at both
      have calleeTracked := collectionIh calleeRegular around scopes fun site member =>
        both site (List.mem_append_left _ member)
      have bodyTracked := innerIh bodyRegular bodyAround _ fun site member =>
        both site (List.mem_append_right _ (List.mem_append_left _ member))
      have ownBoth := both _ (List.mem_append_right _ (List.mem_append_right _ List.mem_cons_self))
      exact (tracked_list distinct matched only (list.form_parameters valueRegular) ownBoth
        rewritten calleeTracked.single bodyTracked.single).single
  | element head tail headIh tailIh =>
      obtain ⟨headRegular, tailRegular⟩ := Node.everywhere_cons.1 (Node.everywhere_mk.1 regular).2
      rw [slotSites_place, sites] at both
      have headTracked := headIh headRegular around scopes fun site member =>
        both site (List.mem_append_left _ (by simpa using member))
      have tailTracked := tailIh tailRegular around scopes fun site member =>
        both site (List.mem_append_right _ member)
      exact (tracked_element (head.templateScope_eq _) headTracked.single tailTracked).single
  | fragment inner ih =>
      rw [slotSites_place, sites] at both
      exact (tracked_fragment (ih (Node.everywhere_mk.1 regular).2 around scopes both)).single
  | plain plain unbraced inner ih =>
      obtain ⟨admits, partsRegular⟩ := Node.everywhere_mk.1 regular
      rw [slotSites_place, sites_plain scopes plain unbraced] at both
      exact (tracked_plain admits plain unbraced (ih partsRegular around scopes both)).single
  | parenthesized inner ih =>
      have tracked :=
        ih (Node.everywhere_mk.1 regular).2 around scopes (by simpa [calleeSites] using both)
      refine (tracked_lone tracked.single rfl ?_ ?_ ?_ ?_ ?_ ?_).single <;>
        simp [calleeSites, slotStrays, calleeStrays, lasting, sees]
  | member inner ih =>
      have tracked :=
        ih (Node.everywhere_mk.1 regular).2 around scopes (by simpa [calleeSites] using both)
      refine (tracked_lone tracked.single rfl ?_ ?_ ?_ ?_ ?_ ?_).single <;>
        simp [calleeSites, slotStrays, calleeStrays, lasting, sees]
  | kept notParenthesized notMember =>
      exact Tracked.single ⟨by simp, rfl, id, fun _ => id, by simp⟩

theorem AllTracked.split {before otherBefore after otherAfter : List Node} {node other : Node}
    (tracked : AllTracked adapter name slot (before ++ node :: after)
      (otherBefore ++ other :: otherAfter) traces)
    (length_eq : otherBefore.length = before.length) :
    ∃ early own late, traces = early ++ (own ++ late) ∧
      AllTracked adapter name slot before otherBefore early ∧
      Tracked adapter name slot node other own ∧
      AllTracked adapter name slot after otherAfter late := by
  induction before generalizing otherBefore traces with
  | nil =>
      obtain rfl := List.length_eq_zero_iff.1 length_eq
      cases tracked with
      | cons head tail => exact ⟨[], _, _, rfl, .nil, head, tail⟩
  | cons statement before ih =>
      cases otherBefore with
      | nil => cases length_eq
      | cons otherStatement otherBefore =>
          cases tracked with
          | @cons _ _ _ _ first rest head tail =>
              obtain ⟨early, own, late, rfl, earlyTracked, ownTracked, lateTracked⟩ :=
                ih tail (by simpa using length_eq)
              exact ⟨first ++ early, own, late, by simp, .cons head earlyTracked, ownTracked,
                lateTracked⟩

/-- What a rewrite does to one name in the result of a body, where no mapped list stands elsewhere
in the body. -/
theorem Expanded.tracked_result {context other : BodyContext} {result expanded : Node}
    {inside : List Trace} (distinct : adapter.item ≠ adapter.index)
    (derived : Expanded ⟨adapter, .scoped⟩ outer (.place .inner) [context.fill result]
      [other.fill expanded] inside)
    (outline_eq : other.outline = context.outline) (noBody : NoBody result)
    (expandedNoBody : NoBody expanded) (regular : Regular (context.fill result))
    (around : ∀ name ∈ outer, IsName name)
    (inResult : sites [] .inner (context.fill result) = sites [] .inner result)
    (both : ∀ site ∈ sites [] .inner result, site.parameters.parts.length = 2) :
    ∃ traces, Tracked adapter name (.place .inner) result expanded traces ∧
      (name ∈ inside.flatMap Trace.handed → name ∈ traces.flatMap Trace.handed) := by
  have form_eq := derived.map_form rfl
  rw [← inResult] at both
  cases context with
  | whole =>
      cases other with
      | whole =>
          refine ⟨inside, (derived.allTracked distinct regular around [] ?_).single, id⟩
          simpa using both
      | block => exact absurd (by simpa [BodyContext.fill] using form_eq.symm) (noBody _)
  | block start closing before returnStart after beforeClear afterClear =>
      cases other with
      | whole => exact absurd (by simpa [BodyContext.fill] using form_eq) (expandedNoBody _)
      | block otherStart otherClosing otherBefore otherReturn otherAfter =>
          simp only [BodyContext.fill] at derived regular inResult both
          simp only [BodyContext.outline, Prod.mk.injEq] at outline_eq
          have length_eq : otherBefore.length = before.length := by
            simpa using congrArg List.length outline_eq.1
          have returnSites : sites [] .inner (.mk returnStart .returnStatement [result]) =
              sites [] .inner result := by
            simp [sites, allSites]
          have statementSites : sites [] .inner (.mk start (.body closing)
              (before ++ .mk returnStart .returnStatement [result] :: after)) =
              allSites [] .inner
                (before ++ .mk returnStart .returnStatement [result] :: after) := by
            rw [sites] <;> simp
          rw [statementSites] at inResult both
          cases derived with
          | plain plain unbraced inner =>
              have tracked := @Expanded.allTracked adapter name _ _ _ _ _ distinct inner
                (Node.everywhere_mk.1 regular).2 around [] both
              obtain ⟨early, own, late, rfl, earlyTracked, ownTracked, lateTracked⟩ :=
                tracked.split length_eq
              rw [allSites_append, allSites, returnSites] at inResult
              have lengths := congrArg List.length inResult
              simp only [List.length_append] at lengths
              have noneEarly : allSites [] .inner before = [] :=
                List.length_eq_zero_iff.1 (by omega)
              have noneLate : allSites [] .inner after = [] :=
                List.length_eq_zero_iff.1 (by omega)
              refine ⟨own, ?_, ?_⟩
              · refine tracked_lone ownTracked rfl ?_ ?_ ?_ ?_ ?_ ?_ <;>
                  simp [returnSites, slotStrays, strays, allStrays, allSites, ahead, lasting, sees]
              · rw [List.flatMap_append, List.flatMap_append, List.mem_append, List.mem_append]
                rintro (handed | handed | handed)
                · exact absurd noneEarly (earlyTracked.sited handed)
                · exact handed
                · exact absurd noneLate (lateTracked.sited handed)

end Rewrites

end Tracked

/-! ## What a list hands over -/

namespace Site

/-- The names that a list and the lists around it bind. -/
def bound (site : Site) : Names := insertNames (namesOf site.bindings) (boundBy site.scopes)

/-- Whether a list returns markup that holds all mapped lists in its body, and these declare both
parameters. -/
structure Returns (site : Site) (result : Node) : Prop where
  result_eq : result? site.body = some result
  inResult : sites [] .inner site.body = sites [] .inner result
  both : ∀ nested ∈ sites [] .inner result, nested.parameters.parts.length = 2

end Site

section HandedOver

variable {adapter : Adapter} {site : Site} {loop : Frame × Node}

/-- A list hands over what is found in its rewritten markup, and what the lists in its body hand
over. -/
theorem ReplacedBy.mem_captures_iff (replaced : ReplacedBy ⟨adapter, .scoped⟩ site loop)
    {name : String} : name ∈ loop.1.captures ↔
      name ∈ captures (captureRules adapter site.bound .scoped)
        replaced.rewritten.result.withoutParentheses ∨
      name ∈ replaced.inside.flatMap Trace.handed := by
  have bound_eq : insertNames (insertNames
      (namesOf [((loopOf site.iteration replaced.list.body).noteAll replaced.inside).item,
        ((loopOf site.iteration replaced.list.body).noteAll replaced.inside).index])
      ((loopOf site.iteration replaced.list.body).noteAll replaced.inside).locals)
      (boundBy site.scopes) = site.bound := by
    obtain ⟨item_eq, index_eq, locals_eq⟩ :=
      (loopOf site.iteration replaced.list.body).noteAll_own replaced.inside
    rw [item_eq, index_eq, locals_eq, replaced.body_eq, ← namesOf_append]
    rfl
  rw [replaced.rewritten.captures_eq, handedNames, bound_eq, mem_insertNames,
    Frame.innerCaptures_noteAll, mem_insertNames]
  simp [loopOf, Frame.of, captureRules]

/-- A list hands over what is found in its markup as written, and besides only stray names. What
is found in the markup after the lists in it were rewritten lies between the two. -/
theorem ReplacedBy.captures_of_returns (replaced : ReplacedBy ⟨adapter, .scoped⟩ site loop)
    (distinct : adapter.item ≠ adapter.index) (regular : Regular site.body) {result : Node}
    (returns : site.Returns result) (name : String) :
    (name ∈ captures (captureRules adapter site.bound .scoped) result.withoutParentheses →
      name ∈ captures (captureRules adapter site.bound .scoped)
        replaced.rewritten.result.withoutParentheses) ∧
    (name ∈ loop.1.captures →
      name ∈ captures (captureRules adapter site.bound .scoped) result.withoutParentheses ∨
        name ∈ strays adapter .inner result) := by
  obtain ⟨result_eq, inResult, both⟩ := returns
  have noBody := noBody_of_isMarkup replaced.list.markup
  rw [← replaced.body_eq, MatchedList.body] at result_eq inResult regular
  rw [replaced.list.context.result?_fill noBody] at result_eq
  cases result_eq
  have derived := replaced.inner
  rw [replaced.rewritten.body_eq, MatchedList.body] at derived
  obtain ⟨traces, tracked, handed⟩ := @Expanded.tracked_result adapter name _ _ _ _ _ _ distinct
    derived replaced.rewritten.outline_eq noBody (noBody_of_isMarkup replaced.rewritten.markup)
      regular
    replaced.around inResult both
  constructor
  · rw [Loop.mem_captures_iff, Loop.mem_captures_iff, sees_withoutParentheses,
      sees_withoutParentheses]
    exact And.imp_right tracked.keeps
  · intro captured
    by_cases stray : name ∈ strays adapter .inner replaced.list.result
    · exact .inr stray
    · refine .inl (Loop.mem_captures_iff.2 ⟨?_, ?_⟩)
      · have bound := (replaced.mem_captures_scoped rfl captured).1
        rw [← mem_boundBy] at bound
        simpa [Site.bound, namesOf] using bound
      · rw [sees_withoutParentheses]
        apply tracked.adds stray
        exact (replaced.rewritten.seen_of_captures captured).elim id fun inner =>
          tracked.shows stray (handed inner)

end HandedOver

/-- Under `scoped` a list whose body holds mapped lists only in the returned markup, each with
both parameters, hands over every name that is found in the markup as written. Besides it hands
over only names that the markup declares around one of the lists, other than as its item or index.
The item and the index need different attributes for this (`captures_oneAttribute`). -/
theorem nested_rewrites_add_strays_only {adapter : Adapter} {tree : Node} {rewritten : Rewritten}
    (distinct : adapter.item ≠ adapter.index) (regular : Regular tree)
    (done : rewrite ⟨adapter, .scoped⟩ tree = .ok rewritten) :
    ∃ loops : List (Frame × Node),
      rewritten.events.filterMap Event.loop? =
        loops.map (fun loop => (loop.1.item, loop.1.index, loop.1.captures)) ∧
      (∀ loop ∈ loops, loop.2 ∈ rewritten.tree.nodes) ∧
      List.Forall₂ (fun site loop => ∃ child body,
        templateLoop? adapter loop.2 = some (.ofFrame loop.1 child body) ∧
        ∀ result, site.Returns result → ∀ name,
          (name ∈ captures (captureRules adapter site.bound .scoped) result.withoutParentheses →
            name ∈ captures (captureRules adapter site.bound .scoped) child) ∧
          (name ∈ captures (captureRules adapter site.bound .scoped) child →
            name ∈ loop.1.captures) ∧
          (name ∈ loop.1.captures →
            name ∈ captures (captureRules adapter site.bound .scoped) result.withoutParentheses ∨
              name ∈ strays adapter .inner result))
        (sites [] .inner tree) loops := by
  obtain ⟨loops, events_eq, placed, replaced⟩ :=
    replaced_of_rewrite (declaresOnly_of_allRegular regular) done
  refine ⟨loops, events_eq, placed, ?_⟩
  have bodies : ∀ site ∈ sites [] .inner tree, Regular site.body := fun site member =>
    regular.of_mem ((holdsBodies tree).anywhere [] .inner site member)
  refine ((List.forall₂_and_left _ _).2 ⟨bodies, replaced⟩).imp ?_
  rintro site loop ⟨bodyRegular, ⟨replacedBy⟩⟩
  refine ⟨_, _, replacedBy.rewritten.templateLoop?_eq replacedBy.inner replacedBy.only, ?_⟩
  intro result returns name
  obtain ⟨kept, added⟩ := replacedBy.captures_of_returns distinct bodyRegular returns name
  exact ⟨kept, fun found => replacedBy.mem_captures_iff.2 (.inl found), added⟩

/-! ## Rows of cells -/

/-- A list in a list with the same index:
`<view>{rows.map((row, index) => <view>{cells.map((cell, index) => …)}</view>)}</view>`. -/
def rowsWith (body : Node) : Node :=
  listIn "rows" "row" (listIn "cells" "cell" body)
where
  /-- A list in an element. -/
  listIn (collection item : String) (body : Node) : Node :=
    .mk 0 .element [.mk 0 (.opening (.plain "view") false) [],
      .mk 0 .container [
        .mk 0 (.call false false 0) [.mk 0 (.member "map" false) [.mk 0 (.reference collection) []],
          .mk 0 (.arrow ⟨false, false, false⟩) [
            .mk 0 .parameters [plainParameter 0 item, plainParameter 0 "index"], body]]]]

theorem isName_rowsWith : ∀ name ∈ ["rows", "row", "cells", "cell", "index"], IsName name := by
  decide +kernel

theorem regular_rowsWith {body : Node} (regular : Regular body) : Regular (rowsWith body) := by
  have names := isName_rowsWith
  simp only [List.forall_mem_cons] at names
  simp [rowsWith, rowsWith.listIn, plainParameter, isOpening, regular, names]

/-- A cell that reads its row: `<text key={index}>{cell}{row}</text>`. -/
def cellInRow : Node :=
  .mk 0 .element [
    .mk 0 (.opening (.plain "text") false) [
      .mk 0 (.attribute (.plain "key")) [.mk 0 .container [.mk 0 (.reference "index") []]]],
    .mk 0 .container [.mk 0 (.reference "cell") []], .mk 0 .container [.mk 0 (.reference "row") []]]

/-- A cell with a row of its own: `{ const row = cell; return <text>{row}</text>; }`. -/
def cellWithRow : Node :=
  .mk 0 (.body 0) [
    .mk 0 (.variableList .constant) [
      .mk 0 .declarator [.mk 0 (.binding "row") [], .mk 0 (.reference "cell") []]],
    .mk 0 .returnStatement [
      .mk 0 .element [.mk 0 (.opening (.plain "text") false) [],
        .mk 0 .container [.mk 0 (.reference "row") []]]]]

theorem regular_cellInRow : Regular cellInRow := by
  have names := isName_rowsWith
  simp only [List.forall_mem_cons] at names
  simp [cellInRow, isOpening, names]

/-- An adapter with one attribute for the item and the index. -/
def oneAttribute : Adapter :=
  ⟨"s:each", "s:each-name", "s:each-name", by decide, by decide, by decide⟩

theorem reportedLoops?_rowsWith :
    reportedLoops? ⟨.ali, .scoped⟩ (rowsWith cellInRow) =
        some [("cell", "index", ["index", "cell", "row"]), ("row", "index", ["row"])] ∧
      reportedLoops? ⟨oneAttribute, .scoped⟩ (rowsWith cellInRow) =
        some [("cell", "index", ["index", "cell", "row"]), ("row", "index", ["row", "index"])] ∧
      reportedLoops? ⟨.ali, .scoped⟩ (rowsWith cellWithRow) =
        some [("cell", "index", ["row"]), ("row", "index", ["row"])] := by
  decide +kernel

/-- The rows hand over the row, which their markup reads in the cells. They do not hand over their
index, since the cells have an index of their own. -/
theorem nested_rewrites_add_strays_only_rows :
    ∃ (rewritten : Rewritten) (cells rows : Site) (markup : Node),
      rewrite ⟨.ali, .scoped⟩ (rowsWith cellInRow) = .ok rewritten ∧
      rewritten.events.filterMap Event.loop? =
        [("cell", "index", ["index", "cell", "row"]), ("row", "index", ["row"])] ∧
      sites [] .inner (rowsWith cellInRow) = [cells, rows] ∧ rows.Returns markup ∧
      ∀ name, name ∈ ["row"] ↔
        name ∈ captures (captureRules .ali rows.bound .scoped) markup.withoutParentheses := by
  have regular := regular_rowsWith regular_cellInRow
  obtain ⟨rewritten, done, reported⟩ := rewrite_of_reportedLoops? reportedLoops?_rowsWith.1
  obtain ⟨loops, events_eq, -, handed⟩ :=
    nested_rewrites_add_strays_only (by decide) regular done
  rw [reported] at events_eq
  obtain ⟨cellsLoop, rest, rfl, -, rest_eq⟩ := List.map_eq_cons_iff.1 events_eq.symm
  obtain ⟨rowsLoop, rest, rfl, rows_eq, rest_eq⟩ := List.map_eq_cons_iff.1 rest_eq
  obtain rfl := List.map_eq_nil_iff.1 rest_eq
  simp only [Prod.mk.injEq] at rows_eq
  obtain ⟨cells, rows, sites_eq, returns⟩ : ∃ cells rows, sites [] .inner (rowsWith cellInRow) =
      [cells, rows] ∧ rows.Returns (rowsWith.listIn "cells" "cell" cellInRow) :=
    ⟨_, _, rfl, rfl, rfl, by decide_cbv⟩
  rw [sites_eq] at handed
  obtain ⟨-, rowsHanded⟩ := List.forall₂_cons.1 handed
  obtain ⟨⟨child, body, -, rowsCaptured⟩, -⟩ := List.forall₂_cons.1 rowsHanded
  have noStrays : strays .ali .inner (rowsWith.listIn "cells" "cell" cellInRow) = [] := by
    cbv
  refine ⟨rewritten, cells, rows, _, done, reported, sites_eq, returns, fun name => ?_⟩
  obtain ⟨kept, found, added⟩ := rowsCaptured _ returns name
  rw [rows_eq.2.2, noStrays] at added
  rw [rows_eq.2.2] at found
  exact ⟨fun handedOver => (added handedOver).resolve_right List.not_mem_nil, found ∘ kept⟩

/-- With one attribute for the item and the index, the rows take the tag of the cells to bind
only the cell. They hand over an index that is not found in their markup as written and is not
stray. -/
theorem captures_oneAttribute :
    Regular (rowsWith cellInRow) ∧ ∃ (rewritten : Rewritten) (cells rows : Site) (markup : Node),
      rewrite ⟨oneAttribute, .scoped⟩ (rowsWith cellInRow) = .ok rewritten ∧
      rewritten.events.filterMap Event.loop? =
        [("cell", "index", ["index", "cell", "row"]), ("row", "index", ["row", "index"])] ∧
      sites [] .inner (rowsWith cellInRow) = [cells, rows] ∧ rows.Returns markup ∧
      captures (captureRules oneAttribute rows.bound .scoped) markup.withoutParentheses = ["row"] ∧
      strays oneAttribute .inner markup = [] := by
  obtain ⟨rewritten, done, events_eq⟩ := rewrite_of_reportedLoops? reportedLoops?_rowsWith.2.1
  refine ⟨regular_rowsWith regular_cellInRow, rewritten, _, _,
    rowsWith.listIn "cells" "cell" cellInRow, done, events_eq, rfl, ⟨rfl, rfl, ?_⟩, ?_, ?_⟩ <;>
    decide_cbv

/-- The rows hand over a row although nothing is found in their markup as written, where the cells
hide the row behind one of their own. -/
theorem captures_cellWithRow :
    ∃ (rewritten : Rewritten) (cells rows : Site) (markup : Node),
      rewrite ⟨.ali, .scoped⟩ (rowsWith cellWithRow) = .ok rewritten ∧
      rewritten.events.filterMap Event.loop? =
        [("cell", "index", ["row"]), ("row", "index", ["row"])] ∧
      sites [] .inner (rowsWith cellWithRow) = [cells, rows] ∧ rows.Returns markup ∧
      captures (captureRules .ali rows.bound .scoped) markup.withoutParentheses = [] ∧
      strays .ali .inner markup = ["row"] := by
  obtain ⟨rewritten, done, events_eq⟩ := rewrite_of_reportedLoops? reportedLoops?_rowsWith.2.2
  refine ⟨rewritten, _, _, rowsWith.listIn "cells" "cell" cellWithRow, done, events_eq, rfl,
    ⟨rfl, rfl, ?_⟩, ?_, ?_⟩ <;> decide_cbv

end LoopTemplate.Loop
