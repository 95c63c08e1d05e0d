import LoopTemplate.Proofs.LoopElement
import LoopTemplate.Proofs.Moments

/-!
# The open loops mirror the nesting of the lists

While a walk is at an address, the open loops are those of the mapped lists that hold the address in
the bodies of their callbacks (`Stands`). From this, and from the regions that the parts of a node
cover, it follows for every node that its walk accounts for all calls of `map` between tags in it
(`watch_tells`). A whole rewrite then reports each of them once.
-/

namespace LoopTemplate.Loop

open LoopTemplate.Tree (Address Form Node)

/-! ## Places and scopes -/

/-- Whether the scopes that are open when a walk reaches an address are those of the lists
around. -/
structure Stands (tree : Node) (address : Address) (scopes : List (List String)) : Prop where
  reached : Reached tree address
  mirrors : Mirrors tree address scopes

theorem Mirrors.congr {tree : Node} {address other : Address} {scopes : List (List String)}
    (mirrors : Mirrors tree address scopes)
    (same : ∀ list, HoldsInBody tree list other ↔ HoldsInBody tree list address) :
    Mirrors tree other scopes := by
  obtain ⟨lists, enclosed, bound⟩ := mirrors
  refine ⟨lists, ⟨enclosed.outermostFirst, ?_⟩, bound⟩
  intro list
  rw [enclosed.exact, same]

/-- In the body of a list there is one more scope, that of the list. -/
theorem Mirrors.enter {tree : Node} {address other : Address} {scopes : List (List String)}
    {names : List String} (mirrors : Mirrors tree address scopes) (binds : Binds tree address names)
    (entered : ∀ list, HoldsInBody tree list other ↔
      HoldsInBody tree list address ∨ list = address) :
    Mirrors tree other (names :: scopes) := by
  obtain ⟨lists, enclosed, bound⟩ := mirrors
  refine ⟨lists ++ [address], ⟨?_, ?_⟩, ?_⟩
  · apply List.pairwise_append.2
    refine ⟨enclosed.outermostFirst, List.pairwise_singleton _ _, ?_⟩
    intro list member inner last
    obtain ⟨value, iteration, found, inBody⟩ := (enclosed.exact list).1 member
    rw [List.mem_singleton.1 last]
    exact prefix_of_body inBody
  · intro list
    rw [List.mem_append, List.mem_singleton, enclosed.exact, entered]
  · rw [List.reverse_cons]
    exact List.rel_append bound (.cons binds .nil)

namespace Stands

variable {tree value : Node} {address : Address} {scopes : List (List String)}
  {iteration : Iteration}

theorem part (stands : Stands tree address scopes)
    (noList : ∀ value iteration, ¬ ListAt tree address value iteration) (position : Nat) :
    Stands tree (address ++ [position]) scopes := by
  obtain ⟨reached, same⟩ := stands.reached.part noList position
  exact ⟨reached, stands.mirrors.congr same⟩

theorem callee {list : MatchedList value iteration} (stands : Stands tree address scopes)
    (found : ListAt tree address value iteration) (plain : PlainHead list) :
    Stands tree (address ++ 0 :: calleeAddress value) scopes := by
  obtain ⟨reached, same⟩ := Reached.callee found plain stands.reached
  exact ⟨reached, stands.mirrors.congr same⟩

theorem body {list : MatchedList value iteration} (stands : Stands tree address scopes)
    (found : ListAt tree address value iteration) (plain : PlainHead list) :
    Stands tree (address ++ 0 :: bodyAddress value)
      ((loopOf iteration list.body).bindings :: scopes) := by
  obtain ⟨reached, entered⟩ := Reached.body found plain stands.reached
  refine ⟨reached, stands.mirrors.enter ?_ entered⟩
  exact ⟨value, iteration, list.body, found, at?_bodyAddress list, rfl⟩

end Stands

/-! ## Regions -/

/-- The addresses that go on from an address. -/
def Below (address : Address) : Set Address := {inner | address <+: inner}

/-- The addresses that go on from an address to one of its parts from a position on. -/
def From (address : Address) (position : Nat) : Set Address :=
  {inner | ∃ later, position ≤ later ∧ address ++ [later] <+: inner}

section Regions

variable {tree : Node} {address inner : Address} {position : Nat}

theorem below_part_subset (address : Address) (position : Nat) :
    Below (address ++ [position]) ⊆ Below address :=
  fun _ below => (List.prefix_append _ _).trans below

theorem from_subset_below (address : Address) (position : Nat) :
    From address position ⊆ Below address := by
  rintro inner ⟨later, -, below⟩
  exact below_part_subset address later below

theorem below_or_from (below : inner ∈ Below address) :
    inner = address ∨ inner ∈ From address 0 := by
  obtain ⟨rest, rfl⟩ := below
  cases rest with
  | nil => exact .inl (List.append_nil _)
  | cons later rest => exact .inr ⟨later, Nat.zero_le _, rest, by simp⟩

theorem below_or_later (inside : inner ∈ From address position) :
    inner ∈ Below (address ++ [position]) ∨ inner ∈ From address (position + 1) := by
  obtain ⟨later, atLeast, below⟩ := inside
  rcases Nat.eq_or_lt_of_le atLeast with rfl | beyond
  · exact .inl below
  · exact .inr ⟨later, beyond, below⟩

theorem from_succ_subset (address : Address) (position : Nat) :
    Below (address ++ [position]) ∪ From address (position + 1) ⊆ From address position := by
  rintro inner (below | ⟨later, atLeast, below⟩)
  · exact ⟨position, Nat.le_refl _, below⟩
  · exact ⟨later, Nat.le_of_succ_le atLeast, below⟩

/-- No address in a part goes on to a later part. -/
theorem not_prefix_of_later {later : Address} (inside : inner ∈ Below (address ++ [position]))
    (after : later ∈ From address (position + 1)) : ¬ inner <+: later := by
  intro goesOn
  obtain ⟨other, beyond, below⟩ := after
  have same := List.prefix_of_prefix_length_le (inside.trans goesOn) below (by simp)
  rw [List.prefix_append_right_inj, List.cons_prefix_cons] at same
  omega

/-- What is reported in a part stands apart from what is reported in later parts. -/
theorem apart_of_later (moment : Moment) (inside : moment.address ∈ Below (address ++ [position]))
    (_ : Accounted tree moment) (later : Address) (after : later ∈ From address (position + 1)) :
    moment.address ≠ later ∧ (moment.isRewrite = true → ¬ moment.address <+: later) := by
  have outside := not_prefix_of_later inside after
  exact ⟨fun same => outside (same ▸ List.prefix_rfl), fun _ => outside⟩

theorem isBetweenTags_part {around : Node} (found : tree.at? address = some around)
    (position : Nat) :
    IsBetweenTags tree (address ++ [position]) ↔
      around.form = .fragment ∨ around.form = .element ∧ 0 < position := by
  constructor
  · rintro ⟨parent, other, otherAround, same, otherFound, tags⟩
    obtain ⟨rfl, last⟩ := List.append_inj' same rfl
    cases last
    rw [found] at otherFound
    cases otherFound
    exact tags
  · intro tags
    exact ⟨address, position, around, rfl, found, tags⟩

/-! ## Where there is no call of `map` -/

theorem not_isCandidate_of_missing (missing : tree.at? address = none)
    (below : inner ∈ Below address) :
    ¬ IsCandidate tree inner := by
  rintro ⟨start, value, braces, -⟩
  obtain ⟨rest, rfl⟩ := below
  have found := braces.found
  rw [Node.at?_append, missing] at found
  cases found

theorem not_isCandidate_of_form {node : Node} (found : tree.at? address = some node)
    (other : node.form ≠ .container) : ¬ IsCandidate tree address := by
  rintro ⟨start, value, braces, -⟩
  rw [braces.found] at found
  cases found
  exact other rfl

theorem not_listAt (none : ¬ IsCandidate tree address) (value : Node) (iteration : Iteration) :
    ¬ ListAt tree address value iteration :=
  fun list => none list.isCandidate

/-- What accounts for the parts of a node accounts for the node, unless it is a call of `map`. -/
theorem Tells.ofParts {α : Type} {scopes : List (List String)} {watched : Watched α} {step : Walk α}
    (tells : Tells tree (From address 0) scopes watched step) (none : ¬ IsCandidate tree address) :
    Tells tree (Below address) scopes watched step := by
  apply tells.widen (from_subset_below address 0)
  intro inner below candidate
  apply (below_or_from below).resolve_left
  rintro rfl
  exact none candidate

end Regions

/-! ## Visits -/

/-- What holds when a walk comes to a node. -/
structure Visits (tree : Node) (place : Place) (address : Address) (node : Node)
    (scopes : List (List String)) : Prop where
  found : tree.at? address = some node
  between : place = .child ↔ IsBetweenTags tree address
  stands : Stands tree address scopes
  suits : Suits Rewritable (.place place) [node]

/-- What holds when a walk comes to the parts of a node from a position on. -/
structure VisitsAll (tree : Node) (place : Place) (address : Address) (position : Nat)
    (nodes : List Node) (scopes : List (List String)) : Prop where
  found : ∀ index, tree.at? (address ++ [position + index]) = nodes[index]?
  between : ∀ later, position ≤ later → (place = .child ↔ IsBetweenTags tree (address ++ [later]))
  stands : ∀ later, Stands tree (address ++ [later]) scopes
  suits : Suits Rewritable (.place place) nodes

/-- What holds when a walk comes to the callee of a mapped list. -/
structure VisitsCallee (tree : Node) (address : Address) (node : Node)
    (scopes : List (List String)) : Prop where
  found : tree.at? address = some node
  stands : Stands tree address scopes
  suits : Suits Rewritable .callee [node]

section Visits

variable {tree value : Node} {place : Place} {address : Address} {position start : Nat}
  {form : Form} {parts nodes : List Node} {node : Node} {scopes : List (List String)}
  {iteration : Iteration}

theorem VisitsAll.cons (visits : VisitsAll tree place address position (node :: nodes) scopes) :
    Visits tree place (address ++ [position]) node scopes ∧
      VisitsAll tree place address (position + 1) nodes scopes := by
  obtain ⟨nodeSuits, nodesSuit⟩ := visits.suits.cons
  constructor
  · exact ⟨visits.found 0, visits.between position (Nat.le_refl _), visits.stands position,
      nodeSuits⟩
  · refine ⟨?_, ?_, visits.stands, nodesSuit⟩
    · intro index
      have found := visits.found (index + 1)
      rwa [← Nat.add_assoc, Nat.add_right_comm] at found
    · intro later atLeast
      exact visits.between later (Nat.le_of_succ_le atLeast)

/-- From a node that is no mapped list a walk comes to its parts. -/
theorem visits_part (found : tree.at? address = some (.mk start form parts))
    (taken : parts[position]? = some node) (stands : Stands tree address scopes)
    (noList : ∀ value iteration, ¬ ListAt tree address value iteration)
    (between : place = .child ↔ form = .fragment ∨ form = .element ∧ 0 < position)
    (suits : Suits Rewritable (.place place) [node]) :
    Visits tree place (address ++ [position]) node scopes := by
  refine ⟨?_, ?_, stands.part noList position, suits⟩
  · rw [Node.at?_append_of_found found]
    simp [Node.at?_cons, taken]
  · rw [isBetweenTags_part found, Node.form_mk]
    exact between

theorem visitsAll_parts (before : List Node)
    (found : tree.at? address = some (.mk start form (before ++ nodes)))
    (stands : Stands tree address scopes)
    (noList : ∀ value iteration, ¬ ListAt tree address value iteration)
    (between : ∀ later, before.length ≤ later →
      (place = .child ↔ form = .fragment ∨ form = .element ∧ 0 < later))
    (suits : Suits Rewritable (.place place) nodes) :
    VisitsAll tree place address before.length nodes scopes := by
  refine ⟨?_, ?_, stands.part noList, suits⟩
  · intro index
    rw [Node.at?_append_of_found found]
    cases taken : nodes[index]? <;>
      simp [Node.at?_cons, List.getElem?_append_right, taken]
  · intro later atLeast
    rw [isBetweenTags_part found, Node.form_mk]
    exact between later atLeast

end Visits

/-! ## Walks account for their nodes -/

section Walks

variable {tree value : Node} {rules : RewriteRules} {place : Place} {address : Address}
  {position start : Nat} {form : Form} {parts : List Node} {scopes : List (List String)}
  {iteration : Iteration}

theorem walk_plain (plain : Plain form parts)
    (unbraced : place = .child → ∀ value, form = .container → parts = [value] → False) :
    walk rules place (.mk start form parts) = do
      return .mk start form (← walkAll rules .inner parts) := by
  by_cases braced : form = .container ∧ ∃ value, parts = [value]
  · obtain ⟨rfl, value, rfl⟩ := braced
    cases place with
    | child => exact absurd rfl (unbraced rfl value rfl)
    | inner => simp only [walk, walkAll, pure_bind, bind_assoc]
  · rw [walk]
    · rintro value rfl rfl
      exact braced ⟨rfl, value, rfl⟩
    · exact plain.notElement
    · exact plain.notFragment

theorem watch_plain (plain : Plain form parts)
    (unbraced : place = .child → ∀ value, form = .container → parts = [value] → False) :
    watch rules place address (.mk start form parts) = do
      return .mk start form (← watchAll rules .inner address 0 parts) := by
  by_cases braced : form = .container ∧ ∃ value, parts = [value]
  · obtain ⟨rfl, value, rfl⟩ := braced
    cases place with
    | child => exact absurd rfl (unbraced rfl value rfl)
    | inner => simp only [watch, watchAll, pure_bind, bind_assoc]
  · rw [watch]
    · rintro value rfl rfl
      exact braced ⟨rfl, value, rfl⟩
    · exact plain.notElement
    · exact plain.notFragment

/-- The loop of a rewritten callback has the item and the index of its list. -/
theorem names_of_walkCallback (list : MatchedList value iteration) {offset : Nat}
    {spelled : Node} {rewritten : RewrittenCallback}
    (done : ∃ state after, walkCallback rules iteration offset spelled
      (list.mapping.callback list.parameters list.body) state = .ok (rewritten, after)) :
    rewritten.frame.item = iteration.itemName ∧ rewritten.frame.index = iteration.indexName := by
  obtain ⟨state, after, done⟩ := done
  rw [(walk_follows rules).2.2.2.1] at done
  dsimp only at done
  cases expansion : expandCallback rules (LoopStack.bindings state.stack) iteration offset spelled
      (list.mapping.callback list.parameters list.body) with
  | error error =>
      rw [expansion] at done
      cases done
  | ok expanded =>
      rw [expansion] at done
      cases done
      obtain ⟨_, _, _, _, _, _, _, same⟩ := rewritten_of_expandCallback expansion
      rw [same]
      exact ⟨finishedLoop_item .., finishedLoop_index ..⟩

/-- Braces around a call of `map` that is no mapped list are reported, and then what is in them. -/
theorem tells_container (visits : Visits tree .child address (.mk start .container [value]) scopes)
    (unmatched : iteration? value = none)
    (valueTells : Visits tree .inner (address ++ [0]) value scopes →
      Tells tree (Below (address ++ [0])) scopes (watch rules .inner (address ++ [0]) value)
        (walk rules .inner value)) :
    Tells tree (Below address) scopes (watch rules .child address (.mk start .container [value]))
      (walk rules .child (.mk start .container [value])) := by
  have braces : Braces tree address start value := ⟨visits.found, visits.between.1 rfl⟩
  have noList : ∀ other iteration, ¬ ListAt tree address other iteration := by
    intro other iteration list
    have matched := list.matched
    rw [← list.value_eq visits.found, unmatched] at matched
    cases matched
  have inside := valueTells (visits_part visits.found rfl visits.stands noList (by simp)
    visits.suits.parts)
  have onlyPart : ∀ inner ∈ Below address, IsCandidate tree inner → inner ≠ address →
      inner ∈ Below (address ++ [0]) := by
    intro inner below candidate differs
    rcases below_or_later ((below_or_from below).resolve_left differs) with
      first | ⟨later, beyond, other⟩
    · exact first
    · have missing : tree.at? (address ++ [later]) = none := by
        rw [Node.at?_append_of_found visits.found]
        simp [Node.at?_cons, Nat.ne_of_gt beyond]
      exact absurd candidate (not_isCandidate_of_missing missing other)
  by_cases called : isMapCall value = true
  · simp only [watch, walk, unmatched, called, if_true]
    have apart : ∀ moment : Moment, moment.address ∈ ({address} : Set Address) →
        Accounted tree moment → ∀ inner ∈ Below (address ++ [0]), moment.address ≠ inner ∧
          (moment.isRewrite = true → ¬ moment.address <+: inner) := by
      intro moment here accounted inner below
      obtain rfl : moment.address = address := here
      constructor
      · rintro same
        have longer := below.length_le
        rw [← same, List.length_append, List.length_singleton] at longer
        omega
      · intro rewrote
        obtain ⟨otherStart, other, lists, otherBraces, -, -, -, reports⟩ := accounted
        have found := otherBraces.found
        rw [visits.found] at found
        cases found
        rw [Reports, unmatched] at reports
        simp [Moment.isRewrite, reports] at rewrote
    apply ((tells_skipped braces called unmatched visits.stands.mirrors).bind apart
      fun _ _ => inside.map _).widen
    · rintro inner (rfl | below)
      · exact List.prefix_rfl
      · exact below_part_subset address 0 below
    · intro inner below candidate
      by_cases same : inner = address
      · exact .inl same
      · exact .inr (onlyPart inner below candidate same)
  · simp only [watch, walk, unmatched, called]
    apply (inside.map _).widen (below_part_subset address 0)
    intro inner below candidate
    apply onlyPart inner below candidate
    rintro rfl
    obtain ⟨otherStart, other, otherBraces, otherCalled⟩ := candidate
    have found := otherBraces.found
    rw [visits.found] at found
    cases found
    exact called otherCalled

/-- What is reported in the callee of a list stands apart from the body of its callback and from the
list itself. -/
theorem apart_of_callee {tree : Node} (address : Address) (value : Node) (moment : Moment)
    (inside : moment.address ∈ Below (address ++ 0 :: calleeAddress value))
    (_ : Accounted tree moment)
    (other : Address) (after : other ∈ Below (address ++ 0 :: bodyAddress value) ∪ {address}) :
    moment.address ≠ other ∧ (moment.isRewrite = true → ¬ moment.address <+: other) := by
  have outside : ¬ moment.address <+: other := by
    intro goesOn
    have inCallee : address ++ 0 :: calleeAddress value <+: other := inside.trans goesOn
    rcases after with inBody | rfl
    · exact not_callee_and_body inCallee inBody
    · have longer := inCallee.length_le
      simp only [List.length_append, List.length_cons] at longer
      omega
  exact ⟨fun same => outside (same ▸ List.prefix_rfl), fun _ => outside⟩

/-- What is reported in the body of the callback of a list stands apart from the list itself. -/
theorem apart_of_body {tree : Node} (address : Address) (value : Node) (moment : Moment)
    (inside : moment.address ∈ Below (address ++ 0 :: bodyAddress value))
    (_ : Accounted tree moment) (other : Address) (after : other ∈ ({address} : Set Address)) :
    moment.address ≠ other ∧ (moment.isRewrite = true → ¬ moment.address <+: other) := by
  have outside : ¬ moment.address <+: other := by
    intro goesOn
    obtain rfl : other = address := after
    exact (prefix_of_body (inside.trans goesOn)).2 rfl
  exact ⟨fun same => outside (same ▸ List.prefix_rfl), fun _ => outside⟩

/-- Of a mapped list, the callee comes first, then the body of the callback under the loop of the
list, and then the list itself is reported. -/
theorem tells_list (visits : Visits tree .child address (.mk start .container [value]) scopes)
    (list : MatchedList value iteration) (matched : iteration? value = some iteration)
    (calleeTells : ∀ callee, VisitsCallee tree callee list.callee scopes →
      Tells tree (Below callee) scopes (watchCallee rules callee list.callee)
        (walkCallee rules list.callee))
    (bodyTells : ∀ body inner, Visits tree .inner body list.body inner →
      Tells tree (Below body) inner (watch rules .inner body list.body)
        (walk rules .inner list.body)) :
    Tells tree (Below address) scopes (watch rules .child address (.mk start .container [value]))
      (walk rules .child (.mk start .container [value])) := by
  have braces : Braces tree address start value := ⟨visits.found, visits.between.1 rfl⟩
  have found : ListAt tree address value iteration := ⟨⟨start, braces⟩, matched⟩
  obtain ⟨leadPlain, parametersRewritable, form_eq, alone⟩ := visits.suits.callback list matched
  have plain : PlainHead list :=
    ⟨leadPlain, plainParameters_of_list parametersRewritable form_eq alone⟩
  obtain ⟨calleeSuits, bodySuits⟩ := visits.suits.list list
  have atValue : ∀ further, tree.at? (address ++ 0 :: further) = value.at? further := by
    intro further
    rw [Node.at?_append_of_found visits.found]
    rfl
  have callee := calleeTells (address ++ 0 :: calleeAddress value)
    ⟨(atValue _).trans (at?_calleeAddress list), visits.stands.callee found plain, calleeSuits⟩
  have bodyAt : address ++ [0] ++ (List.replicate value.parentheses 0 ++ [1]) ++
      [list.mapping.lead.length + 1] = address ++ 0 :: bodyAddress value := by
    simp [bodyAddress_of_list list]
  have notBetween : ¬ IsBetweenTags tree (address ++ 0 :: bodyAddress value) := by
    have callback : tree.at? (address ++ [0] ++ (List.replicate value.parentheses 0 ++ [1])) =
        some (list.mapping.callback list.parameters list.body) := by
      rw [List.append_assoc, List.singleton_append, atValue,
        Node.at?_append_of_found value.at?_parentheses, list.shape_body]
      rfl
    rw [← bodyAt, isBetweenTags_part callback]
    rintro (isFragment | ⟨isElement, -⟩)
    · exact not_hasTags_callback _ _ _ (.inr isFragment)
    · exact not_hasTags_callback _ _ _ (.inl isElement)
  have body := bodyTells (address ++ 0 :: bodyAddress value) _
    ⟨(atValue _).trans (at?_bodyAddress list), by simp [notBetween], visits.stands.body found plain,
      bodySuits⟩
  have callback : ∀ spelled, Tells tree (Below (address ++ 0 :: bodyAddress value)) scopes
      (watchCallback rules iteration start spelled
        (address ++ [0] ++ (List.replicate value.parentheses 0 ++ [1]))
        (list.mapping.callback list.parameters list.body))
      (walkCallback rules iteration start spelled
        (list.mapping.callback list.parameters list.body)) := by
    intro spelled
    rw [watchCallback_callback, walkCallback_callback, bodyAt]
    exact tells_callback body
  simp only [watch, walk, matched]
  rw [watchList_of_shape _ _ list.shape_body, walkList_of_shape list.shape_body,
    List.append_assoc address [0] (calleeAddress value), List.singleton_append]
  refine (Tells.ofExcept _).afterSilent fun spelled => ?_
  apply (callee.bind (apart_of_callee address value) fun _ _ =>
    (callback spelled).bind (apart_of_body address value) fun rewritten done => ?_).widen
  · rintro inner (inCallee | inBody | rfl)
    · exact (List.prefix_append _ _).trans inCallee
    · exact (List.prefix_append _ _).trans inBody
    · exact List.prefix_rfl
  · intro inner below candidate
    rcases candidate_in_list found plain candidate below with rfl | ⟨parent, position, rfl, inPiece⟩
    · exact .inr (.inr rfl)
    · rcases inPiece with inCallee | inBody
      · exact .inl (inCallee.trans (List.prefix_append _ _))
      · exact .inr (.inl (inBody.trans (List.prefix_append _ _)))
  · obtain ⟨item_eq, index_eq⟩ := names_of_walkCallback list done
    exact (tells_rewrote braces matched visits.stands.mirrors item_eq index_eq).thenSilent
      fun _ => Tells.ofExcept _

/-- A node other than braces accounts for what is in its parts. -/
theorem tells_plain (visits : Visits tree place address (.mk start form parts) scopes)
    (plain : Plain form parts)
    (unbraced : place = .child → ∀ value, form = .container → parts = [value] → False)
    (partsTell : VisitsAll tree .inner address 0 parts scopes →
      Tells tree (From address 0) scopes (watchAll rules .inner address 0 parts)
        (walkAll rules .inner parts)) :
    Tells tree (Below address) scopes (watch rules place address (.mk start form parts))
      (walk rules place (.mk start form parts)) := by
  have noCandidate : ¬ IsCandidate tree address := by
    rintro ⟨otherStart, value, braces, -⟩
    have found := braces.found
    rw [visits.found] at found
    cases found
    exact unbraced (visits.between.2 braces.between) value rfl rfl
  have notElement := visits.suits.notElement plain
  have notFragment : form ≠ .fragment := plain.notFragment
  have inside := partsTell (visitsAll_parts [] visits.found visits.stands (not_listAt noCandidate)
    (fun _ _ => by simp [notElement, notFragment]) visits.suits.parts)
  rw [watch_plain plain unbraced, walk_plain plain unbraced]
  exact (inside.map _).ofParts noCandidate

/-- An element accounts for what is in its opening tag, and then for what is between its tags. -/
theorem tells_element {opening : Node} {children : List Node}
    (visits : Visits tree place address (.mk start .element (opening :: children)) scopes)
    (openingTells : Visits tree .inner (address ++ [0]) opening scopes →
      Tells tree (Below (address ++ [0])) scopes (watch rules .inner (address ++ [0]) opening)
        (walk rules .inner opening))
    (childrenTell : VisitsAll tree .child address 1 children scopes →
      Tells tree (From address 1) scopes (watchAll rules .child address 1 children)
        (walkAll rules .child children)) :
    Tells tree (Below address) scopes
      (watch rules place address (.mk start .element (opening :: children)))
      (walk rules place (.mk start .element (opening :: children))) := by
  have noCandidate : ¬ IsCandidate tree address :=
    not_isCandidate_of_form visits.found (by simp)
  obtain ⟨openingSuits, childrenSuit⟩ := visits.suits.element
  have first := openingTells (visits_part visits.found rfl visits.stands (not_listAt noCandidate)
    (by simp) openingSuits)
  have rest := childrenTell (visitsAll_parts [opening] visits.found visits.stands
    (not_listAt noCandidate) (fun later atLeast => by simpa using Nat.lt_of_succ_le atLeast)
    childrenSuit)
  simp only [watch, walk]
  apply Tells.ofParts _ noCandidate
  apply (first.bind apart_of_later fun _ _ => rest.map _).widen (from_succ_subset address 0)
  intro inner inside _
  exact below_or_later inside

/-- A fragment accounts for what is between its tags. -/
theorem tells_fragment {children : List Node}
    (visits : Visits tree place address (.mk start .fragment children) scopes)
    (childrenTell : VisitsAll tree .child address 0 children scopes →
      Tells tree (From address 0) scopes (watchAll rules .child address 0 children)
        (walkAll rules .child children)) :
    Tells tree (Below address) scopes (watch rules place address (.mk start .fragment children))
      (walk rules place (.mk start .fragment children)) := by
  have noCandidate : ¬ IsCandidate tree address :=
    not_isCandidate_of_form visits.found (by simp)
  have inside := childrenTell (visitsAll_parts [] visits.found visits.stands
    (not_listAt noCandidate) (by simp) visits.suits.fragment)
  simp only [watch, walk]
  exact (inside.map _).ofParts noCandidate

/-- Nodes one after the other account for what is in them. -/
theorem tells_cons {node : Node} {nodes : List Node}
    (visits : VisitsAll tree place address position (node :: nodes) scopes)
    (nodeTells : Visits tree place (address ++ [position]) node scopes →
      Tells tree (Below (address ++ [position])) scopes
        (watch rules place (address ++ [position]) node) (walk rules place node))
    (nodesTell : VisitsAll tree place address (position + 1) nodes scopes →
      Tells tree (From address (position + 1)) scopes
        (watchAll rules place address (position + 1) nodes) (walkAll rules place nodes)) :
    Tells tree (From address position) scopes
      (watchAll rules place address position (node :: nodes))
      (walkAll rules place (node :: nodes)) := by
  obtain ⟨nodeVisits, nodesVisit⟩ := visits.cons
  simp only [watchAll, walkAll]
  apply ((nodeTells nodeVisits).bind apart_of_later fun _ _ => (nodesTell nodesVisit).map _).widen
    (from_succ_subset address position)
  intro inner inside _
  exact below_or_later inside

theorem tells_nil (visits : VisitsAll tree place address position [] scopes) :
    Tells tree (From address position) scopes (watchAll rules place address position [])
      (walkAll rules place []) := by
  simp only [watchAll, walkAll]
  apply (Tells.pure []).widen (Set.empty_subset _)
  rintro inner ⟨later, atLeast, below⟩ candidate
  obtain ⟨index, rfl⟩ := Nat.exists_eq_add_of_le atLeast
  exact (not_isCandidate_of_missing (visits.found index) below candidate).elim

/-- From the callee of a mapped list a walk comes to its only part. -/
theorem tells_callee {part : Node} {finish : Node → Node} {watched : Watched Node}
    {step : Walk Node}
    (found : tree.at? address = some (.mk start form [part])) (other : form ≠ .container)
    (partTells : Tells tree (Below (address ++ [0])) scopes watched step) :
    Tells tree (Below address) scopes (watched >>= fun node => pure (finish node))
      (step >>= fun node => pure (finish node)) := by
  apply Tells.ofParts _ (not_isCandidate_of_form found other)
  apply (partTells.map finish).widen
  · intro inner below
    exact ⟨0, Nat.le_refl _, below⟩
  · rintro inner ⟨later, -, below⟩ candidate
    cases later with
    | zero => exact below
    | succ later =>
        have missing : tree.at? (address ++ [later + 1]) = none := by
          rw [Node.at?_append_of_found found]
          simp [Node.at?_cons]
        exact absurd candidate (not_isCandidate_of_missing missing below)

end Walks

/-- At every node, the walk accounts for all calls of `map` between tags in the node. -/
theorem watch_tells (tree : Node) (rules : RewriteRules) {address : Address} {node : Node}
    {place : Place} {scopes : List (List String)}
    (visits : Visits tree place address node scopes) :
    Tells tree (Below address) scopes (watch rules place address node) (walk rules place node) := by
  refine (expansion_induction
    (fun _ place node => ∀ address scopes, Visits tree place address node scopes →
      Tells tree (Below address) scopes (watch rules place address node) (walk rules place node))
    (fun _ place nodes => ∀ address position scopes,
      VisitsAll tree place address position nodes scopes →
        Tells tree (From address position) scopes (watchAll rules place address position nodes)
          (walkAll rules place nodes))
    (fun _ node => ∀ address scopes, VisitsCallee tree address node scopes →
      Tells tree (Below address) scopes (watchCallee rules address node) (walkCallee rules node))
    ?nil ?cons ?container ?list ?element ?fragment ?plain ?parenthesized ?member ?kept).1 []
      place node address scopes visits
  case nil =>
    intro _ place address position scopes visits
    exact tells_nil visits
  case cons =>
    intro _ place node nodes nodeTells nodesTell address position scopes visits
    exact tells_cons visits (nodeTells _ _) (nodesTell _ _ _)
  case container =>
    intro _ start value unmatched valueTells address scopes visits
    exact tells_container visits unmatched (valueTells _ _)
  case list =>
    intro _ start value iteration list matched calleeTells bodyTells address scopes visits
    exact tells_list visits list matched (fun _ => calleeTells _ _) fun _ _ => bodyTells _ _
  case element =>
    intro _ place start opening children openingTells childrenTell address scopes visits
    exact tells_element visits (openingTells _ _) (childrenTell _ _ _)
  case fragment =>
    intro _ place start children childrenTell address scopes visits
    exact tells_fragment visits (childrenTell _ _ _)
  case plain =>
    intro _ place start form parts plain unbraced partsTell address scopes visits
    exact tells_plain visits plain unbraced (partsTell _ _ _)
  case parenthesized =>
    intro _ start callee calleeTells address scopes visits
    have noCandidate : ¬ IsCandidate tree address :=
      not_isCandidate_of_form visits.found (by simp)
    simp only [watchCallee, walkCallee]
    apply tells_callee visits.found (by simp)
    apply calleeTells
    refine ⟨?_, visits.stands.part (not_listAt noCandidate) 0, visits.suits.parenthesized⟩
    rw [Node.at?_append_of_found visits.found]
    rfl
  case member =>
    intro _ start name optional object objectTells address scopes visits
    have noCandidate : ¬ IsCandidate tree address :=
      not_isCandidate_of_form visits.found (by simp)
    simp only [watchCallee, walkCallee]
    apply tells_callee visits.found (by simp)
    exact objectTells _ _ (visits_part visits.found rfl visits.stands (not_listAt noCandidate)
      (by simp) visits.suits.parts)
  case kept =>
    intro _ node notParenthesized notMember address scopes visits
    obtain ⟨start, name, optional, object, rfl⟩ := visits.suits.member notParenthesized
    exact absurd rfl (notMember start name optional object)

/-! ## Whole rewrites -/

/-- At the root no loop is open. -/
theorem visits_root {tree : Node} (rewritable : Node.Everywhere Rewritable [tree]) :
    Visits tree .inner [] tree [] := by
  have noneAbove : ∀ above : Address, above <+: [] → above = [] := fun _ => List.prefix_nil.1
  refine ⟨rfl, ?_, ⟨?_, [], ⟨.nil, ?_⟩, .nil⟩, .inner rewritable rewritable⟩
  · constructor
    · simp
    · rintro ⟨parent, position, around, same, -⟩
      simp at same
  · intro above value iteration _ within differs
    exact absurd (noneAbove above within) differs
  · intro list
    constructor
    · simp
    · rintro ⟨value, iteration, -, inBody⟩
      simp at inBody

/-- A rewrite accounts for every call of `map` in braces between tags, once: a mapped list is
reported as rewritten, with the number of lists in the bodies of whose callbacks it stands, and
any other call as left as it is. At each report the open loops are those of the lists around, the
outermost first, each with the names that it binds. A list is reported after all that is in it, no
loop stays open, and the lists that were reported as rewritten are counted at the end. -/
theorem rewrite_accounts {rules : RewriteRules} {tree : Node} {rewritten : Rewritten}
    (rewritable : Node.Everywhere Rewritable [tree]) (done : rewrite rules tree = .ok rewritten) :
    ∃ moments state,
      walk rules .inner tree ⟨[], 0, []⟩ = .ok (rewritten.tree, state) ∧
      watch rules .inner [] tree [] ⟨[], 0, []⟩ = .ok ((rewritten.tree, moments), state) ∧
      state.stack = [] ∧
      rewritten.events = moments.map Moment.event ++
        [.finished (moments.countP Moment.isRewrite)] ∧
      (moments.map Moment.address).Nodup ∧
      (∀ address, address ∈ moments.map Moment.address ↔ IsCandidate tree address) ∧
      (∀ moment ∈ moments, Accounted tree moment) ∧
      moments.Pairwise fun earlier later =>
        earlier.isRewrite = true → ¬ earlier.address <+: later.address := by
  obtain ⟨⟨walked, state⟩, walkDone, returned⟩ := except_bind_eq_ok done
  cases returned
  obtain ⟨moments, watchDone, told⟩ :=
    watch_tells tree rules (visits_root rewritable) [] _ walked state rfl walkDone
  have events_eq : state.events = moments.map Moment.event := by simpa using told.events
  have count_eq : state.count = moments.countP Moment.isRewrite := by simpa using told.count
  refine ⟨moments, state, walkDone, watchDone, by simpa using told.scopes, ?_, ?_, ?_, ?_, ?_⟩
  · rw [events_eq, count_eq]
  · apply List.pairwise_map.2
    exact told.accounts.innerFirst.imp And.left
  · intro address
    rw [List.mem_map]
    constructor
    · rintro ⟨moment, member, rfl⟩
      obtain ⟨start, value, lists, braces, called, -⟩ := (told.accounts.each moment member).2
      exact ⟨start, value, braces, called⟩
    · exact told.accounts.all address List.nil_prefix
  · intro moment member
    exact (told.accounts.each moment member).2
  · exact told.accounts.innerFirst.imp And.right

/-- In a list in a list the inner one is reported first, while the loop of the outer one is open. -/
theorem rewrite_accounts_rowsOfCells :
    Node.Everywhere Rewritable [rowsOfCells] ∧
      ∃ rewritten moments state,
        rewrite ⟨.wechat, .flatten⟩ rowsOfCells = .ok rewritten ∧
        watch ⟨.wechat, .flatten⟩ .inner [] rowsOfCells [] ⟨[], 0, []⟩ =
          .ok ((rewritten.tree, moments), state) ∧
        state.stack = [] ∧ moments.length = 2 ∧
        (∀ address, address ∈ moments.map Moment.address ↔ IsCandidate rowsOfCells address) := by
  have rewritable : Node.Everywhere Rewritable [rowsOfCells] := by
    unfold Node.Everywhere
    decide +kernel
  obtain ⟨rewritten, _, _, _, _, done, traces_eq, -⟩ := rewrite_rowsOfCells
  obtain ⟨moments, state, -, watchDone, closed, events_eq, -, all, -⟩ :=
    rewrite_accounts rewritable done
  refine ⟨rewritable, rewritten, moments, state, done, watchDone, closed, ?_, all⟩
  rw [(expand_of_rewrite done).2, traces_eq] at events_eq
  simpa [Trace.allEvents, Trace.events] using (congrArg List.length events_eq).symm

end LoopTemplate.Loop
