import LoopTemplate.Proofs.Addresses
import Mathlib.Data.List.Forall2
import Mathlib.Data.Set.Basic

/-!
# What a walk reports, and when

A watched walk is the walk that also notes, whenever something is reported, where that is and
which loops are open then. `Tells` says of a watched walk that it does what the walk does, and
that its notes account for every call of `map` between tags of a region, each once; what is done
one after the other in two regions accounts for both (`Tells.bind`).
-/

namespace LoopTemplate.Loop

open LoopTemplate.Tree (Address Form Node)

/-! ## Watched walks -/

/-- What was reported, where, and the loops that were open then, the innermost first. -/
structure Moment where
  address : Address
  stack : LoopStack
  event : Event

/-- A step of a walk that notes what is reported. -/
abbrev Watched := StateT (List Moment) Walk

/-- Takes a step at a place, and notes what it reports with the loops open before it. -/
def observe (address : Address) (step : Walk Unit) : Watched Unit := fun moments state =>
  match step state with
  | .ok (_, after) =>
      let reported := after.events.drop state.events.length
      .ok (((), moments ++ reported.map (Moment.mk address state.stack)), after)
  | .error error => .error error

mutual

/-- Rewrites the lists in a node at an address, and notes what is reported. -/
def watch (rules : RewriteRules) (place : Place) (address : Address) : Node → Watched Node
  | .mk start .container [value] =>
      match place, iteration? value with
      | .child, some iteration => watchList rules iteration start address (address ++ [0]) value
      | .child, none => do
          if isMapCall value then observe address (emit (.skipped start))
          return .mk start .container [← watch rules .inner (address ++ [0]) value]
      | .inner, _ => return .mk start .container [← watch rules .inner (address ++ [0]) value]
  | .mk start .element (opening :: children) => do
      let opening ← watch rules .inner (address ++ [0]) opening
      let children ← watchAll rules .child address 1 children
      return .mk start .element (opening :: children)
  | .mk start .fragment children =>
      return .mk start .fragment (← watchAll rules .child address 0 children)
  | .mk start form parts => return .mk start form (← watchAll rules .inner address 0 parts)

/-- Rewrites the lists in the parts of a node from a position on. -/
def watchAll (rules : RewriteRules) (place : Place) (address : Address) (position : Nat) :
    List Node → Watched (List Node)
  | [] => return []
  | node :: nodes => do
      let node ← watch rules place (address ++ [position]) node
      return node :: (← watchAll rules place address (position + 1) nodes)

/-- The loop that replaces the mapped list in the braces at an address. -/
def watchList (rules : RewriteRules) (iteration : Iteration) (offset : Nat) (braces : Address)
    (address : Address) : Node → Watched Node
  | .mk _ .parenthesized [inner] =>
      watchList rules iteration offset braces (address ++ [0]) inner
  | .mk start (.call optional pure closing) [callee, argument] => do
      let parameters ← spellCallback iteration offset argument
      let callee ← watchCallee rules (address ++ [0]) callee
      let rewritten ← watchCallback rules iteration offset parameters (address ++ [1]) argument
      observe braces (reportLoop rewritten.frame)
      let call := Node.mk start (.call optional pure closing) [callee, rewritten.callback]
      loopWrapper rules.adapter rewritten.frame.item rewritten.frame.index call rewritten.markup
  | _ => throw (.missingReturn offset)

/-- Rewrites the lists in the collection of a mapped list. -/
def watchCallee (rules : RewriteRules) (address : Address) : Node → Watched Node
  | .mk start .parenthesized [inner] =>
      return .mk start .parenthesized [← watchCallee rules (address ++ [0]) inner]
  | .mk start (.member name optional) [object] =>
      return .mk start (.member name optional) [← watch rules .inner (address ++ [0]) object]
  | node => return node

/-- Gives a callback its parameters and rewrites the lists in its body. -/
def watchCallback (rules : RewriteRules) (iteration : Iteration) (offset : Nat) (parameters : Node)
    (address : Address) : Node → Watched RewrittenCallback
  | .mk start (.arrow head) [_, body] => do
      let (outer, depth) ← openLoop (loopOf iteration body)
      let body ← watch rules .inner (address ++ [1]) body
      finishCallback rules offset depth outer body fun body =>
        .mk start (.arrow head) [parameters, body]
  | .mk start (.function head) [name, _, body] => do
      let (outer, depth) ← openLoop (loopOf iteration body)
      let body ← watch rules .inner (address ++ [2]) body
      finishCallback rules offset depth outer body fun body =>
        .mk start (.function head) [name, parameters, body]
  | _ => throw (.missingReturn offset)

end

/-! ## Lists and their callbacks -/

section Shape

variable {rules : RewriteRules} {iteration : Iteration} {offset : Nat} {value callee : Node}
  {parameters body : Node}

theorem walkList_of_shape {mapping : Mapping}
    (shape : value.withoutParentheses = mapping.call callee parameters body) :
    walkList rules iteration offset value = (do
      let spelled ← spellParameters iteration parameters
      let callee ← walkCallee rules callee
      let rewritten ← walkCallback rules iteration offset spelled
        (mapping.callback parameters body)
      reportLoop rewritten.frame
      let call := Node.mk mapping.start (.call mapping.optional mapping.pure mapping.closing)
        [callee, rewritten.callback]
      loopWrapper rules.adapter rewritten.frame.item rewritten.frame.index call
        rewritten.markup) := by
  fun_induction Node.withoutParentheses value with
  | case1 start inner ih => rw [walkList, ih shape]
  | case2 node other =>
      subst shape
      simp only [Mapping.call, walkList, Mapping.spellCallback_callback]

theorem watchList_of_shape {mapping : Mapping} (braces address : Address)
    (shape : value.withoutParentheses = mapping.call callee parameters body) :
    watchList rules iteration offset braces address value = (do
      let spelled ← spellParameters iteration parameters
      let callee ← watchCallee rules (address ++ calleeAddress value) callee
      let rewritten ← watchCallback rules iteration offset spelled
        (address ++ (List.replicate value.parentheses 0 ++ [1])) (mapping.callback parameters body)
      observe braces (reportLoop rewritten.frame)
      let call := Node.mk mapping.start (.call mapping.optional mapping.pure mapping.closing)
        [callee, rewritten.callback]
      loopWrapper rules.adapter rewritten.frame.item rewritten.frame.index call
        rewritten.markup) := by
  fun_induction Node.withoutParentheses value generalizing address with
  | case1 start inner ih =>
      rw [watchList, ih (address ++ [0]) shape]
      simp only [calleeAddress, Node.parentheses, List.replicate_succ, List.append_assoc,
        List.cons_append, List.nil_append]
  | case2 node other =>
      subst shape
      simp only [Mapping.call, watchList, calleeAddress, Node.parentheses, List.replicate_zero,
        List.nil_append, Mapping.spellCallback_callback]

theorem walkCallback_callback (mapping : Mapping) (spelled parameters body : Node) :
    walkCallback rules iteration offset spelled (mapping.callback parameters body) = (do
      let (outer, depth) ← openLoop (loopOf iteration body)
      let body ← walk rules .inner body
      finishCallback rules offset depth outer body (mapping.callback spelled)) := by
  obtain ⟨start, optional, pure, closing, callbackStart, form, lead, callable⟩ := mapping
  cases callable with
  | arrow head sync =>
      simp only [Mapping.callback, List.nil_append, walkCallback]
      rfl
  | function head name sync single =>
      simp only [Mapping.callback, List.cons_append, List.nil_append, walkCallback]
      rfl

theorem watchCallback_callback (mapping : Mapping) (address : Address)
    (spelled parameters body : Node) :
    watchCallback rules iteration offset spelled address (mapping.callback parameters body) = (do
      let (outer, depth) ← openLoop (loopOf iteration body)
      let body ← watch rules .inner (address ++ [mapping.lead.length + 1]) body
      finishCallback rules offset depth outer body (mapping.callback spelled)) := by
  obtain ⟨start, optional, pure, closing, callbackStart, form, lead, callable⟩ := mapping
  cases callable with
  | arrow head sync =>
      simp only [Mapping.callback, List.nil_append, watchCallback]
      rfl
  | function head name sync single =>
      simp only [Mapping.callback, List.cons_append, List.nil_append, watchCallback]
      rfl

end Shape

/-! ## Accounts -/

/-- The mapped lists whose callbacks hold an address in their bodies, the outermost first. -/
structure EnclosedBy (tree : Node) (address : Address) (lists : List Address) : Prop where
  outermostFirst : lists.Pairwise fun outer inner => outer <+: inner ∧ outer ≠ inner
  exact : ∀ list, list ∈ lists ↔ HoldsInBody tree list address

/-- Whether the loop of the mapped list at an address binds just the given names: its item, its
index, and what the body of its callback declares at its top level. -/
def Binds (tree : Node) (list : Address) (names : List String) : Prop :=
  ∃ value iteration body, ListAt tree list value iteration ∧
    value.at? (bodyAddress value) = some body ∧
    names = iteration.itemName :: iteration.indexName :: declaredNames body

/-- Whether scopes, the nearest first, are those of the lists that hold an address in their
bodies. -/
def Mirrors (tree : Node) (address : Address) (scopes : List (List String)) : Prop :=
  ∃ lists, EnclosedBy tree address lists ∧ List.Forall₂ (Binds tree) lists scopes.reverse

/-- What is to be reported of braces around a call of `map`, with a number of loops open. -/
def Reports (start : Nat) (value : Node) (depth : Nat) (event : Event) : Prop :=
  match iteration? value with
  | some iteration => ∃ captures,
      event = .rewrote iteration.itemName iteration.indexName captures depth
  | none => event = .skipped start

/-- Whether at a moment just that was reported which is to be reported of the call of `map` there,
while the loops of the lists around it were open. -/
def Accounted (tree : Node) (moment : Moment) : Prop :=
  ∃ start value lists, Braces tree moment.address start value ∧ isMapCall value = true ∧
    EnclosedBy tree moment.address lists ∧
    List.Forall₂ (Binds tree) lists (moment.stack.reverse.map Frame.bindings) ∧
    Reports start value lists.length moment.event

/-- Whether a list was rewritten at a moment. -/
def Moment.isRewrite (moment : Moment) : Bool :=
  match moment.event with
  | .rewrote _ _ _ _ => true
  | _ => false

/-- Moments that account for the calls of `map` between tags in a region, each once, and for a list
after all that is in it. -/
structure Accounts (tree : Node) (region : Set Address) (moments : List Moment) : Prop where
  each : ∀ moment ∈ moments, moment.address ∈ region ∧ Accounted tree moment
  all : ∀ address ∈ region, IsCandidate tree address →
    ∃ moment ∈ moments, moment.address = address
  innerFirst : moments.Pairwise fun earlier later => earlier.address ≠ later.address ∧
    (earlier.isRewrite = true → ¬ earlier.address <+: later.address)

namespace Accounts

variable {tree : Node} {region other : Set Address} {before after moments : List Moment}

theorem nil (tree : Node) : Accounts tree ∅ [] where
  each := by simp
  all := by simp
  innerFirst := .nil

theorem append (first : Accounts tree region before) (second : Accounts tree other after)
    (apart : ∀ moment, moment.address ∈ region → Accounted tree moment → ∀ address ∈ other,
      moment.address ≠ address ∧
        (moment.isRewrite = true → ¬ moment.address <+: address)) :
    Accounts tree (region ∪ other) (before ++ after) where
  each := by
    intro moment member
    rcases List.mem_append.1 member with early | late
    · exact (first.each moment early).imp_left .inl
    · exact (second.each moment late).imp_left .inr
  all := by
    rintro address (inFirst | inSecond) candidate
    · obtain ⟨moment, member, same⟩ := first.all address inFirst candidate
      exact ⟨moment, List.mem_append_left _ member, same⟩
    · obtain ⟨moment, member, same⟩ := second.all address inSecond candidate
      exact ⟨moment, List.mem_append_right _ member, same⟩
  innerFirst := by
    apply List.pairwise_append.2
    refine ⟨first.innerFirst, second.innerFirst, ?_⟩
    intro earlier early later late
    obtain ⟨inFirst, accounted⟩ := first.each earlier early
    exact apart earlier inFirst accounted later.address (second.each later late).1

/-- A region may be widened by what holds no call of `map` between tags. -/
theorem widen (accounts : Accounts tree region moments) (sub : region ⊆ other)
    (rest : ∀ address ∈ other, IsCandidate tree address → address ∈ region) :
    Accounts tree other moments where
  each := by
    intro moment member
    exact (accounts.each moment member).imp_left (@sub _)
  all := by
    intro address inOther candidate
    exact accounts.all address (rest address inOther candidate) candidate
  innerFirst := accounts.innerFirst

end Accounts

/-! ## Telling -/

/-- What the moments noted during a step have to do with the states before and after it. -/
structure Told (tree : Node) (region : Set Address) (state after : WalkState)
    (moments : List Moment) : Prop where
  scopes : after.stack.map Frame.bindings = state.stack.map Frame.bindings
  events : after.events = state.events ++ moments.map Moment.event
  count : after.count = state.count + moments.countP Moment.isRewrite
  accounts : Accounts tree region moments

/-- Whether a watched step does what a step does, under loops that bind the given names, and notes
moments that account for a region. -/
def Tells {α : Type} (tree : Node) (region : Set Address) (scopes : List (List String))
    (watched : Watched α) (step : Walk α) : Prop :=
  ∀ noted state value after, state.stack.map Frame.bindings = scopes →
    step state = .ok (value, after) →
      ∃ moments, watched noted state = .ok ((value, noted ++ moments), after) ∧
        Told tree region state after moments

theorem Walk.bind_eq_ok {α β : Type} {step : Walk α} {later : α → Walk β} {state after : WalkState}
    {result : β} (done : (step >>= later) state = .ok (result, after)) :
    ∃ value between, step state = .ok (value, between) ∧
      later value between = .ok (result, after) := by
  change (step state).bind (fun found => later found.1 found.2) = _ at done
  cases first : step state with
  | error error =>
      rw [first] at done
      cases done
  | ok found =>
      rw [first] at done
      exact ⟨found.1, found.2, rfl, done⟩

theorem Watched.bind_of_ok {α β : Type} {watched : Watched α} {later : α → Watched β}
    {noted more : List Moment} {state after : WalkState} {value : α}
    (done : watched noted state = .ok ((value, more), after)) :
    (watched >>= later) noted state = later value more after := by
  change (watched noted >>= fun found => later found.1 found.2) state = _
  rw [Walk.bind_of_ok done]

theorem Watched.lift_of_ok {α : Type} {step : Walk α} {state after : WalkState} {value : α}
    (done : step state = .ok (value, after)) (noted : List Moment) :
    (liftM step : Watched α) noted state = .ok ((value, noted), after) := by
  change (step >>= fun value => Pure.pure (value, noted)) state = _
  rw [Walk.bind_of_ok done]
  rfl

namespace Tells

variable {α β : Type} {tree : Node} {region other : Set Address} {scopes : List (List String)}
  {watched : Watched α} {step : Walk α}

theorem pure (value : α) : Tells tree ∅ scopes (Pure.pure value) (Pure.pure value) := by
  intro noted state found after open_eq done
  cases done
  refine ⟨[], ?_, rfl, by simp, by simp, .nil tree⟩
  rw [List.append_nil]
  rfl

/-- What is done in two regions one after the other accounts for both. -/
theorem bind {later : α → Walk β} {laterWatched : α → Watched β}
    (first : Tells tree region scopes watched step)
    (apart : ∀ moment, moment.address ∈ region → Accounted tree moment → ∀ address ∈ other,
      moment.address ≠ address ∧ (moment.isRewrite = true → ¬ moment.address <+: address))
    (second : ∀ value, (∃ state after, step state = .ok (value, after)) →
      Tells tree other scopes (laterWatched value) (later value)) :
    Tells tree (region ∪ other) scopes (watched >>= laterWatched) (step >>= later) := by
  intro noted state result after open_eq done
  obtain ⟨value, between, firstDone, laterDone⟩ := Walk.bind_eq_ok done
  obtain ⟨before, watchedDone, told⟩ := first noted state value between open_eq firstDone
  obtain ⟨moments, laterWatchedDone, laterTold⟩ := second value ⟨state, between, firstDone⟩
    (noted ++ before) between result after (told.scopes.trans open_eq) laterDone
  refine ⟨before ++ moments, ?_, ?_, ?_, ?_, ?_⟩
  · rw [Watched.bind_of_ok watchedDone, laterWatchedDone, List.append_assoc]
  · rw [laterTold.scopes, told.scopes]
  · rw [laterTold.events, told.events, List.map_append, List.append_assoc]
  · rw [laterTold.count, told.count, List.countP_append, Nat.add_assoc]
  · exact told.accounts.append laterTold.accounts apart

theorem widen (tells : Tells tree region scopes watched step) (sub : region ⊆ other)
    (rest : ∀ address ∈ other, IsCandidate tree address → address ∈ region) :
    Tells tree other scopes watched step := by
  intro noted state value after open_eq done
  obtain ⟨moments, watchedDone, told⟩ := tells noted state value after open_eq done
  exact ⟨moments, watchedDone, told.scopes, told.events, told.count, told.accounts.widen sub rest⟩

/-- What reports nothing may be done last. -/
theorem thenSilent {later : α → Walk β} {laterWatched : α → Watched β}
    (tells : Tells tree region scopes watched step)
    (silent : ∀ value, Tells tree ∅ scopes (laterWatched value) (later value)) :
    Tells tree region scopes (watched >>= laterWatched) (step >>= later) := by
  have both := tells.bind (by simp) fun value _ => silent value
  rwa [Set.union_empty] at both

/-- What reports nothing may be done first. -/
theorem afterSilent {later : α → Walk β} {laterWatched : α → Watched β}
    (silent : Tells tree ∅ scopes watched step)
    (tells : ∀ value, Tells tree region scopes (laterWatched value) (later value)) :
    Tells tree region scopes (watched >>= laterWatched) (step >>= later) := by
  have both := silent.bind (by simp) fun value _ => tells value
  rwa [Set.empty_union] at both

theorem map (tells : Tells tree region scopes watched step) (finish : α → β) :
    Tells tree region scopes (watched >>= fun value => Pure.pure (finish value))
      (step >>= fun value => Pure.pure (finish value)) :=
  tells.thenSilent fun value => Tells.pure (finish value)

/-- A step that cannot be seen in the state reports nothing. -/
theorem ofExcept (outcome : Except RewriteError α) :
    Tells tree ∅ scopes (liftM outcome : Watched α) (liftM outcome : Walk α) := by
  intro noted state value after open_eq done
  cases outcome with
  | error error => cases done
  | ok found =>
      cases done
      refine ⟨[], ?_, rfl, by simp, by simp, .nil tree⟩
      rw [List.append_nil]
      rfl

end Tells

/-! ## Single reports -/

/-- One report accounts for the place where it is made. -/
theorem Accounts.single {tree : Node} {moment : Moment} (accounted : Accounted tree moment) :
    Accounts tree {moment.address} [moment] where
  each := by
    intro other member
    rw [List.mem_singleton.1 member]
    exact ⟨rfl, accounted⟩
  all := by
    intro address inside _
    exact ⟨moment, List.mem_singleton_self _, inside.symm⟩
  innerFirst := List.pairwise_singleton _ _

theorem observe_of_report {address : Address} {step : Walk Unit} {state after : WalkState}
    {event : Event} (done : step state = .ok ((), after))
    (reported : after.events = state.events ++ [event]) (noted : List Moment) :
    observe address step noted state =
      .ok (((), noted ++ [⟨address, state.stack, event⟩]), after) := by
  simp only [observe, done, reported, List.drop_left, List.map_cons, List.map_nil]

/-- Reporting a finished loop changes no names that the open loops bind. -/
theorem LoopStack.map_bindings_report (stack : LoopStack) (finished : Frame) :
    (LoopStack.report stack finished).map Frame.bindings = stack.map Frame.bindings := by
  cases stack <;> rfl

section Report

variable {tree value : Node} {address : Address} {start : Nat} {scopes : List (List String)}
  {state : WalkState}

/-- What is reported of a call of `map` while the loops around it are open accounts for it. -/
theorem accounted_of_mirrors (braces : Braces tree address start value)
    (called : isMapCall value = true) (mirrors : Mirrors tree address scopes)
    (open_eq : state.stack.map Frame.bindings = scopes) {event : Event}
    (reports : Reports start value (LoopStack.depth state.stack) event) :
    Accounted tree ⟨address, state.stack, event⟩ := by
  obtain ⟨lists, enclosed, bound⟩ := mirrors
  rw [← open_eq, ← List.map_reverse] at bound
  refine ⟨start, value, lists, braces, called, enclosed, bound, ?_⟩
  have deep : lists.length = LoopStack.depth state.stack := by
    simpa [LoopStack.depth] using bound.length_eq
  rwa [deep]

/-- Leaving a call of `map` as it is is reported. -/
theorem tells_skipped (braces : Braces tree address start value) (called : isMapCall value = true)
    (unmatched : iteration? value = none) (mirrors : Mirrors tree address scopes) :
    Tells tree {address} scopes (observe address (emit (.skipped start)))
      (emit (.skipped start)) := by
  intro noted state _ after open_eq done
  cases done
  have accounted : Accounted tree ⟨address, state.stack, .skipped start⟩ :=
    accounted_of_mirrors braces called mirrors open_eq (by simp [Reports, unmatched])
  exact ⟨_, observe_of_report rfl rfl noted, rfl, rfl, rfl, .single accounted⟩

/-- The rewriting of a list is reported, while the loops around it are open. -/
theorem tells_rewrote {iteration : Iteration} {frame : Frame}
    (braces : Braces tree address start value) (matched : iteration? value = some iteration)
    (mirrors : Mirrors tree address scopes) (item_eq : frame.item = iteration.itemName)
    (index_eq : frame.index = iteration.indexName) :
    Tells tree {address} scopes (observe address (reportLoop frame)) (reportLoop frame) := by
  intro noted state _ after open_eq done
  cases done
  have accounted : Accounted tree ⟨address, state.stack,
      .rewrote frame.item frame.index frame.captures (LoopStack.depth state.stack)⟩ := by
    apply accounted_of_mirrors braces (isMapCall_of_iteration? matched) mirrors open_eq
    rw [Reports, matched, item_eq, index_eq]
    exact ⟨frame.captures, rfl⟩
  exact ⟨_, observe_of_report rfl rfl noted, LoopStack.map_bindings_report _ _, rfl, rfl,
    .single accounted⟩

end Report

/-- A loop that is opened for a callback is closed again: what is reported in the body is all that
the callback reports, and the loops around it are open as before. -/
theorem tells_callback {tree : Node} {region : Set Address} {scopes : List (List String)}
    {rules : RewriteRules} {iteration : Iteration} {offset : Nat} {body : Node}
    {rebuild : Node → Node} {watchedBody : Watched Node}
    (bodyTells : Tells tree region ((loopOf iteration body).bindings :: scopes) watchedBody
      (walk rules .inner body)) :
    Tells tree region scopes
      (do
        let (outer, depth) ← openLoop (loopOf iteration body)
        let body ← watchedBody
        finishCallback rules offset depth outer body rebuild)
      (do
        let (outer, depth) ← openLoop (loopOf iteration body)
        let body ← walk rules .inner body
        finishCallback rules offset depth outer body rebuild) := by
  intro noted state rewritten after open_eq done
  have opened : openLoop (loopOf iteration body) state =
      .ok ((LoopStack.bindings state.stack, LoopStack.depth state.stack),
        { state with stack := loopOf iteration body :: state.stack }) := rfl
  rw [Walk.bind_of_ok opened] at done
  obtain ⟨walked, between, bodyDone, finishing⟩ := Walk.bind_eq_ok done
  obtain ⟨moments, watchedDone, told⟩ :=
    bodyTells noted _ walked between (by simp [open_eq]) bodyDone
  -- The loop on top is the one that was opened, so closing it leaves those around it.
  obtain ⟨stack, count, events⟩ := between
  cases stack with
  | nil => simpa using told.scopes
  | cons frame outer =>
      have scopes_eq : outer.map Frame.bindings = state.stack.map Frame.bindings :=
        (List.cons.inj told.scopes).2
      have depth_eq : LoopStack.depth outer = LoopStack.depth state.stack := by
        simpa [LoopStack.depth] using congrArg List.length scopes_eq
      have closing := finishCallback_eq rules offset (LoopStack.bindings state.stack) walked
        rebuild frame ⟨outer, count, events⟩
      dsimp only at closing finishing
      rw [depth_eq] at closing
      obtain ⟨_, same⟩ : ∃ callback, Except.ok (rewritten, after) =
          (Except.ok (callback, ⟨outer, count, events⟩) :
            Except RewriteError (RewrittenCallback × WalkState)) := by
        rw [← finishing, closing]
        cases completed : completeCallback rules offset frame (LoopStack.bindings state.stack)
            walked rebuild with
        | error error =>
            rw [finishing, completed] at closing
            cases closing
        | ok callback => exact ⟨callback, rfl⟩
      cases same
      refine ⟨moments, ?_, scopes_eq, told.events, told.count, told.accounts⟩
      rw [Watched.bind_of_ok (Watched.lift_of_ok opened noted)]
      dsimp only
      rw [Watched.bind_of_ok watchedDone]
      exact Watched.lift_of_ok finishing _

end LoopTemplate.Loop
