import LoopTemplate.Proofs.Files.Paths
import Mathlib.Logic.Relation

/-!
# Edits of file trees

Every change of a file tree is made of single edits: a directory is made where nothing stands, a
file is written where no directory stands, or a directory is removed with all below it.
`Steps Allowed` relates the trees before and after edits that are all allowed. What no allowed
edit touches stays as it is (`Steps.unchanged`), and what stands somewhere stays unless it is
removed or written over (`Steps.kept`).

Each change is described by the edits that it consists of, whether it succeeds or fails, and by what
holds after it succeeded.
-/

namespace LoopTemplate.Files

/-- A single edit of a tree. -/
inductive Edit where
  /-- A directory is made. -/
  | make (location : Location)
  /-- A file is written. -/
  | write (location : Location)
  /-- A directory is removed with all below it. -/
  | remove (location : Location)

/-- Whether an edit can change what stands at a location. -/
def Edit.Touches (location : Location) : Edit → Prop
  | make changed => changed = location
  | write changed => changed = location
  | remove changed => changed <+: location

/-- One edit that is allowed. -/
inductive Step (Allowed : Edit → Prop) (tree : FileTree) : FileTree → Prop where
  | make (location : Location) (allowed : Allowed (.make location))
      (free : tree.get? location = none) : Step Allowed tree (tree.insert location .directory)
  | write (location : Location) (content : String) (allowed : Allowed (.write location))
      (noDirectory : tree.get? location ≠ some .directory) :
      Step Allowed tree (tree.insert location (.text content))
  | remove (location : Location) (allowed : Allowed (.remove location))
      (directory : tree.get? location = some .directory) :
      Step Allowed tree (tree.eraseBelow location)

/-- Edits one after the other, all allowed. -/
abbrev Steps (Allowed : Edit → Prop) : FileTree → FileTree → Prop :=
  Relation.ReflTransGen (Step Allowed)

/-! ## What edits leave -/

section Steps

variable {Allowed Other : Edit → Prop} {before after : FileTree} {location : Location}

theorem Step.mono (allow : ∀ edit, Allowed edit → Other edit) (step : Step Allowed before after) :
    Step Other before after := by
  cases step with
  | make changed allowed free => exact .make changed (allow _ allowed) free
  | write changed content allowed noDirectory =>
      exact .write changed content (allow _ allowed) noDirectory
  | remove changed allowed directory => exact .remove changed (allow _ allowed) directory

theorem Steps.mono (steps : Steps Allowed before after)
    (allow : ∀ edit, Allowed edit → Other edit) : Steps Other before after :=
  Relation.ReflTransGen.mono (fun _ _ => Step.mono allow) _ _ steps

theorem Step.unchanged (step : Step Allowed before after)
    (untouched : ∀ edit, Allowed edit → ¬ edit.Touches location) :
    after.get? location = before.get? location := by
  by_cases root : location = []
  · rw [root, FileTree.get?_nil, FileTree.get?_nil]
  cases step with
  | make changed allowed free =>
      rw [FileTree.get?_insert _ _ _ _ root, if_neg fun same => untouched _ allowed same.symm]
  | write changed content allowed noDirectory =>
      rw [FileTree.get?_insert _ _ _ _ root, if_neg fun same => untouched _ allowed same.symm]
  | remove changed allowed directory =>
      have outside : ¬ changed <+: location := untouched _ allowed
      rw [FileTree.get?_eraseBelow _ _ _ root, if_neg (by simpa using outside)]

/-- What no allowed edit touches stays as it is. -/
theorem Steps.unchanged (steps : Steps Allowed before after)
    (untouched : ∀ edit, Allowed edit → ¬ edit.Touches location) :
    after.get? location = before.get? location := by
  induction steps with
  | refl => rfl
  | tail _ step ih => rw [step.unchanged untouched, ih]

theorem Step.kept {entry : Entry} (step : Step Allowed before after)
    (there : before.get? location = some entry)
    (notRemoved : ∀ changed, Allowed (.remove changed) → ¬ changed <+: location)
    (notWritten : entry = .directory ∨ ¬ Allowed (.write location)) :
    after.get? location = some entry := by
  by_cases root : location = []
  · rw [root, FileTree.get?_nil] at there ⊢
    exact there
  cases step with
  | make changed allowed free =>
      rw [FileTree.get?_insert _ _ _ _ root, if_neg, there]
      rintro rfl
      rw [free] at there
      cases there
  | write changed content allowed noDirectory =>
      rw [FileTree.get?_insert _ _ _ _ root, if_neg, there]
      rintro rfl
      rcases notWritten with rfl | forbidden
      · exact noDirectory there
      · exact forbidden allowed
  | remove changed allowed directory =>
      have outside : ¬ changed <+: location := notRemoved changed allowed
      rw [FileTree.get?_eraseBelow _ _ _ root, if_neg (by simpa using outside), there]

/-- What stands somewhere stays, unless it is removed or, being a file, written over. -/
theorem Steps.kept {entry : Entry} (steps : Steps Allowed before after)
    (there : before.get? location = some entry)
    (notRemoved : ∀ changed, Allowed (.remove changed) → ¬ changed <+: location)
    (notWritten : entry = .directory ∨ ¬ Allowed (.write location)) :
    after.get? location = some entry := by
  induction steps with
  | refl => exact there
  | tail _ step ih => exact step.kept ih notRemoved notWritten

theorem Step.kept_or_made (step : Step Allowed before after)
    (notRemoved : ∀ changed, Allowed (.remove changed) → ¬ changed <+: location)
    (notWritten : ¬ Allowed (.write location)) :
    after.get? location = before.get? location ∨
      before.get? location = none ∧ after.get? location = some .directory := by
  by_cases root : location = []
  · rw [root, FileTree.get?_nil, FileTree.get?_nil]
    exact .inl rfl
  cases step with
  | make changed allowed free =>
      rw [FileTree.get?_insert _ _ _ _ root]
      by_cases same : location = changed
      · rw [if_pos same, same]
        exact .inr ⟨free, rfl⟩
      · exact .inl (if_neg same)
  | write changed content allowed noDirectory =>
      rw [FileTree.get?_insert _ _ _ _ root, if_neg]
      · exact .inl rfl
      · rintro rfl
        exact notWritten allowed
  | remove changed allowed directory =>
      have outside : ¬ changed <+: location := notRemoved changed allowed
      rw [FileTree.get?_eraseBelow _ _ _ root, if_neg (by simpa using outside)]
      exact .inl rfl

/-- Where only directories are made, all stays, or there is a directory where nothing stood. -/
theorem Steps.kept_or_made (steps : Steps Allowed before after)
    (notRemoved : ∀ changed, Allowed (.remove changed) → ¬ changed <+: location)
    (notWritten : ¬ Allowed (.write location)) :
    after.get? location = before.get? location ∨
      before.get? location = none ∧ after.get? location = some .directory := by
  induction steps with
  | refl => exact .inl rfl
  | tail _ step ih =>
      rcases ih with same | ⟨start, made⟩
      · rw [← same]
        exact step.kept_or_made notRemoved notWritten
      · exact .inr ⟨start, step.kept made notRemoved (.inl rfl)⟩

end Steps

/-! ## Running changes -/

section Run

variable {ε σ α β : Type} {state after : σ}

theorem stateM_bind_of_eq {step : StateM σ α} {later : α → StateM σ β} {value : α}
    (done : step state = (value, after)) : (step >>= later) state = later value after := by
  change later (step state).1 (step state).2 = _
  rw [done]

variable {first : ExceptT ε (StateM σ) α} {later : α → ExceptT ε (StateM σ) β}
  {handle : ε → ExceptT ε (StateM σ) α} {value : α} {error : ε}

theorem run_bind_of_ok (done : first.run state = (.ok value, after)) :
    (first >>= later).run state = (later value).run after := by
  rw [ExceptT.run_bind, stateM_bind_of_eq done]

theorem run_bind_of_error (failed : first.run state = (.error error, after)) :
    (first >>= later).run state = (.error error, after) := by
  rw [ExceptT.run_bind, stateM_bind_of_eq failed]
  rfl

theorem run_tryCatch_of_ok (done : first.run state = (.ok value, after)) :
    (tryCatch first handle).run state = (.ok value, after) := by
  rw [ExceptT.run_tryCatch, stateM_bind_of_eq done]
  rfl

theorem run_tryCatch_of_error (failed : first.run state = (.error error, after)) :
    (tryCatch first handle).run state = (handle error).run after := by
  rw [ExceptT.run_tryCatch, stateM_bind_of_eq failed]

theorem run_get (state : σ) :
    (get : ExceptT ε (StateM σ) σ).run state = (.ok state, state) := rfl

end Run

/-! ## What is done to a tree -/

/-- What an action does from a state on, in which the given view finds a tree: it makes allowed
edits, if it succeeds, what was aimed at holds, and it fails only with the given faults. -/
structure Does {ε σ α : Type} (view : σ → FileTree) (state : σ) (action : ExceptT ε (StateM σ) α)
    (Allowed : Edit → Prop) (Aim : α → FileTree → Prop) (Fault : ε → Prop) : Prop where
  steps : Steps Allowed (view state) (view (action.run state).2)
  aim : ∀ value, (action.run state).1 = .ok value → Aim value (view (action.run state).2)
  fault : ∀ error, (action.run state).1 = .error error → Fault error

namespace Does

variable {ε σ α β : Type} {view : σ → FileTree} {state after : σ} {value : α} {error : ε}
  {action other : ExceptT ε (StateM σ) α} {later : α → ExceptT ε (StateM σ) β}
  {Allowed Further : Edit → Prop} {Aim Reached : α → FileTree → Prop} {Goal : β → FileTree → Prop}
  {Fault : ε → Prop}

theorem of_ok (done : action.run state = (.ok value, after))
    (steps : Steps Allowed (view state) (view after)) (aim : Aim value (view after)) :
    Does view state action Allowed Aim Fault := by
  constructor <;> rw [done]
  · exact steps
  · rintro found ⟨⟩
    exact aim
  · rintro error ⟨⟩

theorem of_error (failed : action.run state = (.error error, after))
    (steps : Steps Allowed (view state) (view after)) (fault : Fault error) :
    Does view state action Allowed Aim Fault := by
  constructor <;> rw [failed]
  · exact steps
  · rintro value ⟨⟩
  · rintro found ⟨⟩
    exact fault

theorem congr (does : Does view state other Allowed Aim Fault)
    (same : action.run state = other.run state) : Does view state action Allowed Aim Fault := by
  constructor <;> rw [same]
  · exact does.steps
  · exact does.aim
  · exact does.fault

theorem mono (does : Does view state action Allowed Aim Fault)
    (allow : ∀ edit, Allowed edit → Further edit)
    (reach : ∀ value tree, Aim value tree → Reached value tree) :
    Does view state action Further Reached Fault where
  steps := does.steps.mono allow
  aim value done := reach _ _ (does.aim value done)
  fault := does.fault

/-- One action behind another. -/
theorem next (first : Does view state action Allowed Aim Fault)
    (second : ∀ value after, Aim value (view after) →
      Does view after (later value) Allowed Goal Fault) :
    Does view state (action >>= later) Allowed Goal Fault := by
  obtain ⟨steps, aim, fault⟩ := first
  rcases outcome : action.run state with ⟨result, after⟩
  rw [outcome] at steps aim fault
  cases result with
  | error error => exact .of_error (run_bind_of_error outcome) steps (fault error rfl)
  | ok value =>
      obtain ⟨laterSteps, laterAim, laterFault⟩ := second value after (aim value rfl)
      have done : (action >>= later).run state = (later value).run after := run_bind_of_ok outcome
      constructor <;> rw [done]
      · exact steps.trans laterSteps
      · exact laterAim
      · exact laterFault

end Does

/-! ## Changes -/

namespace Change

open FileTree

section Cases

variable (names : List String) (tree : FileTree)

theorem walk_cases :
    (∃ error, (walk names).run tree = (.error error, tree)) ∨
      tree.Passable [] names ∧ (walk names).run tree = (.ok (follow [] names), tree) := by
  rw [walk, run_bind_of_ok (run_get tree)]
  cases walked : tree.walk [] names with
  | error error => exact .inl ⟨error, rfl⟩
  | ok location =>
      obtain ⟨passable, rfl⟩ := walk_eq_ok.1 walked
      exact .inr ⟨passable, rfl⟩

/-- Making a directory fails and changes nothing, or makes it where nothing stood. -/
theorem createDirectory_cases :
    (∃ error, (createDirectory names).run tree = (.error error, tree)) ∨
      tree.Passable [] names ∧ tree.get? (follow [] names) = none ∧
        (createDirectory names).run tree =
          (.ok (), tree.insert (follow [] names) .directory) := by
  rcases walk_cases names tree with ⟨error, failed⟩ | ⟨passable, walked⟩
  · exact .inl ⟨error, run_bind_of_error failed⟩
  · rw [createDirectory, run_bind_of_ok walked, run_bind_of_ok (run_get tree)]
    cases there : tree.get? (follow [] names) with
    | some entry => exact .inl ⟨.alreadyThere, rfl⟩
    | none => exact .inr ⟨passable, rfl, rfl⟩

theorem leadsToDirectory_cases :
    (leadsToDirectory names).run tree = (.ok false, tree) ∨
      tree.Passable [] names ∧ tree.get? (follow [] names) = some .directory ∧
        (leadsToDirectory names).run tree = (.ok true, tree) := by
  rw [leadsToDirectory, run_bind_of_ok (run_get tree)]
  cases walked : tree.walk [] names with
  | error error => exact .inl rfl
  | ok location =>
      obtain ⟨passable, rfl⟩ := walk_eq_ok.1 walked
      dsimp only
      by_cases directory : tree.get? (follow [] names) = some .directory
      · refine .inr ⟨passable, directory, ?_⟩
        rw [directory]
        rfl
      · refine .inl ?_
        have other : (tree.get? (follow [] names) == some .directory) = false := by
          simpa using directory
        simp only [other]
        rfl

/-- Making sure of a directory fails and changes nothing, finds it, or makes it where nothing
stood. -/
theorem ensureDirectory_cases :
    (∃ error, (ensureDirectory names).run tree = (.error error, tree)) ∨
      tree.Passable [] names ∧
        (tree.get? (follow [] names) = some .directory ∧
            (ensureDirectory names).run tree = (.ok (), tree) ∨
          tree.get? (follow [] names) = none ∧
            (ensureDirectory names).run tree =
              (.ok (), tree.insert (follow [] names) .directory)) := by
  rcases createDirectory_cases names tree with ⟨error, failed⟩ | ⟨passable, free, made⟩
  · rw [ensureDirectory, run_tryCatch_of_error failed]
    rcases leadsToDirectory_cases names tree with other | ⟨passable, directory, leads⟩
    · exact .inl ⟨error, run_bind_of_ok other⟩
    · exact .inr ⟨passable, .inl ⟨directory, run_bind_of_ok leads⟩⟩
  · rw [ensureDirectory, run_tryCatch_of_ok made]
    exact .inr ⟨passable, .inr ⟨free, rfl⟩⟩

/-- Writing a text fails and changes nothing, or writes it where no directory stands. -/
theorem writeText_cases (path content : String) :
    (∃ error, (writeText path content).run tree = (.error error, tree)) ∨
      tree.Passable [] (Files.names path) ∧ tree.get? (location path) ≠ some .directory ∧
        (writeText path content).run tree =
          (.ok (), tree.insert (location path) (.text content)) := by
  rcases walk_cases (Files.names path) tree with ⟨error, failed⟩ | ⟨passable, walked⟩
  · exact .inl ⟨error, run_bind_of_error failed⟩
  · rw [writeText, run_bind_of_ok walked, run_bind_of_ok (run_get tree), location]
    cases there : tree.get? (follow [] (Files.names path)) with
    | none => exact .inr ⟨passable, by simp, rfl⟩
    | some entry =>
        cases entry with
        | directory => exact .inl ⟨.isDirectory, rfl⟩
        | text old => exact .inr ⟨passable, by simp, rfl⟩
        | binary bytes => exact .inr ⟨passable, by simp, rfl⟩

/-- Removing a directory fails and changes nothing, or removes it with all below it. -/
theorem removeDirectory_cases (path : String) :
    (∃ error, (removeDirectory path).run tree = (.error error, tree)) ∨
      tree.get? (location path) = some .directory ∧
        (removeDirectory path).run tree = (.ok (), tree.eraseBelow (location path)) := by
  rcases walk_cases (Files.names path) tree with ⟨error, failed⟩ | ⟨passable, walked⟩
  · exact .inl ⟨error, run_bind_of_error failed⟩
  · rw [removeDirectory, run_bind_of_ok walked, run_bind_of_ok (run_get tree), location]
    cases there : tree.get? (follow [] (Files.names path)) with
    | none => exact .inl ⟨.notFound, rfl⟩
    | some entry =>
        cases entry with
        | directory => exact .inr ⟨rfl, rfl⟩
        | text old => exact .inl ⟨.notDirectory, rfl⟩
        | binary bytes => exact .inl ⟨.notDirectory, rfl⟩

end Cases

/-! ## Making directories -/

/-- The edits that make directories on the way of names. -/
def MakesOnWay (names : List String) : Edit → Prop
  | .make location => OnWay names location
  | _ => False

theorem MakesOnWay.mono {names further : List String} (within : names <+: further) (edit : Edit)
    (makes : MakesOnWay names edit) : MakesOnWay further edit := by
  cases edit with
  | make location => exact OnWay.mono makes within
  | write location => exact makes.elim
  | remove location => exact makes.elim

/-- What a change does from a tree on. -/
abbrev Does (tree : FileTree) (change : Change Unit) (Allowed : Edit → Prop)
    (Aim : FileTree → Prop) : Prop :=
  Files.Does id tree change Allowed (fun _ => Aim) fun _ => True

/-- Making sure of a directory makes at most this one; if it succeeds, the way to it is open. -/
theorem does_ensureDirectory (names : List String) (tree : FileTree) :
    Does tree (ensureDirectory names) (MakesOnWay names) (IsOpen names) := by
  rcases ensureDirectory_cases names tree with ⟨error, failed⟩ | ⟨passable, found | made⟩
  · exact .of_error failed .refl trivial
  · exact .of_ok found.2 .refl (isOpen_iff.2 ⟨passable, found.1⟩)
  · obtain ⟨free, run_eq⟩ := made
    have step : Step (MakesOnWay names) tree (tree.insert (follow [] names) .directory) :=
      .make _ ⟨names, List.prefix_rfl, rfl⟩ free
    have present : follow [] names ≠ [] := by
      intro root
      rw [root, get?_nil] at free
      cases free
    refine .of_ok run_eq (.single step) (isOpen_iff.2 ⟨?_, ?_⟩)
    · intro way within differs
      exact step.kept (passable way within differs) (fun _ => False.elim) (.inl rfl)
    · exact (get?_insert _ _ _ _ present).trans (if_pos rfl)

/-- Making directories upward makes them on the way; if it succeeds, the way is open. -/
theorem does_createUpward (reversed : List String) (tree : FileTree) :
    Does tree (createUpward reversed) (MakesOnWay reversed.reverse) (IsOpen reversed.reverse) := by
  induction reversed generalizing tree with
  | nil =>
      refine .of_ok rfl .refl ?_
      rintro location ⟨way, within, rfl⟩
      rw [List.prefix_nil.1 within]
      rfl
  | cons name above ih =>
      have longer : above.reverse <+: (name :: above).reverse := by
        rw [List.reverse_cons]
        exact List.prefix_append _ _
      rw [createUpward]
      by_cases self : isSelf name = true
      · rw [if_pos self]
        refine (ih tree).mono (MakesOnWay.mono longer) ?_
        intro _ after isOpen location onWay
        obtain ⟨way, within, rfl⟩ := onWay
        rw [List.reverse_cons] at within
        rcases List.prefix_concat_iff.1 within with rfl | shorter
        · rw [follow_concat, step_of_isSelf self]
          exact isOpen _ ⟨above.reverse, List.prefix_rfl, rfl⟩
        · exact isOpen _ ⟨way, shorter, rfl⟩
      · rw [if_neg self]
        have ensured := does_ensureDirectory (name :: above).reverse tree
        rcases outcome : (ensureDirectory (name :: above).reverse).run tree with ⟨result, after⟩
        cases result with
        | ok value =>
            exact ensured.congr ((run_tryCatch_of_ok outcome).trans outcome.symm)
        | error error =>
            -- A failure changed nothing, so making the directories above starts from the same tree.
            have unchanged : after = tree := by
              rcases ensureDirectory_cases (name :: above).reverse tree with
                ⟨other, failed⟩ | ⟨-, ⟨-, done⟩ | ⟨-, done⟩⟩
              · rw [outcome] at failed
                exact (Prod.mk.inj failed).2
              all_goals
                rw [outcome] at done
                cases (Prod.mk.inj done).1
            subst unchanged
            refine .congr ?_ (run_tryCatch_of_error outcome)
            cases error with
            | notFound =>
                refine ((ih after).mono (MakesOnWay.mono longer) fun _ _ isOpen => isOpen).next ?_
                exact fun _ between _ => does_ensureDirectory (name :: above).reverse between
            | _ => exact .of_error rfl .refl trivial

theorem does_createDirectories (path : String) (tree : FileTree) :
    Does tree (createDirectories path) (MakesOnWay (names path)) (IsOpen (names path)) := by
  have does := does_createUpward (names path).reverse tree
  rwa [List.reverse_reverse] at does

/-- The names that lead to the directory in which a path ends. -/
def parentNames (path : String) : List String :=
  ((names path).reverse.dropWhile isSelf).tail.reverse

theorem parentNames_within (path : String) : parentNames path <+: names path := by
  rw [← List.reverse_suffix, parentNames, List.reverse_reverse]
  exact (List.tail_suffix _).trans (List.dropWhile_suffix _)

theorem does_createParents (path : String) (tree : FileTree) :
    Does tree (createParents path) (MakesOnWay (names path)) (IsOpen (parentNames path)) :=
  (does_createUpward ((names path).reverse.dropWhile isSelf).tail tree).mono
    (MakesOnWay.mono (parentNames_within path)) fun _ _ isOpen => isOpen

end Change

end LoopTemplate.Files
