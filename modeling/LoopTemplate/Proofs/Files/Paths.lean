import LoopTemplate.Files.Tree
import Mathlib.Data.List.Infix

/-!
# Where paths lead

A path leads to one location, whatever stands on the way (`location`). To follow it, all on the way
have to be directories (`FileTree.Passable`): a walk succeeds in this case and ends at the location
(`FileTree.walk_eq_ok`). A path without `..` leads down from where it starts (`follow_of_down`).
-/

namespace LoopTemplate.Text

/-- The pieces on both sides of a separator. -/
theorem pieces_append (separator : Char) (before after : List Char) :
    pieces separator (before ++ separator :: after) =
      pieces separator before ++ pieces separator after := by
  induction before with
  | nil => exact pieces_separator separator after
  | cons c before ih =>
      by_cases same : c = separator
      · rw [same, List.cons_append, pieces_separator, pieces_separator, ih, List.cons_append]
      · obtain ⟨piece, rest, found⟩ := List.exists_cons_of_ne_nil (pieces_ne_nil separator before)
        rw [List.cons_append, pieces, pieces, if_neg same, if_neg same, ih, found]
        rfl

/-- A text without separators is one piece. -/
theorem pieces_of_not_mem {separator : Char} {chars : List Char} (clear : separator ∉ chars) :
    pieces separator chars = [chars] := by
  induction chars with
  | nil => rfl
  | cons c chars ih =>
      obtain ⟨differs, rest⟩ := not_or.1 (List.mem_cons.not.1 clear)
      rw [pieces, if_neg (Ne.symm differs), ih rest]

end LoopTemplate.Text

namespace LoopTemplate.Files

/-! ## Names of paths -/

theorem names_ne_nil (path : String) : names path ≠ [] := by
  simpa [names] using Text.pieces_ne_nil '/' path.toList

theorem names_slash (path below : String) :
    names (path ++ "/" ++ below) = names path ++ names below := by
  have chars : (path ++ "/" ++ below).toList = path.toList ++ '/' :: below.toList := by simp
  rw [names, chars, Text.pieces_append, List.map_append]
  rfl

theorem names_of_not_mem {name : String} (clear : '/' ∉ name.toList) : names name = [name] := by
  rw [names, Text.pieces_of_not_mem clear, List.map_singleton, String.ofList_toList]

theorem ofNames_cons_cons (name next : String) (rest : List String) :
    ofNames (name :: next :: rest) = name ++ "/" ++ ofNames (next :: rest) := by
  apply String.toList_injective
  simp [ofNames, String.toList_intercalate, List.intercalate]

/-- Names without slashes are the names of the path that they make. -/
theorem names_ofNames {parts : List String} (present : parts ≠ [])
    (clear : ∀ name ∈ parts, '/' ∉ name.toList) : names (ofNames parts) = parts := by
  induction parts with
  | nil => exact absurd rfl present
  | cons name parts ih =>
      obtain ⟨nameClear, partsClear⟩ := List.forall_mem_cons.1 clear
      cases parts with
      | nil => exact names_of_not_mem nameClear
      | cons next rest =>
          rw [ofNames_cons_cons, names_slash, names_of_not_mem nameClear,
            ih (List.cons_ne_nil _ _) partsClear]
          rfl

/-- A path without backslashes is left as it is. -/
theorem withSlashes_ofNames {parts : List String} (clear : ∀ name ∈ parts, '\\' ∉ name.toList) :
    withSlashes (ofNames parts) = ofNames parts := by
  have unchanged : ∀ text : String, '\\' ∉ text.toList → withSlashes text = text := by
    intro text clear
    apply String.toList_injective
    rw [withSlashes, String.toList_ofList]
    have same : ∀ c ∈ text.toList, (if c = '\\' then '/' else c) = id c := by
      intro c member
      refine if_neg ?_
      rintro rfl
      exact clear member
    rw [List.map_congr_left same, List.map_id]
  apply unchanged
  induction parts with
  | nil => decide
  | cons name parts ih =>
      obtain ⟨nameClear, partsClear⟩ := List.forall_mem_cons.1 clear
      cases parts with
      | nil => exact nameClear
      | cons next rest =>
          rw [ofNames_cons_cons, String.toList_append, String.toList_append, List.mem_append,
            List.mem_append]
          rintro ((inName | isSlash) | inRest)
          · exact nameClear inName
          · exact absurd isSlash (by decide)
          · exact ih partsClear inRest

theorem ofNames_append_cons (start name : String) (rest : List String) :
    ofNames ((start ++ name) :: rest) = start ++ ofNames (name :: rest) := by
  cases rest with
  | nil => rfl
  | cons next rest =>
      rw [ofNames_cons_cons, ofNames_cons_cons, String.append_assoc, String.append_assoc,
        String.append_assoc]

/-- A path is made of its names, so different paths have different names. -/
theorem ofNames_names (path : String) : ofNames (names path) = path := by
  have joined : ∀ chars : List Char,
      ofNames ((Text.pieces '/' chars).map String.ofList) = String.ofList chars := by
    intro chars
    induction chars with
    | nil => rfl
    | cons c chars ih =>
        obtain ⟨piece, rest, found⟩ := List.exists_cons_of_ne_nil (Text.pieces_ne_nil '/' chars)
        rw [found, List.map_cons] at ih
        have start : ∀ chars, String.ofList (c :: chars) =
            String.ofList [c] ++ String.ofList chars := by
          intro chars
          rw [← String.ofList_append, List.singleton_append]
        by_cases slash : c = '/'
        · rw [slash, Text.pieces_separator, found, List.map_cons, List.map_cons, ofNames_cons_cons,
            ih, ← slash, start, slash]
          exact congrArg (· ++ String.ofList chars) String.empty_append
        · rw [Text.pieces, if_neg slash, found, start, ← ih, ← ofNames_append_cons, ← start]
          rfl
  rw [names, joined, String.ofList_toList]

/-- The names of a path below another one are the names of both. -/
theorem names_join {path below : String} (present : path.isEmpty = false)
    (unfinished : endsInSlash path = false) (relative : isAbsolute below = false) :
    names (join path below) = names path ++ names below := by
  simp only [join, relative, present, unfinished, Bool.or_self, Bool.false_eq_true, if_false]
  exact names_slash path below

/-- A name is the last one of a path that ends in it. -/
theorem exists_names_join (path : String) {name : String} (clear : '/' ∉ name.toList) :
    ∃ ways, names (join path name) = ways ++ [name] := by
  have relative : isAbsolute name = false := by
    unfold isAbsolute
    split
    case h_1 chars_eq => simp [chars_eq] at clear
    case h_2 => rfl
  by_cases unfinished : endsInSlash path = true
  · obtain ⟨start, chars_eq⟩ := List.getLast?_eq_some_iff.1 (eq_of_beq unfinished)
    have joined : join path name = String.ofList start ++ "/" ++ name := by
      apply String.toList_injective
      simp [join, relative, unfinished, chars_eq]
    exact ⟨_, by rw [joined, names_slash, names_of_not_mem clear]⟩
  · by_cases empty : path.isEmpty = true
    · have joined : join path name = name := by
        rw [join, relative, empty, String.isEmpty_iff.1 empty]
        exact String.empty_append
      exact ⟨[], by rw [joined, names_of_not_mem clear]; rfl⟩
    · rw [Bool.not_eq_true] at unfinished empty
      exact ⟨_, by rw [names_join empty unfinished relative, names_of_not_mem clear]⟩

/-- A path that ends in a name ends in no slash. -/
theorem endsInSlash_join (path : String) {name : String} (present : name ≠ "")
    (clear : '/' ∉ name.toList) : endsInSlash (join path name) = false := by
  have chars : name.toList ≠ [] := by simpa using present
  have last : ∀ start : List Char, (start ++ name.toList).getLast? ≠ some '/' := by
    intro start found
    rw [List.getLast?_append_of_ne_nil _ chars] at found
    exact clear (List.mem_of_getLast? found)
  unfold endsInSlash join
  split_ifs <;> simp only [String.toList_append, beq_eq_false_iff_ne]
  · exact last []
  · exact last _
  · exact last _

/-! ## Following names -/

/-- The location that names lead to from another one. -/
def follow (location : Location) (names : List String) : Location :=
  names.foldl FileTree.step location

/-- The location that a path leads to. -/
def location (path : String) : Location := follow [] (names path)

@[simp] theorem follow_nil (location : Location) : follow location [] = location := rfl

theorem follow_cons (location : Location) (name : String) (names : List String) :
    follow location (name :: names) = follow (FileTree.step location name) names := rfl

theorem follow_append (location : Location) (names further : List String) :
    follow location (names ++ further) = follow (follow location names) further :=
  List.foldl_append

theorem follow_concat (location : Location) (names : List String) (name : String) :
    follow location (names ++ [name]) = FileTree.step (follow location names) name :=
  follow_append location names [name]

theorem step_of_isSelf {name : String} (self : isSelf name = true) (location : Location) :
    FileTree.step location name = location := by
  rw [FileTree.step, if_pos self]

/-- Names other than `..` lead down. -/
theorem follow_of_down {names : List String} (down : ".." ∉ names) (location : Location) :
    follow location names = location ++ names.filter fun name => !isSelf name := by
  induction names generalizing location with
  | nil => exact (List.append_nil location).symm
  | cons name names ih =>
      obtain ⟨differs, rest⟩ := not_or.1 (List.mem_cons.not.1 down)
      rw [follow_cons, ih rest]
      by_cases self : isSelf name = true
      · rw [step_of_isSelf self, List.filter_cons_of_neg (by simp [self])]
      · have stepped : FileTree.step location name = location ++ [name] := by
          rw [FileTree.step, if_neg self, if_neg (by simpa using Ne.symm differs)]
        rw [stepped, List.filter_cons_of_pos (by simp [self]), List.append_assoc]
        rfl

/-- Whether a path stays at or below the place where it starts, all along its way. -/
structure Inward (path : String) : Prop where
  relative : isAbsolute path = false
  inside : ∀ start way, way <+: names path → start <+: follow start way

theorem inward_of_down {path : String} (relative : isAbsolute path = false)
    (down : ".." ∉ names path) : Inward path where
  relative := relative
  inside := by
    intro start way within
    rw [follow_of_down fun up => down (within.subset up)]
    exact List.prefix_append _ _

/-! ## Walks -/

namespace FileTree

/-- Whether names can be followed: all on the way, the end left out, are directories. -/
def Passable (tree : FileTree) (location : Location) (names : List String) : Prop :=
  ∀ way, way <+: names → way ≠ names → tree.get? (follow location way) = some .directory

theorem passable_cons {tree : FileTree} {location : Location} {name : String}
    {names : List String} :
    tree.Passable location (name :: names) ↔
      tree.get? location = some .directory ∧ tree.Passable (step location name) names := by
  constructor
  · intro passable
    refine ⟨passable [] List.nil_prefix (List.cons_ne_nil _ _).symm, ?_⟩
    intro way within differs
    exact passable (name :: way) ((List.prefix_cons_inj name).2 within) (by simpa using differs)
  · rintro ⟨here, further⟩ way within differs
    cases way with
    | nil => exact here
    | cons first way =>
        obtain ⟨rfl, shorter⟩ := List.cons_prefix_cons.1 within
        exact further way shorter fun same => differs (congrArg (List.cons first) same)

/-- A walk ends where its names lead, if they can be followed. -/
theorem walk_eq_ok {tree : FileTree} {location target : Location} {names : List String} :
    tree.walk location names = .ok target ↔
      tree.Passable location names ∧ target = follow location names := by
  induction names generalizing location with
  | nil =>
      simp only [walk, Except.ok.injEq, follow_nil]
      constructor
      · rintro rfl
        exact ⟨fun way within differs => absurd (List.prefix_nil.1 within) differs, rfl⟩
      · exact fun both => both.2.symm
  | cons name names ih =>
      rw [walk, passable_cons, follow_cons]
      cases stands : tree.get? location with
      | none => simp
      | some entry => cases entry <;> simp [ih]

end FileTree

/-! ## Ways -/

/-- Whether a location is one that names lead to on their way, the end included. -/
def OnWay (names : List String) (location : Location) : Prop :=
  ∃ way, way <+: names ∧ follow [] way = location

theorem OnWay.mono {names further : List String} {location : Location}
    (onWay : OnWay names location) (within : names <+: further) : OnWay further location := by
  obtain ⟨way, shorter, leads⟩ := onWay
  exact ⟨way, shorter.trans within, leads⟩

theorem onWay_location (path : String) : OnWay (names path) (location path) :=
  ⟨names path, List.prefix_rfl, rfl⟩

/-- Whether there are directories all along the way of names, the end included. -/
def IsOpen (names : List String) (tree : FileTree) : Prop :=
  ∀ location, OnWay names location → tree.get? location = some .directory

theorem isOpen_iff {names : List String} {tree : FileTree} :
    IsOpen names tree ↔
      tree.Passable [] names ∧ tree.get? (follow [] names) = some .directory := by
  constructor
  · intro isOpen
    refine ⟨?_, isOpen _ ⟨names, List.prefix_rfl, rfl⟩⟩
    intro way within _
    exact isOpen _ ⟨way, within, rfl⟩
  · rintro ⟨passable, directory⟩ location ⟨way, within, rfl⟩
    by_cases whole : way = names
    · rw [whole, directory]
    · exact passable way within whole

end LoopTemplate.Files
