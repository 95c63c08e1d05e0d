import LoopTemplate.Proofs.Files.Paths
import Mathlib.Data.List.Nodup

/-!
# What is listed below a directory

A file tree is a file system if its entries are listed once each, under names that files can have,
each in a directory that is listed too (`IsFileSystem`). In such a tree the entries below a
directory are those that can be looked up there (`IsFileSystem.mem_below`), and where nothing
stands, nothing stands below (`IsFileSystem.isFree`).
-/

namespace LoopTemplate.Files

/-- Whether nothing stands at a location or below it. -/
def IsFree (location : Location) (tree : FileTree) : Prop :=
  ∀ inner, location <+: inner → tree.get? inner = none

/-- Whether a file can have a name: no name of a path that leads elsewhere, and one name only. -/
def isFileName (name : String) : Bool :=
  !isSelf name && name != ".." && !name.toList.contains '/'

theorem not_mem_of_isFileName {name : String} (named : isFileName name = true) :
    isSelf name = false ∧ name ≠ ".." ∧ '/' ∉ name.toList := by
  simpa [isFileName, and_assoc] using named

/-- Whether the entries of a tree are those of a file system. -/
structure IsFileSystem (tree : FileTree) : Prop where
  distinct : (tree.entries.map Prod.fst).Nodup
  named : ∀ entry ∈ tree.entries, ∀ name ∈ entry.1, isFileName name = true
  nested : ∀ entry ∈ tree.entries, tree.get? entry.1.dropLast = some .directory

namespace FileTree

variable {tree : FileTree} {directory changed : Location}

/-! ## Edits elsewhere -/

theorem isPrefixOf_eq_false (outside : ¬ directory <+: changed) :
    directory.isPrefixOf changed = false :=
  Bool.eq_false_iff.2 (mt List.isPrefixOf_iff_prefix.1 outside)

theorem below_insert_of_outside (outside : ¬ directory <+: changed) (entry : Entry) :
    (tree.insert changed entry).below directory = tree.below directory := by
  have notListed := isPrefixOf_eq_false outside
  simp only [below, insert, erase, List.filter_append, List.filter_filter, List.filter_cons,
    notListed, Bool.false_and, Bool.false_eq_true, if_false, List.filter_nil, List.append_nil]
  congr 1
  apply List.filter_congr
  intro listed _
  by_cases same : listed.1 = changed
  · simp [same, notListed]
  · simp [same]

theorem below_eraseBelow_of_apart
    (apart : ∀ inner, directory <+: inner → ¬ changed <+: inner) :
    (tree.eraseBelow changed).below directory = tree.below directory := by
  simp only [below, eraseBelow, List.filter_filter]
  congr 1
  apply List.filter_congr
  intro listed _
  by_cases inside : directory <+: listed.1
  · simp [isPrefixOf_eq_false (apart listed.1 inside)]
  · simp [isPrefixOf_eq_false inside]

theorem erase_of_free (free : tree.get? changed = none) : tree.erase changed = tree := by
  have absent : ∀ entry ∈ tree.entries, changed ≠ entry.1 := by
    cases changed with
    | nil => cases free
    | cons name names => simpa [get?, List.lookup_eq_none_iff] using free
  rw [erase, List.filter_eq_self.2]
  intro entry member
  simpa using (absent entry member).symm

/-- A directory that is made is listed at the end, or not at all. -/
theorem below_make (free : tree.get? changed = none) :
    (tree.insert changed .directory).below directory = tree.below directory ∨
      ∃ names, (tree.insert changed .directory).below directory =
        tree.below directory ++ [(names, .directory)] := by
  simp only [below, insert, erase_of_free free, List.filter_append, List.map_append]
  by_cases listed : (directory.isPrefixOf changed && changed.length != directory.length) = true
  · exact .inr ⟨changed.drop directory.length, by simp [listed]⟩
  · exact .inl (by simp [listed])

/-! ## Entries -/

/-- An entry is listed below a directory by the names that lead to it from there. -/
theorem mem_below {names : Location} {entry : Entry} :
    (names, entry) ∈ tree.below directory ↔
      names ≠ [] ∧ (directory ++ names, entry) ∈ tree.entries := by
  simp only [below, List.mem_map, List.mem_filter, Bool.and_eq_true, List.isPrefixOf_iff_prefix,
    bne_iff_ne, Prod.mk.injEq]
  constructor
  · rintro ⟨⟨location, stands⟩, ⟨member, ⟨rest, rfl⟩, longer⟩, rfl, rfl⟩
    rw [List.drop_left]
    exact ⟨by simpa using longer, member⟩
  · rintro ⟨present, member⟩
    refine ⟨_, ⟨member, List.prefix_append _ _, ?_⟩, List.drop_left, rfl⟩
    simpa using present

theorem nodup_below (distinct : (tree.entries.map Prod.fst).Nodup) :
    ((tree.below directory).map Prod.fst).Nodup := by
  apply List.Nodup.of_map (directory ++ ·)
  have whole : ((tree.below directory).map Prod.fst).map (directory ++ ·) =
      (tree.entries.filter fun entry =>
        directory.isPrefixOf entry.1 && entry.1.length != directory.length).map Prod.fst := by
    rw [below, List.map_map, List.map_map]
    apply List.map_congr_left
    intro entry member
    have inside := (Bool.and_eq_true_iff.1 (List.mem_filter.1 member).2).1
    exact List.prefix_iff_eq_append.1 (List.isPrefixOf_iff_prefix.1 inside)
  rw [whole]
  exact distinct.sublist (List.filter_sublist.map _)

end FileTree

namespace IsFileSystem

variable {tree : FileTree} {location : Location} {entry : Entry}

theorem get?_eq_some (fileSystem : IsFileSystem tree) (present : location ≠ []) :
    tree.get? location = some entry ↔ (location, entry) ∈ tree.entries := by
  have below : location.isEmpty = false := by simpa using present
  rw [FileTree.get?, below, if_neg Bool.false_ne_true]
  constructor
  · intro found
    obtain ⟨before, after, split, -⟩ := List.lookup_eq_some_iff.1 found
    rw [split]
    exact List.mem_append_right _ List.mem_cons_self
  · intro member
    obtain ⟨before, after, split⟩ := List.append_of_mem member
    refine List.lookup_eq_some_iff.2 ⟨before, after, split, ?_⟩
    intro other earlier
    have distinct := fileSystem.distinct
    rw [split, List.map_append, List.map_cons, List.nodup_middle] at distinct
    have differs : location ≠ other.1 := by
      intro same
      apply (List.nodup_cons.1 distinct).1
      exact List.mem_append_left _ (List.mem_map.2 ⟨other, earlier, same.symm⟩)
    simpa using differs

theorem isFree (fileSystem : IsFileSystem tree) (free : tree.get? location = none) :
    IsFree location tree := by
  rintro inner ⟨names, rfl⟩
  -- An entry would stand in a directory, which is at the location or below it too.
  induction names using List.reverseRecOn with
  | nil => rwa [List.append_nil]
  | append_singleton names name ih =>
      cases stands : tree.get? (location ++ (names ++ [name])) with
      | none => rfl
      | some entry =>
          have member := (fileSystem.get?_eq_some (by simp)).1 stands
          have parent := fileSystem.nested _ member
          rw [← List.append_assoc, List.dropLast_concat, ih] at parent
          cases parent

theorem mem_below (fileSystem : IsFileSystem tree) {directory names : Location} :
    (names, entry) ∈ tree.below directory ↔
      names ≠ [] ∧ tree.get? (directory ++ names) = some entry := by
  rw [FileTree.mem_below]
  refine and_congr_right fun present => (fileSystem.get?_eq_some ?_).symm
  simp [present]

theorem named_below (fileSystem : IsFileSystem tree) {directory names : Location}
    (member : (names, entry) ∈ tree.below directory) : ∀ name ∈ names, isFileName name = true := by
  intro name inNames
  exact fileSystem.named _ (FileTree.mem_below.1 member).2 name (List.mem_append_right _ inNames)

end IsFileSystem

end LoopTemplate.Files
