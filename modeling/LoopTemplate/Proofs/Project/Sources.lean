import LoopTemplate.Project.Basic
import LoopTemplate.Proofs.Files.Listing
import Mathlib.Data.String.Basic

/-!
# The sources of a project

The sources are found if the path of the source directory leads to a directory, and read from what
is listed below it. They come in the order of their paths, each path once (`sorted_sources`). In a
file system without backslashes in its names, they are the files that have a script's name
(`mem_sources`).
-/

namespace LoopTemplate.Files

/-! ## Extensions -/

theorem exists_stem_of_extension? {name ending : String} (found : extension? name = some ending) :
    ∃ stem, stem ≠ "" ∧ name = stem ++ "." ++ ending := by
  unfold extension? at found
  split_ifs at found
  dsimp only at found
  obtain ⟨rest, split⟩ := List.takeWhile_prefix (· != '.') (l := name.toList.reverse)
  generalize name.toList.reverse.takeWhile (· != '.') = last at found split
  rw [← split, List.drop_left] at found
  split at found
  case h_1 stem =>
    split_ifs at found with unnamed
    cases found
    refine ⟨String.ofList stem.reverse, by simpa using unnamed, ?_⟩
    apply String.toList_injective
    rw [← List.reverse_inj, ← split]
    simp
  case h_2 => cases found

theorem extension?_of_stem {stem ending : String} (named : stem ≠ "") (present : ending ≠ "")
    (clear : '.' ∉ ending.toList) : extension? (stem ++ "." ++ ending) = some ending := by
  have differs : (stem ++ "." ++ ending == "..") = false := by
    rw [beq_eq_false_iff_ne]
    intro same
    have chars : stem.toList ++ ['.'] ++ ending.toList = ['.', '.'] := by
      simpa using congrArg String.toList same
    obtain ⟨c, member⟩ := List.exists_mem_of_ne_nil ending.toList (by simpa using present)
    have dot : c ∈ ['.', '.'] := chars ▸ List.mem_append_right _ member
    obtain rfl : c = '.' := by simpa using dot
    exact clear member
  have backwards : (stem ++ "." ++ ending).toList.reverse =
      ending.toList.reverse ++ '.' :: stem.toList.reverse := by
    simp
  have last : (ending.toList.reverse ++ '.' :: stem.toList.reverse).takeWhile (· != '.') =
      ending.toList.reverse := by
    rw [List.takeWhile_append_of_pos]
    · simp
    · intro c member
      simp only [bne_iff_ne]
      rintro rfl
      exact clear (List.mem_reverse.1 member)
  unfold extension?
  rw [differs, if_neg Bool.false_ne_true]
  dsimp only
  rw [backwards, last, List.drop_left]
  simp [named]
end LoopTemplate.Files

namespace LoopTemplate.Project

open LoopTemplate.Files

/-- Whether the last of the names is a script's: something, a dot, and `js` or `jsx`. -/
def IsScript (names : Location) : Prop :=
  ∃ above stem ending, names = above ++ [stem ++ "." ++ ending] ∧ stem ≠ "" ∧
    (ending = "js" ∨ ending = "jsx")

theorem IsScript.ne_nil {names : Location} (script : IsScript names) : names ≠ [] := by
  obtain ⟨above, stem, ending, rfl, -⟩ := script
  simp

theorem isSourceName_iff {name : String} :
    isSourceName name = true ↔
      ∃ stem ending, name = stem ++ "." ++ ending ∧ stem ≠ "" ∧
        (ending = "js" ∨ ending = "jsx") := by
  unfold isSourceName
  constructor
  · intro source
    cases found : extension? name with
    | none => simp [found] at source
    | some ending =>
        obtain ⟨stem, named, rfl⟩ := exists_stem_of_extension? found
        exact ⟨stem, ending, rfl, named, by simpa [found] using source⟩
  · rintro ⟨stem, ending, rfl, named, rfl | rfl⟩
    · rw [extension?_of_stem named (by decide) (by decide)]
      rfl
    · rw [extension?_of_stem named (by decide) (by decide)]
      rfl

/-- The sources are the files with a script's name. -/
theorem isSource_iff {names : Location} {entry : Entry} :
    isSource (names, entry) = true ↔ entry ≠ .directory ∧ IsScript names := by
  have script : IsScript names ↔ ∃ name, names.getLast? = some name ∧ isSourceName name = true := by
    constructor
    · rintro ⟨above, stem, ending, rfl, kind⟩
      exact ⟨_, List.getLast?_concat, isSourceName_iff.2 ⟨stem, ending, rfl, kind⟩⟩
    · rintro ⟨name, last, source⟩
      obtain ⟨above, rfl⟩ := List.getLast?_eq_some_iff.1 last
      obtain ⟨stem, ending, rfl, kind⟩ := isSourceName_iff.1 source
      exact ⟨above, stem, ending, rfl, kind⟩
  rw [script]
  cases entry <;> cases last : names.getLast? <;> simp [isSource, last]

/-! ## Order -/

/-- Whether sources come in the order of their paths, each path once. -/
def IsSorted (sources : Sources) : Prop := sources.Pairwise fun first second => first.1 < second.1

theorem IsSorted.distinct {sources : Sources} (sorted : IsSorted sources) :
    (sources.map Prod.fst).Nodup :=
  List.pairwise_map.2 (sorted.imp fun less => ne_of_lt less)

/-- A source takes the place of one with the same path. -/
theorem mem_insertSource {sources : Sources} (sorted : IsSorted sources) {path content : String}
    {source : String × String} :
    source ∈ insertSource path content sources ↔
      source = (path, content) ∨ source ∈ sources ∧ source.1 ≠ path := by
  induction sources with
  | nil => simp [insertSource]
  | cons first rest ih =>
      obtain ⟨above, sorted⟩ := List.pairwise_cons.1 sorted
      rw [insertSource]
      split_ifs with before same
      · have differs : ∀ other ∈ first :: rest, other.1 ≠ path := by
          intro other member
          rcases List.mem_cons.1 member with rfl | later
          · exact (ne_of_lt before).symm
          · exact (ne_of_lt (before.trans (above other later))).symm
        rw [List.mem_cons]
        exact or_congr_right ⟨fun member => ⟨member, differs source member⟩, And.left⟩
      · have differs : ∀ other ∈ rest, other.1 ≠ path := by
          intro other member
          rw [same]
          exact (ne_of_lt (above other member)).symm
        rw [List.mem_cons, List.mem_cons]
        refine or_congr_right ⟨fun member => ⟨.inr member, differs source member⟩, ?_⟩
        rintro ⟨rfl | member, other⟩
        · exact absurd same.symm other
        · exact member
      · rw [List.mem_cons, List.mem_cons, ih sorted]
        constructor
        · rintro (rfl | rfl | ⟨member, other⟩)
          · exact .inr ⟨.inl rfl, Ne.symm same⟩
          · exact .inl rfl
          · exact .inr ⟨.inr member, other⟩
        · rintro (rfl | ⟨rfl | member, other⟩)
          · exact .inr (.inl rfl)
          · exact .inl rfl
          · exact .inr (.inr ⟨member, other⟩)

theorem sorted_insertSource {sources : Sources} (sorted : IsSorted sources)
    (path content : String) :
    IsSorted (insertSource path content sources) := by
  induction sources with
  | nil => exact List.pairwise_singleton _ _
  | cons first rest ih =>
      obtain ⟨above, sorted⟩ := List.pairwise_cons.1 sorted
      rw [insertSource]
      split_ifs with before same
      · refine List.pairwise_cons.2 ⟨?_, List.pairwise_cons.2 ⟨above, sorted⟩⟩
        intro other member
        rcases List.mem_cons.1 member with rfl | later
        · exact before
        · exact before.trans (above other later)
      · refine List.pairwise_cons.2 ⟨?_, sorted⟩
        rw [same]
        exact above
      · have behind : first.1 < path := lt_of_le_of_ne (not_lt.1 before) (Ne.symm same)
        refine List.pairwise_cons.2 ⟨?_, ih sorted⟩
        intro other member
        rcases (mem_insertSource sorted).1 member with rfl | ⟨later, -⟩
        · exact behind
        · exact above other later

/-! ## Reading -/

section Reading

variable {directory : String} {entry : Location × Entry} {entries : List (Location × Entry)}
  {sources : Sources}

/-- The path of a source, from the names that lead to it. -/
def sourcePath (names : Location) : String := withSlashes (ofNames names)

theorem readSources_of_other (other : isSource entry = false) :
    readSources directory (entry :: entries) = readSources directory entries := by
  rw [readSources, other]
  rfl

theorem readSources_cons_eq_ok (source : isSource entry = true)
    (done : readSources directory (entry :: entries) = .ok sources) :
    ∃ content rest, entry.2 = .text content ∧ readSources directory entries = .ok rest ∧
      sources = insertSource (sourcePath entry.1) content rest := by
  obtain ⟨names, stands⟩ := entry
  rw [readSources, source, if_pos rfl] at done
  cases stands with
  | directory => cases done
  | binary bytes => cases done
  | text content =>
      cases restDone : readSources directory entries with
      | error error =>
          rw [restDone] at done
          cases done
      | ok rest =>
          rw [restDone] at done
          cases done
          exact ⟨content, rest, rfl, rfl, rfl⟩

theorem sorted_readSources (done : readSources directory entries = .ok sources) :
    IsSorted sources := by
  induction entries generalizing sources with
  | nil =>
      cases done
      exact .nil
  | cons entry entries ih =>
      by_cases source : isSource entry = true
      · obtain ⟨content, rest, -, restDone, rfl⟩ := readSources_cons_eq_ok source done
        exact sorted_insertSource (ih restDone) _ _
      · rw [readSources_of_other (Bool.eq_false_iff.2 source)] at done
        exact ih done

/-- Sources that could be read are texts. -/
theorem exists_text_of_readSources (done : readSources directory entries = .ok sources)
    (member : entry ∈ entries) (source : isSource entry = true) :
    ∃ content, entry.2 = .text content := by
  induction entries generalizing sources with
  | nil => cases member
  | cons first entries ih =>
      by_cases firstSource : isSource first = true
      · obtain ⟨content, rest, isText, restDone, rfl⟩ := readSources_cons_eq_ok firstSource done
        rcases List.mem_cons.1 member with rfl | later
        · exact ⟨content, isText⟩
        · exact ih restDone later
      · rw [readSources_of_other (Bool.eq_false_iff.2 firstSource)] at done
        rcases List.mem_cons.1 member with rfl | later
        · exact absurd source firstSource
        · exact ih done later

/-- Sources are read if all of them are texts. -/
theorem exists_readSources_iff :
    (∃ sources, readSources directory entries = .ok sources) ↔
      ∀ entry ∈ entries, isSource entry = true → ∃ content, entry.2 = .text content := by
  constructor
  · rintro ⟨sources, done⟩ entry member source
    exact exists_text_of_readSources done member source
  · intro texts
    induction entries with
    | nil => exact ⟨[], rfl⟩
    | cons entry entries ih =>
        obtain ⟨rest, restDone⟩ := ih fun other later => texts other (List.mem_cons_of_mem _ later)
        by_cases source : isSource entry = true
        · obtain ⟨content, isText⟩ := texts entry List.mem_cons_self source
          refine ⟨insertSource (sourcePath entry.1) content rest, ?_⟩
          rw [readSources, source, isText, restDone]
          rfl
        · exact ⟨rest, by rw [readSources_of_other (Bool.eq_false_iff.2 source), restDone]⟩

/-- Each source that is listed is read, if different ones have different paths. -/
theorem mem_readSources (done : readSources directory entries = .ok sources)
    (distinct : (entries.map fun entry => sourcePath entry.1).Nodup) {source : String × String} :
    source ∈ sources ↔ ∃ names, (names, .text source.2) ∈ entries ∧
      isSource (names, .text source.2) = true ∧ sourcePath names = source.1 := by
  induction entries generalizing sources with
  | nil =>
      cases done
      simp
  | cons first entries ih =>
      obtain ⟨new, distinct⟩ := List.nodup_cons.1 distinct
      by_cases firstSource : isSource first = true
      · obtain ⟨content, rest, isText, restDone, rfl⟩ := readSources_cons_eq_ok firstSource done
        rw [mem_insertSource (sorted_readSources restDone), ih restDone distinct]
        constructor
        · rintro (rfl | ⟨⟨names, member, kind, path_eq⟩, -⟩)
          · obtain ⟨names, stands⟩ := first
            obtain rfl : stands = .text content := isText
            exact ⟨names, List.mem_cons_self, firstSource, rfl⟩
          · exact ⟨names, List.mem_cons_of_mem _ member, kind, path_eq⟩
        · rintro ⟨names, member, kind, path_eq⟩
          rcases List.mem_cons.1 member with rfl | later
          · obtain ⟨path, code⟩ := source
            cases isText
            exact .inl (Prod.ext path_eq.symm rfl)
          · refine .inr ⟨⟨names, later, kind, path_eq⟩, ?_⟩
            intro same
            exact new (List.mem_map.2 ⟨_, later, path_eq.trans same⟩)
      · rw [readSources_of_other (Bool.eq_false_iff.2 firstSource)] at done
        rw [ih done distinct]
        constructor
        · rintro ⟨names, member, kind, path_eq⟩
          exact ⟨names, List.mem_cons_of_mem _ member, kind, path_eq⟩
        · rintro ⟨names, member, kind, path_eq⟩
          rcases List.mem_cons.1 member with rfl | later
          · exact absurd kind firstSource
          · exact ⟨names, later, kind, path_eq⟩

/-- A directory that is listed at the end is no source. -/
theorem readSources_append_directory (directory : String) (entries : List (Location × Entry))
    (names : Location) :
    readSources directory (entries ++ [(names, .directory)]) = readSources directory entries := by
  induction entries with
  | nil => exact readSources_of_other rfl
  | cons entry entries ih =>
      by_cases source : isSource entry = true
      · simp only [List.cons_append, readSources, source, if_pos, ih]
      · rw [List.cons_append, readSources_of_other (Bool.eq_false_iff.2 source),
          readSources_of_other (Bool.eq_false_iff.2 source), ih]

end Reading

/-! ## Finding -/

theorem has_of_isOpen {tree : FileTree} {path : String} (isOpen : IsOpen (names path) tree) :
    tree.has path = true := by
  obtain ⟨passable, directory⟩ := isOpen_iff.1 isOpen
  have found : tree.find path = .ok .directory := by
    rw [FileTree.find, FileTree.locate, FileTree.walk_eq_ok.2 ⟨passable, rfl⟩]
    simp only [bind, Except.bind]
    rw [directory]
    rfl
  rw [FileTree.has, found]

/-- A directory is listed if its path leads to it. -/
theorem list_eq_ok {tree : FileTree} {path : String} {entries : List (Location × Entry)} :
    tree.list path = .ok entries ↔
      IsOpen (names path) tree ∧ entries = tree.below (location path) := by
  unfold FileTree.list FileTree.locate
  rw [isOpen_iff]
  cases walked : tree.walk [] (names path) with
  | error error =>
      have blocked : ¬ tree.Passable [] (names path) := by
        intro passable
        rw [FileTree.walk_eq_ok.2 ⟨passable, rfl⟩] at walked
        cases walked
      constructor
      · intro listed
        cases listed
      · exact fun both => absurd both.1.1 blocked
  | ok target =>
      obtain ⟨passable, rfl⟩ := FileTree.walk_eq_ok.1 walked
      simp only [bind, Except.bind, passable, true_and]
      cases there : tree.get? (follow [] (names path)) with
      | none =>
          constructor
          · intro listed
            cases listed
          · simp
      | some entry =>
          cases entry with
          | directory =>
              simp only [pure, Except.pure, Except.ok.injEq, true_and]
              exact eq_comm
          | text content =>
              constructor
              · intro listed
                cases listed
              · simp
          | binary bytes =>
              constructor
              · intro listed
                cases listed
              · simp

/-- The sources are read from a source directory that is there. -/
theorem sources_eq_ok {project : Project} {tree : FileTree} {sources : Sources} :
    project.sources tree = .ok sources ↔
      IsOpen (names project.sourceDirectory) tree ∧
        readSources project.sourceDirectory
          (tree.below (location project.sourceDirectory)) = .ok sources := by
  constructor
  · intro collected
    cases listed : tree.list project.sourceDirectory with
    | error error =>
        rw [Project.sources, listed] at collected
        split_ifs at collected <;> cases collected
    | ok entries =>
        obtain ⟨isOpen, rfl⟩ := list_eq_ok.1 listed
        rw [Project.sources, has_of_isOpen isOpen, listed] at collected
        exact ⟨isOpen, collected⟩
  · rintro ⟨isOpen, read⟩
    rw [Project.sources, has_of_isOpen isOpen, list_eq_ok.2 ⟨isOpen, rfl⟩]
    exact read

/-- The sources are found if their directory is there and all of them are texts. -/
theorem exists_sources_iff {project : Project} {tree : FileTree} :
    (∃ sources, project.sources tree = .ok sources) ↔
      IsOpen (names project.sourceDirectory) tree ∧ ∀ names bytes, IsScript names →
        (location project.sourceDirectory ++ names, .binary bytes) ∉ tree.entries := by
  simp only [sources_eq_ok, exists_and_left, exists_readSources_iff]
  refine and_congr_right fun _ => ⟨fun texts names bytes script stands => ?_, fun clear entry => ?_⟩
  · have listed := FileTree.mem_below.2 ⟨script.ne_nil, stands⟩
    obtain ⟨content, isText⟩ := texts _ listed (isSource_iff.2 ⟨Entry.noConfusion, script⟩)
    cases isText
  · obtain ⟨names, stands⟩ := entry
    intro listed source
    obtain ⟨noDirectory, script⟩ := isSource_iff.1 source
    cases stands with
    | directory => exact absurd rfl noDirectory
    | text content => exact ⟨content, rfl⟩
    | binary bytes => exact absurd (FileTree.mem_below.1 listed).2 (clear names bytes script)

theorem sorted_sources {project : Project} {tree : FileTree} {sources : Sources}
    (collected : project.sources tree = .ok sources) : IsSorted sources :=
  sorted_readSources (sources_eq_ok.1 collected).2

/-! ## Files -/

/-- Whether no name below the source directory has a backslash. -/
def HasPlainNames (project : Project) (tree : FileTree) : Prop :=
  ∀ names entry, tree.get? (location project.sourceDirectory ++ names) = some entry →
    ∀ name ∈ names, '\\' ∉ name.toList

section Files

variable {project : Project} {tree : FileTree} {sources : Sources}

theorem sourcePath_of_plain (fileSystem : IsFileSystem tree) (plain : HasPlainNames project tree)
    {names : Location} {entry : Entry}
    (member : (names, entry) ∈ tree.below (location project.sourceDirectory)) :
    sourcePath names = ofNames names ∧ Files.names (ofNames names) = names := by
  obtain ⟨present, stands⟩ := fileSystem.mem_below.1 member
  refine ⟨withSlashes_ofNames (plain names entry stands), names_ofNames present ?_⟩
  intro name inNames
  exact (not_mem_of_isFileName (fileSystem.named_below member name inNames)).2.2

/-- Different sources have different paths. -/
theorem nodup_sourcePath (fileSystem : IsFileSystem tree) (plain : HasPlainNames project tree) :
    ((tree.below (location project.sourceDirectory)).map fun entry =>
      sourcePath entry.1).Nodup := by
  apply List.Nodup.of_map names
  have back : ((tree.below (location project.sourceDirectory)).map
      fun entry => sourcePath entry.1).map names =
        (tree.below (location project.sourceDirectory)).map Prod.fst := by
    rw [List.map_map]
    apply List.map_congr_left
    intro entry member
    obtain ⟨same, names_eq⟩ := sourcePath_of_plain fileSystem plain member
    rw [Function.comp_apply, same, names_eq]
  rw [back]
  exact FileTree.nodup_below fileSystem.distinct

/-- The sources are the files with a script's name, at any depth. -/
theorem mem_sources (fileSystem : IsFileSystem tree) (plain : HasPlainNames project tree)
    (collected : project.sources tree = .ok sources) {source : String × String} :
    source ∈ sources ↔ ∃ names, IsScript names ∧ ofNames names = source.1 ∧
      tree.get? (location project.sourceDirectory ++ names) = some (.text source.2) := by
  rw [mem_readSources (sources_eq_ok.1 collected).2 (nodup_sourcePath fileSystem plain)]
  constructor
  · rintro ⟨names, member, kind, path_eq⟩
    obtain ⟨same, -⟩ := sourcePath_of_plain fileSystem plain member
    exact ⟨names, (isSource_iff.1 kind).2, same.symm.trans path_eq,
      (fileSystem.mem_below.1 member).2⟩
  · rintro ⟨names, script, path_eq, stands⟩
    have member := fileSystem.mem_below.2 ⟨script.ne_nil, stands⟩
    obtain ⟨same, -⟩ := sourcePath_of_plain fileSystem plain member
    exact ⟨names, member, isSource_iff.2 ⟨Entry.noConfusion, script⟩, same.trans path_eq⟩

/-- Each file with a script's name is a text, if the sources can be read. -/
theorem ne_binary_of_isScript (fileSystem : IsFileSystem tree)
    (collected : project.sources tree = .ok sources) {names : Location} (script : IsScript names)
    (bytes : List UInt8) :
    tree.get? (location project.sourceDirectory ++ names) ≠ some (.binary bytes) := by
  intro stands
  obtain ⟨content, isText⟩ := exists_text_of_readSources (sources_eq_ok.1 collected).2
    (fileSystem.mem_below.2 ⟨script.ne_nil, stands⟩) (isSource_iff.2 ⟨Entry.noConfusion, script⟩)
  cases isText

/-- The names of a source are names that files can have. -/
theorem isFileName_of_mem_sources (fileSystem : IsFileSystem tree)
    (plain : HasPlainNames project tree)
    (collected : project.sources tree = .ok sources) {source : String × String}
    (member : source ∈ sources) : ∀ name ∈ names source.1, isFileName name = true := by
  rw [mem_readSources (sources_eq_ok.1 collected).2 (nodup_sourcePath fileSystem plain)] at member
  obtain ⟨names, listed, -, path_eq⟩ := member
  obtain ⟨same, names_eq⟩ := sourcePath_of_plain fileSystem plain listed
  rw [← path_eq, same, names_eq]
  exact fileSystem.named_below listed

end Files

end LoopTemplate.Project
