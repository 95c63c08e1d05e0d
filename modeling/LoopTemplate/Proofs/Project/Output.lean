import LoopTemplate.Proofs.Project.Preservation
import LoopTemplate.Proofs.Text.ByteOrder

/-!
# What a build leaves

A build that reaches its end leaves the code of each source that can be compiled, the directories
above it, and nothing else (`IsOutput`). The step to this is that writing the code of one more
source keeps the output what it should be (`IsOutput.write`). All this needs that the path of the
output directory leads to what stands there: a path that leads through a missing directory does
not, and then the old output stays (`build_keeps_stale_output`).
-/

namespace LoopTemplate.Project

open LoopTemplate.Files

/-! ## Paths of files -/

/-- Whether all names of a path are names that files can have. -/
def IsFilePath (path : String) : Prop := ∀ name ∈ names path, isFileName name = true

section FilePath

variable {directory path : String}

theorem IsFilePath.not_up (file : IsFilePath path) : ".." ∉ names path :=
  fun up => (not_mem_of_isFileName (file _ up)).2.1 rfl

theorem IsFilePath.relative (file : IsFilePath path) : isAbsolute path = false := by
  unfold isAbsolute
  split
  case h_2 => rfl
  case h_1 rest chars =>
    have first : names path = "" :: (Text.pieces '/' rest).map String.ofList := by
      rw [names, chars, Text.pieces_separator]
      rfl
    have self := (not_mem_of_isFileName (file "" (first ▸ List.mem_cons_self))).1
    exact absurd self (by decide)

/-- The names of a file are followed one by one. -/
theorem IsFilePath.follow_eq (file : IsFilePath path) {way : List String}
    (within : way <+: names path) (start : Location) : follow start way = start ++ way := by
  rw [follow_of_down fun up => file.not_up (within.subset up), List.filter_eq_self.2]
  intro name member
  simp [(not_mem_of_isFileName (file name (within.subset member))).1]

theorem IsFilePath.location_join (file : IsFilePath path) (ends : EndsInName directory) :
    location (join directory path) = location directory ++ names path := by
  rw [ends.location_join file.relative, file.follow_eq List.prefix_rfl]

/-- The directories above a file are those on its way, the end left out. -/
theorem IsFilePath.parentNames_join (file : IsFilePath path) (ends : EndsInName directory) :
    Change.parentNames (join directory path) = names directory ++ (names path).dropLast := by
  obtain ⟨start, last, names_eq⟩ :=
    (List.eq_nil_or_concat (names path)).resolve_left (names_ne_nil path)
  have named : isSelf last = false :=
    (not_mem_of_isFileName (file last (names_eq ▸ by simp))).1
  rw [Change.parentNames, ends.names_join file.relative, names_eq]
  simp [named]

end FilePath

/-! ## Output -/

/-- Whether an output directory holds the code of the given sources, the directories above it and
those on its own way, and nothing else. -/
structure IsOutput (directory : String) (compiled : Sources) (tree : FileTree) : Prop where
  texts : ∀ rest code, tree.get? (location directory ++ rest) = some (.text code) ↔
    ∃ path, names path = rest ∧ (path, code) ∈ compiled
  directories : ∀ rest, tree.get? (location directory ++ rest) = some .directory ↔
    OnWay (names directory) (location directory ++ rest) ∨
      ∃ source ∈ compiled, rest <+: names source.1 ∧ rest ≠ names source.1
  noBinaries : ∀ rest bytes, tree.get? (location directory ++ rest) ≠ some (.binary bytes)

section Output

variable {directory path code : String} {written : Sources} {before after : FileTree}

/-- A directory that was emptied and made again is the output of no source. -/
theorem isOutput_nil (isOpen : IsOpen (names directory) after)
    (bare : ∀ inner, location directory <+: inner →
      after.get? inner = none ∨ OnWay (names directory) inner) :
    IsOutput directory [] after := by
  have stands : ∀ rest entry, after.get? (location directory ++ rest) = some entry →
      OnWay (names directory) (location directory ++ rest) ∧ entry = .directory := by
    intro rest entry there
    rcases bare _ (List.prefix_append _ rest) with free | onWay
    · rw [free] at there
      cases there
    · rw [isOpen _ onWay] at there
      cases there
      exact ⟨onWay, rfl⟩
  constructor
  · intro rest code
    constructor
    · intro there
      cases (stands rest _ there).2
    · rintro ⟨path, -, member⟩
      cases member
  · intro rest
    constructor
    · intro there
      exact .inl (stands rest _ there).1
    · rintro (onWay | ⟨source, member, -⟩)
      · exact isOpen _ onWay
      · cases member
  · intro rest bytes there
    cases (stands rest _ there).2

/-- What writing the code of a source does to an output directory. -/
structure CodeWritten (directory path code : String) (before after : FileTree) : Prop where
  there : after.get? (location directory ++ names path) = some (.text code)
  above : ∀ rest, rest <+: names path → rest ≠ names path →
    after.get? (location directory ++ rest) = some .directory
  keeps : ∀ rest, before.get? (location directory ++ rest) = some .directory →
    after.get? (location directory ++ rest) = some .directory
  elsewhere : ∀ rest, rest ≠ names path →
    after.get? (location directory ++ rest) = before.get? (location directory ++ rest) ∨
      before.get? (location directory ++ rest) = none ∧
        after.get? (location directory ++ rest) = some .directory ∧
          (OnWay (names directory) (location directory ++ rest) ∨ rest <+: names path)

theorem codeWritten_of_steps (ends : EndsInName directory) (file : IsFilePath path)
    (steps : Steps (WritesCode directory path) before after)
    (there : after.get? (location (join directory path)) = some (.text code))
    (isOpen : IsOpen (Change.parentNames (join directory path)) after) :
    CodeWritten directory path code before after := by
  rw [file.location_join ends] at there
  rw [file.parentNames_join ends] at isOpen
  refine ⟨there, ?_, ?_, ?_⟩
  · intro rest within shorter
    apply isOpen
    refine ⟨names directory ++ rest, ?_, ?_⟩
    · apply (List.prefix_append_right_inj _).2
      rw [← List.dropLast_append_getLast (names_ne_nil path)] at within shorter
      exact (List.prefix_concat_iff.1 within).resolve_left shorter
    · rw [follow_append]
      exact file.follow_eq within _
  · intro rest stood
    exact steps.kept stood (fun _ => False.elim) (.inl rfl)
  · intro rest other
    have notWritten : ¬ WritesCode directory path (.write (location directory ++ rest)) := by
      rintro ⟨same, -⟩
      rw [file.location_join ends, List.append_cancel_left_eq] at same
      exact other same
    rcases steps.kept_or_made (fun _ => False.elim) notWritten with same | ⟨free, made⟩
    · exact .inl same
    refine .inr ⟨free, made, ?_⟩
    by_contra off
    have untouched : after.get? (location directory ++ rest) =
        before.get? (location directory ++ rest) := by
      apply steps.unchanged
      intro edit writes touches
      cases edit with
      | make changed =>
          obtain rfl : changed = location directory ++ rest := touches
          apply off
          rcases ends.onWay_join file.relative writes with onWay | ⟨way, within, same⟩
          · exact .inl onWay
          · rw [file.follow_eq within, List.append_cancel_left_eq] at same
            exact .inr (same ▸ within)
      | write changed =>
          obtain rfl : changed = location directory ++ rest := touches
          exact notWritten writes
      | remove changed => exact writes
    rw [untouched, free] at made
    cases made

/-- A path that is new has the code that comes with it, and no other path gets another code. -/
theorem exists_path_concat (fresh : path ∉ written.map Prod.fst) (rest : Location) (text : String) :
    (∃ other, names other = rest ∧ (other, text) ∈ written ++ [(path, code)]) ↔
      if rest = names path then text = code
      else ∃ other, names other = rest ∧ (other, text) ∈ written := by
  by_cases here : rest = names path
  · rw [if_pos here]
    constructor
    · rintro ⟨other, same, member⟩
      obtain rfl : other = path := by
        rw [← ofNames_names other, same, here, ofNames_names]
      rcases List.mem_append.1 member with earlier | new
      · exact absurd (List.mem_map_of_mem earlier) fresh
      · exact congrArg Prod.snd (List.mem_singleton.1 new)
    · rintro rfl
      exact ⟨path, here.symm, List.mem_append_right _ List.mem_cons_self⟩
  · rw [if_neg here]
    refine exists_congr fun other => and_congr_right fun same => ?_
    rw [List.mem_append, List.mem_singleton, Prod.mk.injEq, or_iff_left]
    rintro ⟨rfl, -⟩
    exact here same.symm

/-- Writing the code of one more source adds it to the output. -/
theorem IsOutput.write (output : IsOutput directory written before)
    (fresh : path ∉ written.map Prod.fst) (wrote : CodeWritten directory path code before after) :
    IsOutput directory (written ++ [(path, code)]) after := by
  constructor
  · intro rest text
    rw [exists_path_concat fresh]
    by_cases here : rest = names path
    · rw [if_pos here, here, wrote.there, Option.some.injEq, Entry.text.injEq]
      exact eq_comm
    · rw [if_neg here, ← output.texts]
      rcases wrote.elsewhere rest here with same | ⟨free, made, -⟩
      · rw [same]
      · rw [free, made]
        simp
  · intro rest
    constructor
    · intro stands
      by_cases here : rest = names path
      · rw [here, wrote.there] at stands
        cases stands
      · rcases wrote.elsewhere rest here with same | ⟨-, -, onWay | within⟩
        · rw [same] at stands
          rcases (output.directories rest).1 stands with onWay | ⟨source, member, above⟩
          · exact .inl onWay
          · exact .inr ⟨source, List.mem_append_left _ member, above⟩
        · exact .inl onWay
        · exact .inr ⟨_, List.mem_append_right _ List.mem_cons_self, within, here⟩
    · rintro (onWay | ⟨source, member, within, shorter⟩)
      · exact wrote.keeps rest ((output.directories rest).2 (.inl onWay))
      · rcases List.mem_append.1 member with earlier | new
        · exact wrote.keeps rest
            ((output.directories rest).2 (.inr ⟨source, earlier, within, shorter⟩))
        · rw [List.mem_singleton.1 new] at within shorter
          exact wrote.above rest within shorter
  · intro rest bytes stands
    by_cases here : rest = names path
    · rw [here, wrote.there] at stands
      cases stands
    · rcases wrote.elsewhere rest here with same | ⟨-, made, -⟩
      · rw [same] at stands
        exact output.noBinaries rest bytes stands
      · rw [made] at stands
        cases stands

end Output

/-! ## Builds -/

/-- Once a build has all that it needs, it leaves the code of its sources, if the path of the output
directory leads to what stands there. -/
theorem does_produce_output (project : Project) (options : CompileOptions) {sources : Sources}
    (sorted : IsSorted sources) (files : ∀ source ∈ sources, IsFilePath source.1)
    {session : Session} (leads : Leads session.tree project.outputDirectory) :
    Action.Does session (produce project options sources) (fun _ => True) fun failed tree =>
      IsOutput project.outputDirectory (compiledOf options sources) tree ∧
        failed = failedOf options sources := by
  have ends := endsInName_outputDirectory project
  refine does_produce (IsOutput project.outputDirectory) sorted.distinct ?_ ?_
  · intro start same
    refine (does_prepareOutput ends start).mono (fun _ _ => trivial) ?_
    intro _ tree prepared
    rw [same] at prepared
    exact isOutput_nil prepared.1 (prepared.2 leads)
  · intro written path code member fresh between output
    obtain ⟨source, among, rfl⟩ := List.mem_map.1 member
    have file := files source among
    have wrote := does_writeCode code ends file.relative between
    refine ⟨wrote.steps.mono fun _ _ => trivial, ?_, wrote.fault⟩
    intro value done
    obtain ⟨there, isOpen⟩ := wrote.aim value done
    exact output.write fresh (codeWritten_of_steps ends file wrote.steps there isOpen)

/-- The paths of the sources that cannot be compiled come in the order of their bytes. -/
theorem pairwise_failedOf (options : CompileOptions) {sources : Sources}
    (sorted : IsSorted sources) :
    (failedOf options sources).Pairwise fun first second =>
      Text.utf8Bytes first < Text.utf8Bytes second := by
  rw [failedOf, List.pairwise_map]
  exact (sorted.sublist List.filter_sublist).imp Text.utf8Bytes_lt

/-- A build in which no file operation fails leaves the code of each source that can be compiled
and nothing else, if the path of the output directory leads to what stands there and the names
below the source directory, which are texts, have no backslash. Its sources are the files with a
script's name. It fails for the sources that cannot be compiled, and names them in order. -/
theorem build_leaves_compiled {project : Project} {session : Session} {options : CompileOptions}
    {sources : Sources} (fileSystem : IsFileSystem session.tree)
    (plain : HasPlainNames project session.tree)
    (reached : session.tree.has project.outputDirectory = true ∨
      session.tree.get? (location project.outputDirectory) = none)
    (ready : project.config.compileOptions = .ok options)
    (collected : project.sources session.tree = .ok sources)
    (unhindered : ∀ fault, (project.build.run session).1 ≠ .error (.file fault)) :
    IsOutput project.outputDirectory (compiledOf options sources)
        (project.build.run session).2.tree ∧
      (∀ path content, (path, content) ∈ sources ↔ ∃ names, IsScript names ∧ ofNames names = path ∧
        session.tree.get? (location project.sourceDirectory ++ names) = some (.text content)) ∧
      (∀ names bytes, IsScript names →
        session.tree.get? (location project.sourceDirectory ++ names) ≠ some (.binary bytes)) ∧
      (project.build.run session).1 = verdict (failedOf options sources) ∧
      (failedOf options sources).Pairwise fun first second =>
        Text.utf8Bytes first < Text.utf8Bytes second := by
  have sorted := sorted_sources collected
  have does := does_produce_output project options sorted
    (fun source => isFileName_of_mem_sources fileSystem plain collected)
    (reached.imp_right fileSystem.isFree)
  rw [build_of_ready ready collected] at unhindered ⊢
  rcases outcome : (produce project options sources).run session with ⟨result, after⟩
  rw [outcome] at unhindered
  obtain ⟨-, aim, fault⟩ := does
  rw [outcome] at aim fault
  cases result with
  | error error =>
      obtain ⟨reason, rfl⟩ := fault error rfl
      exact absurd rfl (unhindered reason)
  | ok failed =>
      obtain ⟨output, rfl⟩ := aim failed rfl
      exact ⟨output, fun path content => mem_sources fileSystem plain collected,
        fun names bytes script => ne_binary_of_isScript fileSystem collected script bytes, rfl,
        pairwise_failedOf options sorted⟩

/-! ## Old output -/

/-- Files with an output of an earlier build, a directory that is named like a script, a file that
is all extension, and a source that cannot be compiled. -/
def nestedFiles : FileTree :=
  ⟨[(["app"], .directory), (["app", "dist"], .directory), (["app", "dist", "ali"], .directory),
    (["app", "dist", "ali", "old.js"], .text "old"), (["app", "src"], .directory),
    (["app", "src", ".js"], .text "2"), (["app", "src", "bad.jsx"], .text "1 +"),
    (["app", "src", "pages.js"], .directory), (["app", "src", "pages.js", "a.js"], .text "1")]⟩

theorem isFileSystem_nestedFiles : IsFileSystem nestedFiles where
  distinct := by decide
  named := by decide
  nested := by decide

theorem hasPlainNames_nestedFiles (project : Project) : HasPlainNames project nestedFiles := by
  have clear : ∀ entry ∈ nestedFiles.entries, ∀ name ∈ entry.1, '\\' ∉ name.toList := by
    decide
  intro names entry stands name member
  have listed := (isFileSystem_nestedFiles.get?_eq_some
    (List.append_ne_nil_of_right_ne_nil _ (List.ne_nil_of_mem member))).1 stands
  exact clear _ listed name (List.mem_append_right _ member)

/-- The old output gives way, and nothing is left for the source that fails. -/
theorem build_leaves_compiled_nestedFiles :
    sampleProject.sources nestedFiles = .ok [("bad.jsx", "1 +"), ("pages.js/a.js", "1")] ∧
      IsOutput sampleProject.outputDirectory [("pages.js/a.js", "1;\n")]
        (sampleProject.build.run (.start nestedFiles)).2.tree ∧
      (sampleProject.build.run (.start nestedFiles)).1 = .error (.failedSources ["bad.jsx"]) := by
  have collected : sampleProject.sources nestedFiles =
      .ok [("bad.jsx", "1 +"), ("pages.js/a.js", "1")] := by
    decide +kernel
  have ended : (sampleProject.build.run (.start nestedFiles)).1 =
      .error (.failedSources ["bad.jsx"]) := by
    decide +kernel
  have compiled : compiledOf (.ofTarget .ali) [("bad.jsx", "1 +"), ("pages.js/a.js", "1")] =
      [("pages.js/a.js", "1;\n")] := by
    decide +kernel
  have unhindered : ∀ fault,
      (sampleProject.build.run (.start nestedFiles)).1 ≠ .error (.file fault) := by
    rw [ended]
    intro fault same
    cases same
  have there : nestedFiles.has sampleProject.outputDirectory = true := by decide +kernel
  have left := (@build_leaves_compiled sampleProject (.start nestedFiles) (.ofTarget .ali) _
    isFileSystem_nestedFiles (hasPlainNames_nestedFiles _) (.inl there) rfl collected unhindered).1
  rw [compiled] at left
  exact ⟨collected, left, ended⟩

/-- The sample project with an output path that leads through a directory that is missing. -/
def detourProject : Project := sampleProjectAt "src" "x/../dist"

/-- If the path of the output directory leads through a missing directory, the old output is not
seen and stays. -/
theorem build_keeps_stale_output :
    location detourProject.outputDirectory = ["app", "dist", "ali"] ∧
      detourProject.sources nestedFiles = .ok [("bad.jsx", "1 +"), ("pages.js/a.js", "1")] ∧
      (detourProject.build.run (.start nestedFiles)).1 = .error (.failedSources ["bad.jsx"]) ∧
      (detourProject.build.run (.start nestedFiles)).2.tree.get? ["app", "dist", "ali", "old.js"] =
        some (.text "old") := by
  decide +kernel

end LoopTemplate.Project
