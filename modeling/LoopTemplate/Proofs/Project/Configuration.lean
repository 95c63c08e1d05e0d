import LoopTemplate.Project.Basic
import LoopTemplate.Proofs.Json.Pretty

/-!
# Configurations that are saved and loaded

A configuration is read back from the text it is written as. Roles of an adapter that are missing
are left out, and so is an adapter that is missing as a whole; an adapter without roles is written
as an object without fields, so the two stay apart. A project is loaded from a directory that has
such a text for its configuration (`saved_config_loads`).
-/

namespace LoopTemplate.Loop

open LoopTemplate.Json

section Roles

variable {σ : Type} {fields : List (RecordField σ)} {level : Nat}

/-- A field that is left out without a value fills in its value, if the record has none before. -/
theorem fills_optionalField {name : String} {field : RecordField σ} {record : σ}
    (set : Option String → σ) (known : fields.find? (fun other => other.name == name) = some field)
    (unset : record = set none)
    (reads : field.read record = decodeOptional decodeString >>= fun value => pure (set value))
    (value : Option String) : Fills fields level record (optionalField name value) (set value) := by
  cases value with
  | none =>
      rw [unset]
      exact .nil _
  | some text =>
      refine fills_field known fun rest => ?_
      rw [reads]
      exact (yields_optionalString isGap_space text rest).map set

end Roles

/-- A configured adapter is filled by the roles that it has. -/
theorem fills_adapterFields (config : AdapterConfig) (level : Nat) :
    Fills adapterFields level ⟨none, none, none⟩
      (optionalField "collection" config.collection ++ optionalField "item" config.item ++
        optionalField "index" config.index) config := by
  obtain ⟨collection, item, index⟩ := config
  have collectionFilled : Fills adapterFields level ⟨none, none, none⟩
      (optionalField "collection" collection) ⟨collection, none, none⟩ :=
    fills_optionalField (AdapterConfig.mk · none none) rfl rfl rfl collection
  have itemFilled : Fills adapterFields level ⟨collection, none, none⟩
      (optionalField "item" item) ⟨collection, item, none⟩ :=
    fills_optionalField (AdapterConfig.mk collection · none) rfl rfl rfl item
  have indexFilled : Fills adapterFields level ⟨collection, item, none⟩
      (optionalField "index" index) ⟨collection, item, index⟩ :=
    fills_optionalField (AdapterConfig.mk collection item ·) rfl rfl rfl index
  exact (collectionFilled.append itemFilled).append indexFilled

theorem names_optionalField (name : String) (value : Option String) :
    ((optionalField name value).map Prod.fst).Sublist [name] := by
  cases value with
  | none => exact List.nil_sublist _
  | some text => exact List.Sublist.refl _

/-- A configured adapter is read back from several lines. -/
theorem yields_decodeAdapterConfig (config : AdapterConfig) (level : Nat) (rest : List Char) :
    Yields decodeAdapterConfig (prettyChars level config.toJson ++ rest) config rest := by
  refine (fills_adapterFields config (level + 1)).yields_decodeRecord ?_ ?_ "AdapterConfig" rest
  · rw [List.map_append, List.map_append]
    have among := ((names_optionalField "collection" config.collection).append
      (names_optionalField "item" config.item)).append (names_optionalField "index" config.index)
    exact among.nodup (by decide)
  · simp [adapterFields]

end LoopTemplate.Loop

namespace LoopTemplate.Project

open LoopTemplate.Files (FileTree join)
open LoopTemplate.Json
open LoopTemplate.Loop (AdapterConfig decodeAdapterConfig decodePolicy decodeTarget
  yields_decodeAdapterConfig)

namespace Config

/-- An adapter that is there is read back as such, even if it has no roles. -/
theorem yields_optionalAdapter (adapter : AdapterConfig) (level : Nat) (rest : List Char) :
    Yields (decodeOptional decodeAdapterConfig) (' ' :: (prettyChars level adapter.toJson ++ rest))
      (some adapter) rest := by
  obtain ⟨gap, -, text_eq⟩ := prettyChars_object level
    (Loop.optionalField "collection" adapter.collection ++ Loop.optionalField "item" adapter.item ++
      Loop.optionalField "index" adapter.index)
  have read := yields_decodeAdapterConfig adapter level rest
  rw [AdapterConfig.toJson, text_eq, List.cons_append] at read ⊢
  exact read.optional isGap_space rfl (by decide)

/-- The fields of a configuration as they are written. -/
theorem exists_toJson (config : Config) :
    ∃ written, config.toJson = .object written ∧ (written.map Prod.fst).Nodup ∧
      "name" ∈ written.map Prod.fst ∧ Fills fields 1 (ofName "") written config := by
  obtain ⟨name, target, adapter, policy, src, out⟩ := config
  have nameFilled : Fills fields 1 (ofName "") [("name", .text name)] (ofName name) :=
    fills_field rfl fun rest => (yields_decodeString isGap_space name rest).map ofName
  have targetFilled : Fills fields 1 (ofName name) [("target", .text target.name)]
      ⟨name, target, none, .flatten, "src", "dist"⟩ :=
    fills_field rfl fun rest =>
      (yields_decodeVariant isGap_space (by cases target <;> rfl) rest).map fun target =>
        Config.mk name target none .flatten "src" "dist"
  have policyFilled : Fills fields 1 ⟨name, target, adapter, .flatten, "src", "dist"⟩
      [("policy", .text policy.name)] ⟨name, target, adapter, policy, "src", "dist"⟩ :=
    fills_field rfl fun rest =>
      (yields_decodeVariant isGap_space (by cases policy <;> rfl) rest).map fun policy =>
        Config.mk name target adapter policy "src" "dist"
  have srcFilled : Fills fields 1 ⟨name, target, adapter, policy, "src", "dist"⟩
      [("src", .text src)] ⟨name, target, adapter, policy, src, "dist"⟩ :=
    fills_field rfl fun rest => (yields_decodeString isGap_space src rest).map fun src =>
      Config.mk name target adapter policy src "dist"
  have outFilled : Fills fields 1 ⟨name, target, adapter, policy, src, "dist"⟩
      [("out", .text out)] ⟨name, target, adapter, policy, src, out⟩ :=
    fills_field rfl fun rest => (yields_decodeString isGap_space out rest).map fun out =>
      Config.mk name target adapter policy src out
  have rest := (policyFilled.append srcFilled).append outFilled
  cases adapter with
  | none =>
      refine ⟨_, rfl, by simp, by simp,
        ((nameFilled.append targetFilled).append (.nil _)).append rest⟩
  | some adapter =>
      have adapterFilled : Fills fields 1 ⟨name, target, none, .flatten, "src", "dist"⟩
          [("adapter", adapter.toJson)] ⟨name, target, some adapter, .flatten, "src", "dist"⟩ :=
        fills_field rfl fun rest => (yields_optionalAdapter adapter 1 rest).map fun adapter =>
          Config.mk name target adapter .flatten "src" "dist"
      refine ⟨_, rfl, by simp, by simp,
        ((nameFilled.append targetFilled).append adapterFilled).append rest⟩

/-- A configuration is read back from the text that it is written as. -/
theorem parse_pretty (config : Config) : parse config.toJson.pretty = .ok config := by
  obtain ⟨written, json_eq, distinct, named, fills⟩ := config.exists_toJson
  apply Yields.decode_eq
  rw [Value.pretty, String.toList_ofList, json_eq, ← List.append_nil (prettyChars 0 _)]
  refine fills.yields_decodeRecord distinct ?_ "Jsx2mpConfig" []
  simpa [fields] using named

end Config

/-! ## Loading -/

section Loading

variable {tree : FileTree} {root : String}

/-- A directory has a configuration: it stands in its file, as a text. -/
def Configured (tree : FileTree) (root : String) (config : Config) : Prop :=
  ∃ text, tree.readText (join root configFile) = .ok text ∧ Config.parse text = .ok config

theorem Configured.unique {config other : Config} (configured : Configured tree root config)
    (again : Configured tree root other) : other = config := by
  obtain ⟨text, read, parsed⟩ := configured
  obtain ⟨otherText, otherRead, otherParsed⟩ := again
  rw [read] at otherRead
  cases otherRead
  rw [parsed] at otherParsed
  cases otherParsed
  rfl

theorem has_of_readText {path text : String} (read : tree.readText path = .ok text) :
    tree.has path = true := by
  unfold FileTree.readText at read
  unfold FileTree.has
  cases found : tree.find path with
  | error error =>
      rw [found] at read
      cases read
  | ok entry => rfl

/-- A text for the configuration is parsed. -/
theorem load_of_readText {text : String} (read : tree.readText (join root configFile) = .ok text) :
    load tree root = ((Config.parse text).mapError .invalidConfig).map (⟨root, ·⟩) := by
  have opened : load tree root =
      (Config.parse text).mapError .invalidConfig >>= fun config => pure ⟨root, config⟩ := by
    rw [load, has_of_readText read, read]
    rfl
  rw [opened]
  cases Config.parse text <;> rfl

/-- A project is loaded from a directory that has its configuration. -/
theorem load_eq_ok {project : Project} :
    load tree root = .ok project ↔ project.root = root ∧ Configured tree root project.config := by
  constructor
  · intro loaded
    cases read : tree.readText (join root configFile) with
    | error error =>
        unfold load at loaded
        dsimp only at loaded
        rw [read] at loaded
        split_ifs at loaded <;> cases loaded
    | ok text =>
        rw [load_of_readText read] at loaded
        cases parsed : Config.parse text with
        | error error =>
            rw [parsed] at loaded
            cases loaded
        | ok config =>
            rw [parsed] at loaded
            cases loaded
            exact ⟨rfl, text, read, parsed⟩
  · rintro ⟨rfl, text, read, parsed⟩
    rw [load_of_readText read, parsed]
    rfl

/-- What is saved is loaded: a configuration is read back from the text that it is written as, so a
directory with this text for its configuration is a project with this very configuration. -/
theorem saved_config_loads (config : Config) :
    Config.parse config.toJson.pretty = .ok config ∧
      ∀ tree root, tree.readText (join root configFile) = .ok config.toJson.pretty →
        load tree root = .ok ⟨root, config⟩ := by
  refine ⟨config.parse_pretty, fun tree root saved => ?_⟩
  exact load_eq_ok.2 ⟨rfl, _, saved, config.parse_pretty⟩

/-- A project with quotes and line breaks in its name, and an adapter without roles. -/
def oddConfig : Config :=
  ⟨"\"a\\\n\t\u0001é𝄞\"", .wechat, some ⟨none, none, none⟩, .scoped, "src", ""⟩

/-- A directory with this configuration. -/
def oddFiles : FileTree :=
  ⟨[(["app"], .directory), (["app", configFile], .text oddConfig.toJson.pretty)]⟩

theorem odd_config_loads :
    oddFiles.readText (join "/app" configFile) = .ok oddConfig.toJson.pretty ∧
      load oddFiles "/app" = .ok ⟨"/app", oddConfig⟩ := by
  have saved : oddFiles.readText (join "/app" configFile) = .ok oddConfig.toJson.pretty := rfl
  exact ⟨saved, (saved_config_loads oddConfig).2 oddFiles "/app" saved⟩

end Loading

end LoopTemplate.Project
