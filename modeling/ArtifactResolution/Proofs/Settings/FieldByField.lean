import ArtifactResolution.Proofs.Outcomes
import ArtifactResolution.Proofs.Settings.Overlay
import ArtifactResolution.Settings.Loading

namespace ArtifactResolution
set_option autoImplicit false

open SourcedValue (merged held)

/-- A setting has a key, under which it is read from the sources, and a default. -/
structure Setting (α : Type) where
  key : String
  read : List String → SourcedValue → Except ValueError α
  default : α

namespace Setting
variable {α : Type}

def buildProjects : Setting Bool := ⟨"build_project_dependencies", SourcedValue.toBool, true⟩

def logLevel : Setting (Option LogLevel) where
  key := "log_level"
  read keys value := (value.toName "LogLevel" LogLevel.names keys).map some
  default := none

def order : Setting SortOrder where
  key := "sort_order"
  read keys value := value.toName "SortOrder" (SortOrder.all.map fun o => (o.toString, o)) keys
  default := .default

def keys : List String := [buildProjects.key, logLevel.key, order.key]

/-- What comes of a setting that has a value, or none. -/
def ofValue? (s : Setting α) (value? : Option SourcedValue) : Except ValueError α :=
  value?.elim (.ok s.default) (s.read [s.key])

/-- What comes of a setting, by the values that the sources hold under each key. -/
def outcome (s : Setting α) (values : String → List SourcedValue) : Except ValueError α :=
  s.ofValue? (merged (values s.key))

/-- The name of a setting that cannot be read, and why it cannot. -/
def failure? (s : Setting α) (values : String → List SourcedValue) : Option (String × ValueError) :=
  match s.outcome values with
  | .ok _ => none
  | .error e => some (s.key, e)

variable {s : Setting α} {values : String → List SourcedValue}

theorem outcome_of_plain {source : SettingsSource} {value : RawValue} {lower : List SourcedValue}
    (h : values s.key = .plain source value :: lower) :
    s.outcome values = s.read [s.key] (.plain source value) := by
  rw [outcome, h, SourcedValue.merged_plain]
  rfl

theorem outcome_of_nil (h : values s.key = []) : s.outcome values = .ok s.default := by
  rw [outcome, h]
  rfl

theorem outcome_congr {values' : String → List SourcedValue} (h : values s.key = values' s.key) :
    s.outcome values = s.outcome values' := by
  rw [outcome, outcome, h]

theorem failure?_sublist (s : Setting α) (values : String → List SourcedValue) :
    ((s.failure? values).toList.map (·.1)).Sublist [s.key] := by
  rw [failure?]
  cases s.outcome values with
  | ok a => exact List.nil_sublist _
  | error e => exact .refl _

end Setting

namespace ResolutionSettings

def usedFile (fs : FileSystem) (path : Option UnixPath) : Option UnixPath :=
  path.or (if fs.contains defaultFile then some defaultFile else none)

/-- What the file that is read holds; a file without text, or no file, holds nothing. -/
def fileLayer (fs : FileSystem) (path : Option UnixPath) :
    Except SettingsError (List (String × SourcedValue)) :=
  match usedFile fs path with
  | some path => (fileEntries fs path).map (SourcedValue.ofEntries (.file path))
  | none => .ok []

/-- The sources of settings, from the one that takes precedence over all others. -/
def sources (file : List (String × SourcedValue)) (env : Environment)
    (overrides : SettingsOverrides) : List (List (String × SourcedValue)) :=
  [SourcedValue.ofEntries .overrides overrides.settingsEntries, env.settingsEntries, file]

/-- What comes of all settings together, by the values that the sources hold under each key. -/
def ofValues (values : String → List SourcedValue) : Except ValueError ResolutionSettings := do
  let buildProjects ← Setting.buildProjects.outcome values
  let logLevel ← Setting.logLevel.outcome values
  let order ← Setting.order.outcome values
  return { buildProjects, order, logLevel }

def failures (values : String → List SourcedValue) : List (String × ValueError) :=
  (Setting.buildProjects.failure? values).toList ++ (Setting.logLevel.failure? values).toList ++
    (Setting.order.failure? values).toList

variable {fs : FileSystem} {env : Environment} {path : Option UnixPath}
  {overrides : SettingsOverrides} {file : List (String × SourcedValue)}
  {values : String → List SourcedValue}

theorem ascending_settingsEntries (env : Environment) :
    SortedEntries.Ascending env.settingsEntries := by
  refine List.foldlRecOn env.toList _ .nil fun entries h _ _ => ?_
  dsimp only
  split
  · exact SourcedValue.ascending_overlayEntries h
  · exact h

theorem nodup_overrides (overrides : SettingsOverrides) :
    ((SourcedValue.ofEntries .overrides overrides.settingsEntries).map (·.1)).Nodup := by
  obtain ⟨buildProjects, order, logLevel⟩ := overrides
  rw [SourcedValue.keys_ofEntries]
  cases buildProjects <;> cases order <;> cases logLevel <;>
    simp [SettingsOverrides.settingsEntries]

theorem lookup_layered (file : List (String × SourcedValue)) (env : Environment)
    (overrides : SettingsOverrides) (key : String) :
    (layered file env overrides).lookup key = merged (held (sources file env overrides) key) := by
  rw [layered, SourcedValue.lookup_overlayEntries (nodup_overrides overrides),
    SourcedValue.lookup_overlayEntries (ascending_settingsEntries env).nodup_keys,
    SourcedValue.merged_append_toList]
  simp [sources]

theorem loadLayers_usedFile (hfile : fileLayer fs path = .ok file) :
    loadLayers fs env (usedFile fs path) overrides =
      (ofEntries (layered file env overrides)).mapError .invalidValue := by
  unfold loadLayers
  rw [fileLayer] at hfile
  cases hused : usedFile fs path with
  | none =>
    rw [hused] at hfile
    cases hfile
    rfl
  | some used =>
    rw [hused] at hfile
    simp only [hfile]
    rfl

theorem load_eq_loadLayers (hpath : ∀ p, path = some p → fs.contains p) :
    load fs env path overrides = loadLayers fs env (usedFile fs path) overrides := by
  cases path with
  | none => rfl
  | some path => exact if_pos (hpath path rfl)

theorem ofEntries_eq {entries : List (String × SourcedValue)}
    (h : ∀ key, entries.lookup key = merged (values key)) :
    ofEntries entries = ofValues values := by
  -- Reading keeps a level that is not set, and puts the defaults of the others in at the end.
  have hfield {α : Type} (s : Setting α) :
      (readField entries s.key s.read).map (·.getD s.default) = s.outcome values := by
    rw [readField, h, Setting.outcome, Setting.ofValue?]
    cases merged (values s.key) with
    | none => rfl
    | some value =>
      dsimp only [Option.elim_some]
      cases s.read [s.key] value <;> rfl
  have hbuild : (readField entries "build_project_dependencies" SourcedValue.toBool).map
      (·.getD true) = Setting.buildProjects.outcome values := hfield Setting.buildProjects
  have horder : (readField entries "sort_order" (SourcedValue.toName "SortOrder"
      (SortOrder.all.map fun o => (o.toString, o)))).map (·.getD .default) =
      Setting.order.outcome values := hfield Setting.order
  have hlevel : readField entries "log_level" (SourcedValue.toName "LogLevel" LogLevel.names) =
      Setting.logLevel.outcome values := by
    rw [readField, h]
    show _ = (merged (values "log_level")).elim _ _
    cases merged (values "log_level") <;> rfl
  rw [ofEntries, ofValues, ← hbuild, ← horder, ← hlevel]
  cases readField entries "build_project_dependencies" SourcedValue.toBool with
  | error e => rfl
  | ok buildProjects =>
    cases readField entries "log_level" (SourcedValue.toName "LogLevel" LogLevel.names) with
    | error e => rfl
    | ok logLevel => cases readField entries "sort_order" _ <;> rfl

theorem ofValues_eq_ok_iff {settings : ResolutionSettings} : ofValues values = .ok settings ↔
    Setting.buildProjects.outcome values = .ok settings.buildProjects ∧
      Setting.logLevel.outcome values = .ok settings.logLevel ∧
      Setting.order.outcome values = .ok settings.order := by
  obtain ⟨buildProjects, order, logLevel⟩ := settings
  rw [ofValues]
  cases Setting.buildProjects.outcome values <;> cases Setting.logLevel.outcome values <;>
    cases Setting.order.outcome values <;> simp [bind, Except.bind, pure, Except.pure, and_comm]

theorem ofValues_eq_error_iff {e : ValueError} :
    ofValues values = .error e ↔ ∃ key, (failures values).head? = some (key, e) := by
  rw [ofValues, failures]
  cases hb : Setting.buildProjects.outcome values <;> cases hl : Setting.logLevel.outcome values <;>
    cases ho : Setting.order.outcome values <;>
    simp [bind, Except.bind, pure, Except.pure, Setting.failure?, hb, hl, ho]

theorem ascending_failures (values : String → List SourcedValue) :
    (failures values).Pairwise (·.1 < ·.1) := by
  have hkeys : Setting.keys.Pairwise (· < ·) := by decide
  have hfailed : ((failures values).map (·.1)).Sublist Setting.keys := by
    rw [failures, List.map_append, List.map_append]
    exact ((Setting.failure?_sublist _ _).append (Setting.failure?_sublist _ _)).append
      (Setting.failure?_sublist _ _)
  exact List.pairwise_map.1 (hkeys.sublist hfailed)

theorem ofValues_congr {values' : String → List SourcedValue}
    (h : ∀ key ∈ Setting.keys, values key = values' key) : ofValues values = ofValues values' := by
  rw [ofValues, ofValues, Setting.outcome_congr (h _ (by simp [Setting.keys])),
    Setting.outcome_congr (s := Setting.logLevel) (h _ (by simp [Setting.keys])),
    Setting.outcome_congr (s := Setting.order) (h _ (by simp [Setting.keys]))]

theorem load_eq_ofValues (hpath : ∀ p, path = some p → fs.contains p)
    (hfile : fileLayer fs path = .ok file) : load fs env path overrides =
      (ofValues (held (sources file env overrides))).mapError .invalidValue := by
  rw [load_eq_loadLayers hpath, loadLayers_usedFile hfile,
    ofEntries_eq (lookup_layered file env overrides)]

theorem ofValues_overrides (file : List (String × SourcedValue)) (env : Environment)
    (buildProjects : Bool) (order : SortOrder) (level : LogLevel) :
    ofValues (held (sources file env ⟨some buildProjects, some order, some level⟩)) =
      .ok ⟨buildProjects, order, some level⟩ := by
  rw [ofValues_eq_ok_iff]
  refine ⟨?_, ?_, ?_⟩
  · calc
      _ = Setting.buildProjects.read ["build_project_dependencies"]
          (.plain .overrides (.bool buildProjects)) := Setting.outcome_of_plain rfl
      _ = .ok buildProjects := rfl
  · calc
      _ = Setting.logLevel.read ["log_level"] (.plain .overrides (.text level.name)) :=
        Setting.outcome_of_plain rfl
      _ = .ok (some level) := by cases level <;> rfl
  · calc
      _ = Setting.order.read ["sort_order"] (.plain .overrides (.text order.toString)) :=
        Setting.outcome_of_plain rfl
      _ = .ok order := by cases order <;> rfl

/-- Settings are loaded one by one, where a path that is given leads to something and the file, if
there is one, can be read. Loading succeeds exactly if all settings do, and else it reports the one
whose name comes first. If the uppermost source with a value for a setting has one that is not a
table, the setting is read from it alone; a setting without a value keeps its default. What the
sources hold under other names does not matter, and what is overridden is as the overrides say. -/
theorem load_field_by_field (env : Environment) (overrides : SettingsOverrides)
    (hpath : ∀ p, path = some p → fs.contains p) (hfile : fileLayer fs path = .ok file) :
    let values := held (sources file env overrides)
    (∀ settings, load fs env path overrides = .ok settings ↔
      Setting.buildProjects.outcome values = .ok settings.buildProjects ∧
      Setting.logLevel.outcome values = .ok settings.logLevel ∧
      Setting.order.outcome values = .ok settings.order) ∧
    (∀ e, load fs env path overrides = .error e ↔
      ∃ key problem, (failures values).head? = some (key, problem) ∧ e = .invalidValue problem) ∧
    (failures values).Pairwise (·.1 < ·.1) ∧
    (∀ {α : Type} (s : Setting α),
      (∀ source value lower, values s.key = .plain source value :: lower →
        s.outcome values = s.read [s.key] (.plain source value)) ∧
      (values s.key = [] → s.outcome values = .ok s.default)) ∧
    (∀ {fs' env' path' overrides' file'}, (∀ p, path' = some p → fs'.contains p) →
      fileLayer fs' path' = .ok file' →
      (∀ key ∈ Setting.keys, held (sources file' env' overrides') key = values key) →
      load fs' env' path' overrides' = load fs env path overrides) ∧
    (∀ buildProjects order level, overrides = ⟨some buildProjects, some order, some level⟩ →
      load fs env path overrides = .ok ⟨buildProjects, order, some level⟩) := by
  intro values
  have hload : load fs env path overrides = (ofValues values).mapError .invalidValue :=
    load_eq_ofValues hpath hfile
  refine ⟨?_, ?_, ascending_failures values, ?_, ?_, ?_⟩
  · intro settings
    rw [hload, mapError_eq_ok_iff, ofValues_eq_ok_iff]
  · intro e
    rw [hload, mapError_eq_error_iff]
    constructor
    · rintro ⟨problem, hproblem, rfl⟩
      obtain ⟨key, hfirst⟩ := ofValues_eq_error_iff.1 hproblem
      exact ⟨key, problem, hfirst, rfl⟩
    · rintro ⟨key, problem, hfirst, rfl⟩
      exact ⟨problem, ofValues_eq_error_iff.2 ⟨key, hfirst⟩, rfl⟩
  · exact fun s => ⟨fun _ _ _ => Setting.outcome_of_plain, Setting.outcome_of_nil⟩
  · intro fs' env' path' overrides' file' hpath' hfile' hsame
    rw [hload, load_eq_ofValues hpath' hfile', ofValues_congr hsame]
  · rintro buildProjects order level rfl
    rw [hload, ofValues_overrides]
    rfl

/-- A level, an order that there is not, and a table that is not for a setting. -/
def sampleFiles : FileSystem where
  entry? p := if p = defaultFile then
    some (.file "log_level = 'debug'\nsort_order = 3\n[other]\nlog_level = 1\n") else none

def sampleLayer : List (String × SourcedValue) :=
  (fileLayer sampleFiles (some defaultFile)).toOption.getD []

def sampleEnvironment : Environment := (∅ : Environment).insert "CAIRN_SORT_ORDER" "consumer-first"

theorem load_field_by_field_sample :
    (∀ p, some defaultFile = some p → sampleFiles.contains p) ∧
    fileLayer sampleFiles (some defaultFile) = .ok sampleLayer ∧
    load sampleFiles sampleEnvironment (some defaultFile) { buildProjects := some false } =
      .ok ⟨false, .consumerFirst, some .debug⟩ := by
  have hpath : ∀ p, some defaultFile = some p → sampleFiles.contains p := by
    rintro p ⟨⟩
    decide
  have hread : (fileLayer sampleFiles (some defaultFile)).toOption.isSome := by decide +kernel
  have hfile : fileLayer sampleFiles (some defaultFile) = .ok sampleLayer := by
    obtain ⟨layer, hlayer⟩ := Option.isSome_iff_exists.1 hread
    rw [sampleLayer, hlayer]
    exact eq_ok_of_toOption hlayer
  have hloaded := load_field_by_field sampleEnvironment { buildProjects := some false } hpath hfile
  exact ⟨hpath, hfile, (hloaded.1 _).2 ⟨eq_ok_of_toOption (by decide +kernel),
    eq_ok_of_toOption (by decide +kernel), eq_ok_of_toOption (by decide +kernel)⟩⟩

end ResolutionSettings

end ArtifactResolution
