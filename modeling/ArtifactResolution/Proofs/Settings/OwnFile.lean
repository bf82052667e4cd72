import ArtifactResolution.Proofs.Outcomes
import ArtifactResolution.Settings.Loading

namespace ArtifactResolution.ResolutionSettings
set_option autoImplicit false

variable {fs fs' : FileSystem} {env : Environment} {overrides : SettingsOverrides}
  {path missing : UnixPath} {path? : Option UnixPath} {dir : UnixPath}

def fileIn (dir : UnixPath) : UnixPath := dir.join defaultFile.text

@[simp] theorem fileIn_empty : fileIn ⟨""⟩ = defaultFile := by decide

theorem loadLayers_none : loadLayers fs env none overrides =
    (ofEntries (layered [] env overrides)).mapError .invalidValue := rfl

theorem loadLayers_some : loadLayers fs env (some path) overrides =
    (fileEntries fs path).map (SourcedValue.ofEntries (.file path)) >>= fun file =>
      (ofEntries (layered file env overrides)).mapError .invalidValue := rfl

section Congruence
variable (h : fs.entry? path = fs'.entry? path)
include h

theorem contains_congr : fs.contains path = fs'.contains path := by
  rw [FileSystem.contains, FileSystem.contains, h]

theorem fileEntries_congr : fileEntries fs path = fileEntries fs' path := by
  rw [fileEntries, fileEntries, FileSystem.text?, FileSystem.text?, h]

theorem loadLayers_congr :
    loadLayers fs env (some path) overrides = loadLayers fs' env (some path) overrides := by
  rw [loadLayers_some, loadLayers_some, fileEntries_congr h]

theorem load_given_congr :
    load fs env (some path) overrides = load fs' env (some path) overrides := by
  rw [load, load, contains_congr h, loadLayers_congr h]

end Congruence

theorem loadFromDirectory_of_contains (h : fs.contains (fileIn dir)) :
    loadFromDirectory fs env dir overrides = load fs env (some (fileIn dir)) overrides :=
  if_pos h

theorem loadFromDirectory_of_not_contains (h : ¬fs.contains (fileIn dir)) :
    loadFromDirectory fs env dir overrides = loadLayers fs env none overrides :=
  if_neg h

theorem load_none_of_contains (h : fs.contains defaultFile) :
    load fs env none overrides = loadLayers fs env (some defaultFile) overrides := by
  rw [load, if_pos h]

theorem load_none_of_not_contains (h : ¬fs.contains defaultFile) :
    load fs env none overrides = loadLayers fs env none overrides := by
  rw [load, if_neg h]

theorem load_some_of_contains (h : fs.contains path) :
    load fs env (some path) overrides = loadLayers fs env (some path) overrides :=
  if_pos h

theorem load_some_of_not_contains (h : ¬fs.contains path) :
    load fs env (some path) overrides = .error (.notFound path) :=
  if_neg h

theorem load_none_eq_loadFromDirectory :
    load fs env none overrides = loadFromDirectory fs env ⟨""⟩ overrides := by
  by_cases h : fs.contains defaultFile
  · have hdir : fs.contains (fileIn ⟨""⟩) := by rwa [fileIn_empty]
    rw [load_none_of_contains h, loadFromDirectory_of_contains hdir, fileIn_empty,
      load_some_of_contains h]
  · have hdir : ¬fs.contains (fileIn ⟨""⟩) := by rwa [fileIn_empty]
    rw [load_none_of_not_contains h, loadFromDirectory_of_not_contains hdir]

theorem loadFromDirectory_congr (h : fs.entry? (fileIn dir) = fs'.entry? (fileIn dir)) :
    loadFromDirectory fs env dir overrides = loadFromDirectory fs' env dir overrides := by
  by_cases hcontains : fs.contains (fileIn dir)
  · have hcontains' : fs'.contains (fileIn dir) := by rwa [← contains_congr h]
    rw [loadFromDirectory_of_contains hcontains, loadFromDirectory_of_contains hcontains',
      load_given_congr h]
  · have hcontains' : ¬fs'.contains (fileIn dir) := by rwa [← contains_congr h]
    rw [loadFromDirectory_of_not_contains hcontains, loadFromDirectory_of_not_contains hcontains',
      loadLayers_none, loadLayers_none]

theorem fileEntries_ne_notFound : fileEntries fs path ≠ .error (.notFound missing) := by
  rw [fileEntries]
  split
  · nofun
  · split <;> nofun

theorem loadLayers_ne_notFound : loadLayers fs env path? overrides ≠ .error (.notFound missing) := by
  intro h
  cases path? with
  | none =>
    obtain ⟨_, _, heq⟩ := mapError_eq_error_iff.1 (loadLayers_none.symm.trans h)
    cases heq
  | some path =>
    rcases bind_eq_error_iff.1 (loadLayers_some.symm.trans h) with hfile | ⟨_, _, hread⟩
    · exact fileEntries_ne_notFound (map_eq_error_iff.1 hfile)
    · obtain ⟨_, _, heq⟩ := mapError_eq_error_iff.1 hread
      cases heq

theorem loadFromDirectory_ne_notFound :
    loadFromDirectory fs env dir overrides ≠ .error (.notFound missing) := by
  by_cases h : fs.contains (fileIn dir)
  · rw [loadFromDirectory_of_contains h, load_some_of_contains h]
    exact loadLayers_ne_notFound
  · rw [loadFromDirectory_of_not_contains h]
    exact loadLayers_ne_notFound

theorem load_eq_notFound_iff : load fs env path? overrides = .error (.notFound missing) ↔
    path? = some missing ∧ ¬fs.contains missing := by
  cases path? with
  | none =>
    rw [load_none_eq_loadFromDirectory]
    simp [loadFromDirectory_ne_notFound]
  | some path =>
    by_cases h : fs.contains path
    · rw [load_some_of_contains h]
      refine iff_of_false loadLayers_ne_notFound ?_
      rintro ⟨⟨⟩, hmissing⟩
      exact hmissing h
    · rw [load_some_of_not_contains h]
      constructor
      · rintro ⟨⟩
        exact ⟨rfl, h⟩
      · rintro ⟨⟨⟩, _⟩
        rfl

/-- Each way to load settings depends on what lies at one path and on no other file. A directory
whose file exists is loaded as that file; otherwise what comes of it is what comes of any load that
finds no file, and it is never missed. To load without a path is to load from the directory with the
empty path. A path that is given and leads to nothing is reported, whatever the other sources hold,
and nothing else is reported as missing. -/
theorem load_reads_own_file (env : Environment) (overrides : SettingsOverrides) :
    (∀ (fs fs' : FileSystem) dir, fs.entry? (fileIn dir) = fs'.entry? (fileIn dir) →
      loadFromDirectory fs env dir overrides = loadFromDirectory fs' env dir overrides) ∧
    (∀ (fs fs' : FileSystem) path, fs.entry? path = fs'.entry? path →
      load fs env (some path) overrides = load fs' env (some path) overrides) ∧
    (∀ fs fs' : FileSystem, fs.entry? defaultFile = fs'.entry? defaultFile →
      load fs env none overrides = load fs' env none overrides) ∧
    (∀ (fs : FileSystem) dir, fs.contains (fileIn dir) →
      loadFromDirectory fs env dir overrides = load fs env (some (fileIn dir)) overrides) ∧
    (∀ (fs fs' : FileSystem) dir, ¬fs.contains (fileIn dir) →
      loadFromDirectory fs env dir overrides =
        (ofEntries (layered [] env overrides)).mapError .invalidValue ∧
      (¬fs'.contains defaultFile →
        loadFromDirectory fs env dir overrides = load fs' env none overrides)) ∧
    (∀ fs dir missing, loadFromDirectory fs env dir overrides ≠ .error (.notFound missing)) ∧
    (∀ fs, load fs env none overrides = loadFromDirectory fs env ⟨""⟩ overrides) ∧
    (∀ fs path? missing, load fs env path? overrides = .error (.notFound missing) ↔
      path? = some missing ∧ ¬fs.contains missing) := by
  refine ⟨fun _ _ _ => loadFromDirectory_congr, fun _ _ _ => load_given_congr, ?_,
    fun _ _ => loadFromDirectory_of_contains, ?_, fun _ _ _ => loadFromDirectory_ne_notFound,
    fun _ => load_none_eq_loadFromDirectory, fun _ _ _ => load_eq_notFound_iff⟩
  · intro fs fs' h
    rw [load_none_eq_loadFromDirectory, load_none_eq_loadFromDirectory]
    apply loadFromDirectory_congr
    rwa [fileIn_empty]
  · intro fs fs' dir h
    rw [loadFromDirectory_of_not_contains h]
    exact ⟨loadLayers_none, fun h' => (load_none_of_not_contains h').symm⟩

/-- A default file that cannot be read as settings, and a directory without a file. -/
def unreadableDefault : FileSystem :=
  ((({} : FileTree).addFile defaultFile "sort_order = 3").addDirectory ⟨"sub"⟩).toFileSystem

theorem load_reads_own_file_elsewhere :
    let bare := ({} : FileTree).toFileSystem
    let file := fileIn ⟨"sub"⟩
    unreadableDefault.entry? file = bare.entry? file ∧ ¬unreadableDefault.contains file ∧
    loadFromDirectory unreadableDefault ∅ ⟨"sub"⟩ {} = loadFromDirectory bare ∅ ⟨"sub"⟩ {} ∧
    loadFromDirectory unreadableDefault ∅ ⟨"sub"⟩ {} = .ok {} ∧
    load unreadableDefault ∅ (some file) {} = .error (.notFound file) ∧
    (load unreadableDefault ∅ none {}).toOption = none := by
  intro bare file
  have hentry : unreadableDefault.entry? file = bare.entry? file := by decide +kernel
  have hmissing : ¬unreadableDefault.contains file := by decide +kernel
  obtain ⟨hown, _, _, _, hnone, _, _, hnotFound⟩ := load_reads_own_file ∅ {}
  refine ⟨hentry, hmissing, hown _ _ _ hentry, ?_, ?_, by decide +kernel⟩
  · rw [(hnone _ bare _ hmissing).1]
    exact eq_ok_of_toOption (by decide +kernel)
  · exact (hnotFound _ (some file) file).2 ⟨rfl, hmissing⟩

end ArtifactResolution.ResolutionSettings
