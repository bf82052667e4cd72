import ArtifactResolution.FileSystem
import ArtifactResolution.Settings.Reading
import ArtifactResolution.Settings.Variable
import ArtifactResolution.Toml.Document

namespace ArtifactResolution
set_option autoImplicit false

def RawValue.entries : RawValue → List (String × RawValue)
  | .table entries => entries
  | _ => []

/-- A value inside a table for each key that leads to it. -/
def RawValue.nested : List String → RawValue → RawValue
  | [], value => value
  | key :: keys, value => .table [(key, nested keys value)]

namespace Environment

/-- The values that the variables stand for, each laid over those of the variables before it. -/
def settingsEntries (env : Environment) : List (String × SourcedValue) :=
  env.toList.foldl
    (fun entries (name, text) =>
      match keys? SettingsSource.variablePrefix name with
      | some (key :: keys) =>
        SourcedValue.overlayEntries entries
          (SourcedValue.ofEntries .environment [(key, .nested keys (Variable.read text))])
      | _ => entries)
    []

end Environment

/-- The overrides that are set, under the names of their settings. -/
def SettingsOverrides.settingsEntries (o : SettingsOverrides) : List (String × RawValue) :=
  (o.buildProjects.map fun b => ("build_project_dependencies", .bool b)).toList ++
  (o.logLevel.map fun level => ("log_level", .text level.name)).toList ++
  (o.order.map fun order => ("sort_order", .text order.toString)).toList

namespace ResolutionSettings

/-- The file that is looked for where no path is given. -/
def defaultFile : UnixPath := ⟨"cairn.toml"⟩

/-- The values in a file; a directory in its place has none, nor has a file whose full path is too
long. -/
def fileEntries (fs : FileSystem) (path : UnixPath) :
    Except SettingsError (List (String × RawValue)) :=
  match fs.text? path with
  | none => .ok []
  | some text =>
    match Toml.parse? text >>= fun document => RawValue.entryContents? document.entries with
    | some entries => .ok entries
    | none => .error .invalidDocument

/-- The values of a file, under those of the environment, under the overrides. -/
def layered (file : List (String × SourcedValue)) (env : Environment)
    (overrides : SettingsOverrides) : List (String × SourcedValue) :=
  SourcedValue.overlayEntries
    (SourcedValue.overlayEntries file env.settingsEntries)
    (SourcedValue.ofEntries .overrides overrides.settingsEntries)

def loadLayers (fs : FileSystem) (env : Environment) (file : Option UnixPath)
    (overrides : SettingsOverrides) : Except SettingsError ResolutionSettings := do
  let fileLayer ← match file with
    | some path => (fileEntries fs path).map (SourcedValue.ofEntries (.file path))
    | none => .ok []
  (ofEntries (layered fileLayer env overrides)).mapError .invalidValue

/-- Loads settings. A path that is given must exist; otherwise the default file is read if it is
there. -/
def load (fs : FileSystem) (env : Environment) (path : Option UnixPath)
    (overrides : SettingsOverrides) : Except SettingsError ResolutionSettings :=
  match path with
  | some path =>
    if fs.contains path then loadLayers fs env (some path) overrides else .error (.notFound path)
  | none => loadLayers fs env (if fs.contains defaultFile then some defaultFile else none) overrides

def loadFromDirectory (fs : FileSystem) (env : Environment) (dir : UnixPath)
    (overrides : SettingsOverrides) : Except SettingsError ResolutionSettings :=
  let file := dir.join defaultFile.text
  if fs.contains file then load fs env (some file) overrides else loadLayers fs env none overrides

end ResolutionSettings

end ArtifactResolution
