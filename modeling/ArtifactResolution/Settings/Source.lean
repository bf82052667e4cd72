import ArtifactResolution.Settings.Value
import ArtifactResolution.UnixPath

namespace ArtifactResolution
set_option autoImplicit false

inductive SettingsSource where
  | file (path : UnixPath)
  | environment
  | overrides
deriving DecidableEq

namespace SettingsSource

/-- What the names of environment variables for settings begin with. -/
def variablePrefix : String := "CAIRN_"

def describe : SettingsSource → String
  | file path => path.normalized ++ " TOML file"
  | environment => s!"`{variablePrefix}` environment variable(s)"
  | overrides => "overrides"

/-- A path of keys as it is written in the source. -/
def keyText (source : SettingsSource) (keys : List String) : String :=
  match source with
  | environment => ".".intercalate (keys.map String.toUpper)
  | _ => ".".intercalate ("default" :: keys)

end SettingsSource

/-- A value with its source; the entries of a table have their own. -/
inductive SourcedValue where
  | plain (source : SettingsSource) (value : RawValue)
  | table (source : SettingsSource) (entries : List (String × SourcedValue))

namespace SourcedValue

def source : SourcedValue → SettingsSource
  | plain source _ => source
  | table source _ => source

/-- The value without its source; of a table only that it is one. -/
def shape : SourcedValue → RawValue
  | plain _ value => value
  | table .. => .table []

mutual

/-- A value all of which comes from one source. -/
def ofRaw (source : SettingsSource) : RawValue → SourcedValue
  | .table entries => table source (ofEntries source entries)
  | value => plain source value

def ofEntries (source : SettingsSource) : List (String × RawValue) → List (String × SourcedValue)
  | [] => []
  | (key, value) :: entries => (key, ofRaw source value) :: ofEntries source entries

end

mutual

/-- Lays a value over another: tables are merged key by key, anything else is replaced. -/
def overlay (lower : SourcedValue) : SourcedValue → SourcedValue
  | plain source value => plain source value
  | table source entries =>
    match lower with
    | plain .. => table source entries
    | table _ lowerEntries => table source (overlayEntries lowerEntries entries)

def overlayEntries (lower : List (String × SourcedValue)) :
    List (String × SourcedValue) → List (String × SourcedValue)
  | [] => lower
  | (key, value) :: entries =>
    let value := match lower.lookup key with
      | some old => overlay old value
      | none => value
    overlayEntries (SortedEntries.insert key value lower) entries

end

end SourcedValue

end ArtifactResolution
