import ArtifactResolution.Settings
import ArtifactResolution.Settings.Error

namespace ArtifactResolution
set_option autoImplicit false

def SourcedValue.toBool (keys : List String) : SourcedValue → Except ValueError Bool
  | .plain _ (.bool b) => .ok b
  | value => .error ⟨.invalidType value.shape "a boolean", keys, value.source⟩

/-- Reads a name, which stands alone or as the first key of a table. As a key it must not have a
value, which no source can express. -/
def SourcedValue.toName {α : Type} (type : String) (names : List (String × α))
    (keys : List String) : SourcedValue → Except ValueError α
  | .plain source (.text s) =>
    match names.lookup s with
    | some a => .ok a
    | none => .error ⟨.unknownVariant s (names.map (·.1)), keys, source⟩
  | .plain source value => .error ⟨.invalidType value ("enum " ++ type), keys, source⟩
  | .table source [] => .error ⟨.invalidType (.table []) "enum", keys, source⟩
  | .table _ ((s, value) :: _) =>
    match names.lookup s with
    | some _ => .error ⟨.invalidType value.shape "unit", keys ++ [s], value.source⟩
    | none => .error ⟨.unknownVariant s (names.map (·.1)), keys ++ [s], value.source⟩

namespace ResolutionSettings

def readField {α : Type} (entries : List (String × SourcedValue)) (key : String)
    (read : List String → SourcedValue → Except ValueError α) : Except ValueError (Option α) :=
  match entries.lookup key with
  | some value => (read [key] value).map some
  | none => .ok none

/-- Reads the settings, those whose names come first before the others. -/
def ofEntries (entries : List (String × SourcedValue)) : Except ValueError ResolutionSettings := do
  let buildProjects ← readField entries "build_project_dependencies" SourcedValue.toBool
  let logLevel ← readField entries "log_level" (SourcedValue.toName "LogLevel" LogLevel.names)
  let order ← readField entries "sort_order"
    (SourcedValue.toName "SortOrder" (SortOrder.all.map fun o => (o.toString, o)))
  return { buildProjects := buildProjects.getD true, order := order.getD .default, logLevel }

end ResolutionSettings

end ArtifactResolution
