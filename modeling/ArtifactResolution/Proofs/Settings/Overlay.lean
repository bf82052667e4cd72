import ArtifactResolution.Proofs.SortedEntries
import ArtifactResolution.Settings.Source

namespace ArtifactResolution.SourcedValue
set_option autoImplicit false

variable {lower upper : List (String × SourcedValue)}

/-- Values laid over each other, the uppermost first. -/
def merged : List SourcedValue → Option SourcedValue
  | [] => none
  | value :: lower => some ((merged lower).elim value fun old => old.overlay value)

theorem merged_plain (source : SettingsSource) (value : RawValue) (lower : List SourcedValue) :
    merged (plain source value :: lower) = some (plain source value) := by
  rw [merged]
  cases merged lower with
  | none => rfl
  | some old => rw [Option.elim_some, overlay]

theorem merged_toList (values : List SourcedValue) :
    merged (merged values).toList = merged values := by
  cases h : merged values with
  | none => rfl
  | some value => rfl

theorem merged_append_toList (value? : Option SourcedValue) (lower : List SourcedValue) :
    merged (value?.toList ++ (merged lower).toList) = merged (value?.toList ++ lower) := by
  cases value? with
  | none => exact merged_toList lower
  | some value =>
    rw [Option.toList_some, List.singleton_append, List.singleton_append, merged, merged,
      merged_toList]

/-- The values that layers hold under a key, where the uppermost layer stands first. -/
def held (layers : List (List (String × SourcedValue))) (key : String) : List SourcedValue :=
  layers.filterMap (·.lookup key)

@[simp] theorem held_nil (key : String) : held [] key = [] := rfl

@[simp] theorem held_cons (layer : List (String × SourcedValue))
    (layers : List (List (String × SourcedValue))) (key : String) :
    held (layer :: layers) key = (layer.lookup key).toList ++ held layers key := by
  cases h : layer.lookup key <;> simp [held, h]

theorem lookup_overlayEntries (hnodup : (upper.map (·.1)).Nodup) (key : String) :
    (overlayEntries lower upper).lookup key =
      merged ((upper.lookup key).toList ++ (lower.lookup key).toList) := by
  induction upper generalizing lower with
  | nil =>
    rw [overlayEntries]
    cases lower.lookup key <;> rfl
  | cons e upper ih =>
    obtain ⟨k, value⟩ := e
    obtain ⟨hnew, hrest⟩ := List.nodup_cons.1 hnodup
    rw [overlayEntries, ih hrest, SortedEntries.lookup_insert, List.lookup_cons]
    by_cases hkey : key = k
    · subst hkey
      have hnone : upper.lookup key = none := List.lookup_eq_none_iff.2 fun e he =>
        bne_iff_ne.2 fun hkey => hnew (List.mem_map.2 ⟨e, he, hkey.symm⟩)
      rw [if_pos rfl, hnone, beq_self_eq_true]
      cases lower.lookup key <;> rfl
    · rw [if_neg hkey, beq_eq_false_iff_ne.2 hkey]

theorem ascending_overlayEntries (h : SortedEntries.Ascending lower) :
    SortedEntries.Ascending (overlayEntries lower upper) := by
  induction upper generalizing lower with
  | nil => rwa [overlayEntries]
  | cons e upper ih =>
    rw [overlayEntries]
    exact ih (SortedEntries.ascending_insert _ _ h)

theorem keys_ofEntries (source : SettingsSource) (entries : List (String × RawValue)) :
    (ofEntries source entries).map (·.1) = entries.map (·.1) := by
  induction entries with
  | nil => rfl
  | cons e entries ih => rw [ofEntries, List.map_cons, List.map_cons, ih]

end ArtifactResolution.SourcedValue
