import ArtifactResolution.Json.Artifacts
import ArtifactResolution.Json.Settings
import ArtifactResolution.Proofs.Json.Columns

namespace ArtifactResolution
set_option autoImplicit false

open Json

/-- A record with the given columns is read from the array of their values exactly as from the object
that gives each column its value. The array must not be longer, and it may be shorter by columns with
defaults. The tag of the record, if it has one, stands first. In either form the values may be
replaced by others that are the same in their columns. -/
structure ReadsArray {α : Type} (read : Decoder α) (tag : Option (String × Json))
    (columns : List Column) : Prop where
  whole {items : List Json} (h : items.length = columns.length) (a : α) :
    read (.arr ((tag.map (·.2)).toList ++ items)) = .ok a ↔
      read (.obj (tag.toList ++ (Column.names columns).zip items)) = .ok a
  shorter {items : List Json} (h : items.length < columns.length) (a : α) :
    read (.arr ((tag.map (·.2)).toList ++ items)) = .ok a ↔
      (∀ c ∈ columns.drop items.length, c.hasDefault) ∧
        read (.obj (tag.toList ++ (Column.names columns).zip items)) = .ok a
  longer {items : List Json} (h : columns.length < items.length) (a : α) :
    read (.arr ((tag.map (·.2)).toList ++ items)) ≠ .ok a
  replaced {items items' : List Json} (h : Column.SameValues columns items items') (a : α) :
    read (.obj (tag.toList ++ (Column.names columns).zip items)) = .ok a ↔
      read (.obj (tag.toList ++ (Column.names columns).zip items')) = .ok a

section Containers
variable {α : Type} [JsonFormat α] {value value' : Json} {items items' : List Json}

theorem SameReading.list (h : List.Forall₂ (SameReading α) items items') :
    SameReading (List α) (.arr items) (.arr items') := by
  intro as
  show items.mapM decode = .ok as ↔ items'.mapM decode = .ok as
  rw [mapM_eq_ok_iff, mapM_eq_ok_iff]
  induction h generalizing as with
  | nil => exact Iff.rfl
  | @cons item item' items items' hitem hitems ih =>
    cases as with
    | nil => simp
    | cons a as => rw [List.forall₂_cons, List.forall₂_cons, hitem a, ih]

theorem SameReading.option (hnull : value ≠ .null) (hnull' : value' ≠ .null)
    (h : SameReading α value value') : SameReading (Option α) value value' := by
  have hread {value : Json} (hnull : value ≠ .null) : (decode value : Except DecodeError (Option α)) =
      (decode value : Except DecodeError α).map some := by
    cases value with
    | null => exact absurd rfl hnull
    | _ => rfl
  intro a?
  have hsome {x : Except DecodeError α} : x.map some = .ok a? ↔ ∃ a, x = .ok a ∧ some a = a? :=
    ⟨exists_of_map_eq_ok, fun ⟨_, hread, heq⟩ => heq ▸ map_eq_ok hread some⟩
  rw [hread hnull, hread hnull', hsome, hsome]
  simp only [h _]

end Containers

section Tagged
variable {α : Type} (key : String) (kinds : List (String × Fields α)) (tag : Json)

theorem decodeTagged_arr_cons (items : List Json) :
    decodeTagged key kinds (.arr (tag :: items)) =
      decodeTagged.kind kinds tag >>= fun r => r.decode (.arr items) := rfl

theorem decodeTagged_obj_cons (fields : List (String × Json)) :
    decodeTagged key kinds (.obj ((key, tag) :: fields)) =
      decodeTagged.kind kinds tag >>= fun r => r.decode (.obj ((key, tag) :: fields)) := by
  rw [decodeTagged, List.lookup_cons_self]

end Tagged

namespace Fields
variable {α : Type} {r : Fields α} {columns : List Column}

theorem HasColumns.readsArray {read : Decoder α} {tag : Option (String × Json)}
    (h : r.HasColumns columns) (hnodup : (Column.names columns).Nodup)
    (htag : ∀ e ∈ tag, e.1 ∉ Column.names columns)
    (harr : ∀ items, read (.arr ((tag.map (·.2)).toList ++ items)) = r.decode (.arr items))
    (hobj : ∀ fields, read (.obj (tag.toList ++ fields)) = r.decode (.obj (tag.toList ++ fields))) :
    ReadsArray read tag columns := by
  have hread (items : List Json) (a : α) :
      read (.obj (tag.toList ++ (Column.names columns).zip items)) = .ok a ↔
        r.Reads ((Column.names columns).zip items) a := by
    rw [hobj, decode_obj_iff]
    apply h.reads_of_valuesOf_eq
    intro c hc
    have hnone : valuesOf tag.toList c.name = [] := by
      apply valuesOf_eq_nil
      intro hmem
      obtain ⟨e, he, hname⟩ := List.mem_map.1 hmem
      exact htag e (Option.mem_toList.1 he) (hname ▸ List.mem_map_of_mem hc)
    rw [valuesOf_append, hnone, List.nil_append]
  constructor
  case whole =>
    intro items hlength a
    rw [harr, h.decode_arr_iff, hread]
    simp [hlength]
  case shorter =>
    intro items hlength a
    rw [harr, h.decode_arr_iff, hread]
    simp [Nat.le_of_lt hlength]
  case longer =>
    intro items hlength a
    rw [harr, ne_eq, h.decode_arr_iff]
    exact fun hread => absurd hread.1 (Nat.not_le_of_lt hlength)
  case replaced =>
    intro items items' hsame a
    rw [hread, hread]
    exact h.reads_congr (same_valuesOf_zip hnodup hsame)

theorem HasColumns.readsArray_decode (h : r.HasColumns columns)
    (hnodup : (Column.names columns).Nodup) : ReadsArray r.decode none columns :=
  h.readsArray hnodup (by simp) (fun _ => rfl) (fun _ => rfl)

theorem HasColumns.readsArray_decodeTagged {key name : String} {kinds : List (String × Fields α)}
    (h : r.HasColumns columns) (hnodup : (key :: Column.names columns).Nodup)
    (hkind : kinds.lookup name = some r) :
    ReadsArray (decodeTagged key kinds) (some (key, .str name)) columns := by
  obtain ⟨hkey, hnodup⟩ := List.nodup_cons.1 hnodup
  have hfound : decodeTagged.kind kinds (.str name) = .ok r := by
    rw [decodeTagged.kind, hkind]
  apply h.readsArray hnodup
  · rintro e ⟨⟩
    exact hkey
  · intro items
    exact (decodeTagged_arr_cons key kinds (.str name) items).trans (by rw [hfound]; rfl)
  · intro fields
    exact (decodeTagged_obj_cons key kinds (.str name) fields).trans (by rw [hfound]; rfl)

end Fields

open Fields Column

theorem ResolvedArtifact.hasColumns_ownerField :
    (one ownerField).HasColumns [.of (Option ComponentIdentifier) "component"] :=
  hasColumns_one rfl (fun _ _ h => h) rfl (by simp [ownerField])

theorem ComponentIdentifier.decode_of_unknown_tag {tag : Json} (hproject : tag ≠ .str "project")
    (hmodule : tag ≠ .str "module") (items : List Json) (fields : List (String × Json))
    (c : ComponentIdentifier) :
    decode (.arr (tag :: items)) ≠ .ok c ∧ decode (.obj (("kind", tag) :: fields)) ≠ .ok c := by
  let kinds := [("project", projectFields), ("module", moduleFields)]
  have hunknown : ∃ e, decodeTagged.kind kinds tag = .error e := by
    cases tag with
    | str s =>
      have hnone : kinds.lookup s = none := by
        rw [List.lookup_eq_none_iff]
        simp_all [kinds]
      exact ⟨.unknownVariant s (kinds.map (·.1)), by rw [decodeTagged.kind, hnone]⟩
    | _ => exact ⟨.invalidType, rfl⟩
  obtain ⟨e, he⟩ := hunknown
  have harr := decodeTagged_arr_cons "kind" kinds tag items
  have hobj := decodeTagged_obj_cons "kind" kinds tag fields
  rw [he] at harr hobj
  constructor
  · intro h
    cases harr.symm.trans h
  · intro h
    cases hobj.symm.trans h

/-- Every record is read from the array of its fields as from the object of them, with the same
result. Only variants and settings have fields that a shorter array can leave out. A component has
its kind as a tag, and only two kinds. What stands in a field may be replaced by what is read as the
same there: by the other form of a record, and in the same way inside lists and where data can be
missing. -/
theorem records_read_from_arrays :
    ReadsArray (decode : Decoder BuildIdentifier) none [of String "name", of Bool "current"] ∧
    ReadsArray (decode : Decoder ComponentIdentifier) (some ("kind", .str "project"))
      [of BuildIdentifier "build", of String "path"] ∧
    ReadsArray (decode : Decoder ComponentIdentifier) (some ("kind", .str "module"))
      [of String "group", of String "name", of String "version"] ∧
    (∀ (tag : Json) items fields (c : ComponentIdentifier),
      tag ≠ .str "project" → tag ≠ .str "module" → decode (.arr (tag :: items)) ≠ .ok c ∧
        decode (.obj (("kind", tag) :: fields)) ≠ .ok c) ∧
    (∀ c : ComponentIdentifier, decode (.arr []) ≠ .ok c) ∧
    ReadsArray (decode : Decoder Configuration) none
      [of String "name", of ConfigurationKind "kind"] ∧
    ReadsArray (decode : Decoder Edge) none [of (Array NodeId) "targets"] ∧
    ReadsArray (decode : Decoder Artifact) none [of String "name", of UnixPath "file"] ∧
    ReadsArray (decode : Decoder Variant) none
      [of String "name", withDefault Attributes "attributes",
        withDefault (List Artifact) "artifacts"] ∧
    ReadsArray (decode : Decoder ResolvedArtifact) none
      [of String "name", of UnixPath "file", of (Option ComponentIdentifier) "component",
        of String "variant"] ∧
    ReadsArray (decode : Decoder ArtifactStatistics) none
      [of Nat "node_count", of Nat "artifact_set_count", of Nat "buildable_count"] ∧
    ReadsArray (decode : Decoder ResolutionSettings) none
      [withDefault Bool "build_project_dependencies", withDefault SortOrder "sort_order",
        withDefault (Option LogLevel) "log_level"] ∧
    (∀ {α : Type} [JsonFormat α] (items items' : List Json),
      List.Forall₂ (SameReading α) items items' →
        SameReading (List α) (.arr items) (.arr items')) ∧
    (∀ {α : Type} [JsonFormat α] (value value' : Json), value ≠ .null → value' ≠ .null →
      SameReading α value value' → SameReading (Option α) value value') := by
  have field (α : Type) [JsonFormat α] (name : String) :
      (one (.required name) : Fields α).HasColumns [of α name] := hasColumns_required name
  refine ⟨?build, ?project, ?module, ?unknown, ?untagged, ?configuration, ?edge, ?artifact, ?variant,
    ?resolved, ?statistics, ?settings, ?list, ?option⟩
  case build =>
    exact (((field _ _).and (field _ _) (by decide)).map _).readsArray_decode (by decide)
  case project =>
    exact (((field _ _).and (field _ _) (by decide)).map _).readsArray_decodeTagged (by decide) rfl
  case module =>
    exact (((field _ _).and ((field _ _).and (field _ _) (by decide)) (by decide)).map
      _).readsArray_decodeTagged (by decide) rfl
  case unknown =>
    exact fun _ items fields c hproject hmodule =>
      ComponentIdentifier.decode_of_unknown_tag hproject hmodule items fields c
  case untagged => exact fun _ => nofun
  case configuration =>
    exact (((field _ _).and (field _ _) (by decide)).map _).readsArray_decode (by decide)
  case edge => exact ((field _ _).map _).readsArray_decode (by decide)
  case artifact =>
    exact (((field _ _).and (field _ _) (by decide)).map _).readsArray_decode (by decide)
  case variant =>
    exact (((field _ _).and ((hasColumns_withDefault _ _).and (hasColumns_withDefault _ _)
      (by decide)) (by decide)).map _).readsArray_decode (by decide)
  case resolved =>
    exact (((field _ _).and ((field _ _).and (ResolvedArtifact.hasColumns_ownerField.and (field _ _)
      (by decide)) (by decide)) (by decide)).map _).readsArray_decode (by decide)
  case statistics =>
    exact (((field _ _).and ((field _ _).and (field _ _) (by decide)) (by decide)).map
      _).readsArray_decode (by decide)
  case settings =>
    exact (((hasColumns_withDefault _ _).and ((hasColumns_withDefault _ _).and
      (hasColumns_withDefault _ _) (by decide)) (by decide)).map _).readsArray_decode (by decide)
  case list => exact fun _ _ => SameReading.list
  case option => exact fun _ _ => SameReading.option

/-- The build of a project is a record inside a record, and each can be an array. -/
theorem records_read_from_arrays_project :
    let build : Json := .arr [.str "main", .bool true]
    let buildFields : Json := .obj [("name", .str "main"), ("current", .bool true)]
    let columns := [Column.of BuildIdentifier "build", Column.of String "path"]
    let app : ComponentIdentifier := .project ⟨"main", true⟩ ":app"
    [build, .str ":app"].length = columns.length ∧
    Column.SameValues columns [build, .str ":app"] [buildFields, .str ":app"] ∧
    decode (.obj [("kind", .str "project"), ("build", buildFields), ("path", .str ":app")]) =
      Except.ok app ∧
    decode (.arr [.str "project", build, .str ":app"]) = Except.ok app := by
  intro build buildFields columns app
  obtain ⟨hbuild, hproject, _⟩ := records_read_from_arrays
  have hsame : Column.SameValues columns [build, .str ":app"] [buildFields, .str ":app"] :=
    .cons (hbuild.whole rfl) (.cons (fun _ => Iff.rfl) .nil)
  have hobj : decode (.obj [("kind", .str "project"), ("build", buildFields),
      ("path", .str ":app")]) = Except.ok app := rfl
  exact ⟨rfl, hsame, hobj, (hproject.whole rfl app).2 ((hproject.replaced hsame app).2 hobj)⟩

end ArtifactResolution
