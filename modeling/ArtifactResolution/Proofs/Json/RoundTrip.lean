import ArtifactResolution.Json.Artifacts
import ArtifactResolution.Json.Settings
import ArtifactResolution.Proofs.Json.Records
import ArtifactResolution.Proofs.SortedEntries

namespace ArtifactResolution
set_option autoImplicit false

open Json

instance : LawfulJsonFormat Bool where
  decode_of_rearranged h := by cases h; rfl

instance : LawfulJsonFormat String where
  decode_of_rearranged h := by cases h; rfl

instance : LawfulJsonFormat Nat where
  decode_of_rearranged h := by cases h; rfl

instance : LawfulJsonFormat UInt64 where
  decode_of_rearranged {n value} h := by
    have hread : (decode value : Except DecodeError Nat) = .ok n.toNat := decode_of_rearranged h
    change (decode value >>= fun n => _) = Except.ok n
    rw [hread]
    exact dif_pos n.toNat_lt

section Containers
variable {α : Type} [JsonFormat α] [LawfulJsonFormat α]

theorem decode_option_of_rearranged (hne : ∀ a : α, encode a ≠ .null) {a : Option α} {value : Json}
    (h : (encode a).Rearranged value) : (decode value : Except DecodeError (Option α)) = .ok a := by
  cases a with
  | none => cases h; rfl
  | some a =>
    have hread : (decode value : Except DecodeError α) = .ok a := decode_of_rearranged h
    have hsome : (decode value : Except DecodeError (Option α)) =
        (decode value : Except DecodeError α).map some := by
      cases value with
      | null => exact absurd rfl (Rearranged.ne_null h (hne a))
      | _ => rfl
    rw [hsome]
    exact map_eq_ok hread some

instance : LawfulJsonFormat (List α) where
  decode_of_rearranged {as value} h := by
    obtain ⟨items, rfl, hitems⟩ := h.of_arr
    rw [List.forall₂_map_left_iff] at hitems
    exact mapM_eq_ok_iff.2 (hitems.flip.imp fun _ _ => decode_of_rearranged)

instance : LawfulJsonFormat (Array α) where
  decode_of_rearranged {as _} h :=
    map_eq_ok (decode_of_rearranged (show (encode as.toList).Rearranged _ from h)) List.toArray

end Containers

instance {kind : IdKind} : LawfulJsonFormat (Id kind) where
  decode_of_rearranged {id _} h :=
    map_eq_ok (decode_of_rearranged (show (encode id.value).Rearranged _ from h)) Id.mk

instance : LawfulJsonFormat UnixPath where
  decode_of_rearranged {p _} h :=
    map_eq_ok (decode_of_rearranged (show (encode p.text).Rearranged _ from h)) UnixPath.mk

-- A record has each of its fields written once, and as data of the field's type is written.
instance : LawfulJsonFormat BuildIdentifier where
  decode_of_rearranged h := FieldsRearranged.decode_of_reads h fun hfields =>
    ((hfields.reads rfl rfl).and (hfields.reads rfl rfl)).map _

instance : LawfulJsonFormat ComponentIdentifier where
  decode_of_rearranged {c value} h := by
    cases c with
    | project build path =>
      obtain ⟨fields, rfl, hfields⟩ := h.of_obj
      exact decodeTagged_obj (hfields.lookup_eq_str rfl) rfl
        (((hfields.reads rfl rfl).and (hfields.reads rfl rfl)).map _)
    | module group name version =>
      obtain ⟨fields, rfl, hfields⟩ := h.of_obj
      exact decodeTagged_obj (hfields.lookup_eq_str rfl) rfl
        (((hfields.reads rfl rfl).and ((hfields.reads rfl rfl).and (hfields.reads rfl rfl))).map _)

instance : LawfulJsonFormat ConfigurationKind where
  decode_of_rearranged {kind _} h := by
    cases kind <;> cases h <;> rfl

instance : LawfulJsonFormat Configuration where
  decode_of_rearranged h := FieldsRearranged.decode_of_reads h fun hfields =>
    ((hfields.reads rfl rfl).and (hfields.reads rfl rfl)).map _

instance : LawfulJsonFormat Edge where
  decode_of_rearranged h := FieldsRearranged.decode_of_reads h fun hfields =>
    (hfields.reads rfl rfl).map _

instance : LawfulJsonFormat SortOrder where
  decode_of_rearranged {order _} h := by
    cases order <;> cases h <;> rfl

instance : LawfulJsonFormat LogLevel where
  decode_of_rearranged {level _} h := by
    cases level <;> cases h <;> rfl

instance : LawfulJsonFormat Artifact where
  decode_of_rearranged h := FieldsRearranged.decode_of_reads h fun hfields =>
    ((hfields.reads rfl rfl).and (hfields.reads rfl rfl)).map _

namespace Attributes

def writtenField (e : String × String) : String × Json := (e.1, encode e.2)

theorem exists_entries {m : Attributes} {fields : List (String × Json)}
    (h : FieldsRearranged (m.entries.map writtenField) fields) :
    ∃ entries : List (String × String),
      fields = entries.map writtenField ∧ entries.Perm m.entries := by
  obtain ⟨written, hwritten, hperm⟩ := h
  have hsame : List.Forall₂ (fun e e' => writtenField e = e') m.entries written :=
    (List.forall₂_map_left_iff.1 hwritten).imp fun e e' hfield =>
      Prod.ext hfield.1 hfield.2.of_str.symm
  have hkept : m.entries.map writtenField = written :=
    List.forall₂_eq_eq_eq ▸ List.forall₂_map_left_iff.2 hsame
  subst hkept
  exact (congrFun₂ (List.eq_map_comp_perm writtenField) fields m.entries).mpr hperm.symm

end Attributes

instance : LawfulJsonFormat Attributes where
  decode_of_rearranged {m value} h := by
    obtain ⟨fields, rfl, hfields⟩ := h.of_obj
    obtain ⟨entries, rfl, hperm⟩ := Attributes.exists_entries hfields
    have hread : (entries.map Attributes.writtenField).mapM (fun field =>
        (decode field.2 : Except DecodeError String).map (field.1, ·)) = .ok entries :=
      mapM_eq_ok_iff.2 (List.forall₂_map_left_iff.2 (List.forall₂_same.2 fun e _ => rfl))
    rw [← Attributes.ofList_of_perm hperm]
    exact map_eq_ok hread Attributes.ofList

instance : LawfulJsonFormat Variant where
  decode_of_rearranged h := FieldsRearranged.decode_of_reads h fun hfields =>
    ((hfields.reads rfl rfl).and ((hfields.reads rfl rfl).and (hfields.reads rfl rfl))).map _

instance : LawfulJsonFormat (Option ComponentIdentifier) where
  decode_of_rearranged := decode_option_of_rearranged fun c => by cases c <;> nofun

instance : LawfulJsonFormat (Option LogLevel) where
  decode_of_rearranged :=
    decode_option_of_rearranged fun level => (nofun : Json.str level.name ≠ .null)

instance : LawfulJsonFormat ResolvedArtifact where
  decode_of_rearranged h := FieldsRearranged.decode_of_reads h fun hfields =>
    ((hfields.reads rfl rfl).and ((hfields.reads rfl rfl).and ((hfields.reads rfl rfl).and
      (hfields.reads rfl rfl)))).map _

instance : LawfulJsonFormat ArtifactStatistics where
  decode_of_rearranged h := FieldsRearranged.decode_of_reads h fun hfields =>
    ((hfields.reads rfl rfl).and ((hfields.reads rfl rfl).and (hfields.reads rfl rfl))).map _

instance : LawfulJsonFormat ResolutionSettings where
  decode_of_rearranged {s value} h := by
    obtain ⟨buildProjects, order, level?⟩ := s
    obtain ⟨fields, rfl, hfields⟩ := h.of_obj
    -- A level that is not set is not written.
    have hlevel : (Fields.one (.withDefault "log_level" none)).Reads fields level? := by
      cases level? with
      | none => exact hfields.reads_missing (by simp [encodeSome, Field.withDefault]) rfl
      | some level => exact hfields.reads rfl rfl
    have horder : (Fields.one (.withDefault "sort_order" .default)).Reads fields order := by
      cases level? <;> exact hfields.reads rfl rfl
    have hbuild : (Fields.one (.withDefault "build_project_dependencies" true)).Reads fields
        buildProjects := by
      cases level? <;> exact hfields.reads rfl rfl
    exact ((hbuild.and (horder.and hlevel)).map _).decode

def rewritten (α : Type) [JsonFormat α] (value : Json) : Except DecodeError Json :=
  (decode value : Except DecodeError α).map encode

/-- All data is read back from what it is written as, and what was read from some value is written
in a form that is read as the same and written as it stands. The fields of objects can stand in any
order. -/
structure RoundTrips (α : Type) [JsonFormat α] : Prop where
  written (a : α) {value : Json} (h : (encode a).Rearranged value) : decode value = .ok a
  read {value form form' : Json} (h : rewritten α value = .ok form)
    (hform : form.Rearranged form') :
    (decode form' : Except DecodeError α) = decode value ∧ rewritten α form' = .ok form

theorem LawfulJsonFormat.roundTrips {α : Type} [JsonFormat α] [LawfulJsonFormat α] :
    RoundTrips α where
  written _ _ h := decode_of_rearranged h
  read {value form form'} h hform := by
    cases hread : (decode value : Except DecodeError α) with
    | error e => rw [rewritten, hread] at h; cases h
    | ok a =>
      rw [rewritten, hread] at h
      cases h
      have hagain : (decode form' : Except DecodeError α) = .ok a := decode_of_rearranged hform
      exact ⟨hagain, map_eq_ok hagain encode⟩

/-- Identities, components, configurations, edges, orders, levels, artifacts, variants, resolved
artifacts, statistics and settings are all read back from what they are written as, and whatever is
read is written in one form only. -/
theorem allData_roundTrips :
    (RoundTrips NodeId ∧ RoundTrips ArtifactSetId ∧ RoundTrips FileDependencyId) ∧
    (RoundTrips BuildIdentifier ∧ RoundTrips ComponentIdentifier) ∧
    (RoundTrips ConfigurationKind ∧ RoundTrips Configuration ∧ RoundTrips Edge) ∧
    (RoundTrips SortOrder ∧ RoundTrips LogLevel ∧ RoundTrips ResolutionSettings) ∧
    (RoundTrips Artifact ∧ RoundTrips Variant ∧ RoundTrips ResolvedArtifact) ∧
    RoundTrips ArtifactStatistics := by
  open LawfulJsonFormat in
  exact ⟨⟨roundTrips, roundTrips, roundTrips⟩, ⟨roundTrips, roundTrips⟩,
    ⟨roundTrips, roundTrips, roundTrips⟩, ⟨roundTrips, roundTrips, roundTrips⟩,
    ⟨roundTrips, roundTrips, roundTrips⟩, roundTrips⟩

-- A record may be read from the array of its fields, and a name from an object or another name.
example : rewritten BuildIdentifier (.arr [.str "main", .bool true]) =
    .ok (.obj [("name", .str "main"), ("current", .bool true)]) := rfl

example : rewritten LogLevel (.obj [("warning", .null)]) = .ok (.str "warn") := rfl

end ArtifactResolution
