import ArtifactResolution.Json.Format
import ArtifactResolution.Proofs.FirstOccurrences
import ArtifactResolution.Proofs.Outcomes
import Mathlib.Data.List.Forall2

namespace ArtifactResolution
set_option autoImplicit false

namespace Json

/-- Equality of values up to the order in which the fields of objects stand. -/
inductive Rearranged : Json → Json → Prop
  | refl (value : Json) : Rearranged value value
  | arr {items items' : List Json} (h : List.Forall₂ Rearranged items items') :
    Rearranged (.arr items) (.arr items')
  | obj {fields fields' arranged : List (String × Json)}
    (hnames : fields.map (·.1) = fields'.map (·.1))
    (hvalues : List.Forall₂ Rearranged (fields.map (·.2)) (fields'.map (·.2)))
    (harranged : fields'.Perm arranged) : Rearranged (.obj fields) (.obj arranged)

def FieldRearranged (e e' : String × Json) : Prop := e.1 = e'.1 ∧ e.2.Rearranged e'.2

def FieldsRearranged (fields arranged : List (String × Json)) : Prop :=
  ∃ fields', List.Forall₂ FieldRearranged fields fields' ∧ fields'.Perm arranged

namespace Rearranged
variable {items : List Json} {fields fields' arranged : List (String × Json)} {value : Json}

theorem forall₂_field (hnames : fields.map (·.1) = fields'.map (·.1))
    (hvalues : List.Forall₂ Rearranged (fields.map (·.2)) (fields'.map (·.2))) :
    List.Forall₂ FieldRearranged fields fields' := by
  induction fields generalizing fields' with
  | nil => cases List.map_eq_nil_iff.1 hnames.symm; exact .nil
  | cons e fields ih =>
    obtain ⟨e', rest, rfl, hname, hrest⟩ := List.map_eq_cons_iff.1 hnames.symm
    obtain ⟨hvalue, hvalues⟩ := List.forall₂_cons.1 hvalues
    exact .cons ⟨hname.symm, hvalue⟩ (ih hrest.symm hvalues)

theorem of_arr (h : Rearranged (.arr items) value) :
    ∃ items', value = .arr items' ∧ List.Forall₂ Rearranged items items' := by
  cases h with
  | refl => exact ⟨items, rfl, List.forall₂_same.2 fun item _ => .refl item⟩
  | arr h => exact ⟨_, rfl, h⟩

theorem of_obj (h : Rearranged (.obj fields) value) :
    ∃ arranged, value = .obj arranged ∧ FieldsRearranged fields arranged := by
  cases h with
  | refl => exact ⟨fields, rfl, fields, List.forall₂_same.2 fun e _ => ⟨rfl, .refl e.2⟩, .refl _⟩
  | obj hnames hvalues harranged => exact ⟨_, rfl, _, forall₂_field hnames hvalues, harranged⟩

theorem of_str {s : String} (h : Rearranged (.str s) value) : value = .str s := by
  cases h; rfl

theorem ne_null {value' : Json} (h : Rearranged value value') (hne : value ≠ .null) :
    value' ≠ .null := by
  cases h with
  | refl => exact hne
  | arr => nofun
  | obj => nofun

end Rearranged

namespace FieldsRearranged
variable {fields arranged : List (String × Json)} {e : String × Json}

theorem exists_written (h : FieldsRearranged fields arranged) (he : e ∈ arranged) :
    ∃ e' ∈ fields, FieldRearranged e' e := by
  obtain ⟨fields', hfields, hperm⟩ := h
  have he := hperm.mem_iff.2 he
  clear hperm
  induction hfields with
  | nil => cases he
  | cons hfield _ ih =>
    cases he with
    | head => exact ⟨_, List.mem_cons_self, hfield⟩
    | tail _ he =>
      obtain ⟨e', he', hfield⟩ := ih he
      exact ⟨e', List.mem_cons_of_mem _ he', hfield⟩

theorem names_perm (h : FieldsRearranged fields arranged) :
    (fields.map (·.1)).Perm (arranged.map (·.1)) := by
  obtain ⟨fields', hfields, hperm⟩ := h
  have hnames : fields.map (·.1) = fields'.map (·.1) := by
    clear hperm
    induction hfields with
    | nil => rfl
    | cons hfield _ ih => rw [List.map_cons, List.map_cons, hfield.1, ih]
  exact hnames ▸ hperm.map _

theorem rearranged_of_once {name : String} {value : Json} (h : FieldsRearranged fields arranged)
    (honce : fields.filter (·.1 = name) = [(name, value)]) (he : e ∈ arranged)
    (hname : e.1 = name) : value.Rearranged e.2 := by
  obtain ⟨e', he', hfield⟩ := h.exists_written he
  have hmem : e' ∈ fields.filter (·.1 = name) :=
    List.mem_filter.2 ⟨he', decide_eq_true (hfield.1.trans hname)⟩
  rw [honce] at hmem
  cases List.mem_singleton.1 hmem
  exact hfield.2

theorem exists_lookup_of_once {name : String} {value : Json} (h : FieldsRearranged fields arranged)
    (honce : fields.filter (·.1 = name) = [(name, value)]) :
    ∃ value', arranged.lookup name = some value' ∧ value.Rearranged value' := by
  have hwritten : (name, value) ∈ fields := List.mem_of_mem_filter (honce ▸ List.mem_cons_self)
  have hmem : name ∈ arranged.map (·.1) := h.names_perm.mem_iff.1 (List.mem_map_of_mem hwritten)
  obtain ⟨e, he, rfl⟩ := List.mem_map.1 hmem
  obtain ⟨value', hvalue⟩ := exists_lookup_of_mem he
  exact ⟨value', hvalue, h.rearranged_of_once honce (mem_of_lookup hvalue) rfl⟩

end FieldsRearranged

end Json

open Json

/-- Data that is read back from what it is written as, however the fields of objects stand there. -/
class LawfulJsonFormat (α : Type) [JsonFormat α] : Prop where
  decode_of_rearranged {a : α} {value : Json} (h : (encode a).Rearranged value) :
    (decode value : Except DecodeError α) = .ok a

export LawfulJsonFormat (decode_of_rearranged)

namespace Fields
variable {α β : Type} {r : Fields α} {q : Fields β} {fields arranged : List (String × Json)}
  {a : α} {b : β}

structure Reads (r : Fields α) (fields : List (String × Json)) (a : α) : Prop where
  check : ∀ e ∈ fields, r.check e.1 e.2 = .ok ()
  ofObject : r.ofObject fields = .ok a

theorem Reads.decode (h : r.Reads fields a) : r.decode (.obj fields) = .ok a := by
  have hchecked : fields.forM (fun e => r.check e.1 e.2) = .ok () := forM_eq_ok_iff.2 h.check
  simp only [Fields.decode, hchecked]
  exact h.ofObject

theorem Reads.and (h : r.Reads fields a) (h' : q.Reads fields b) :
    (r.and q).Reads fields (a, b) where
  check e he := by
    simp only [Fields.and, h.check e he]
    exact h'.check e he
  ofObject := by
    simp only [Fields.and, h.ofObject, h'.ofObject]
    rfl

theorem Reads.map (h : r.Reads fields a) (f : α → β) : (r.map f).Reads fields (f a) where
  check := h.check
  ofObject := by
    simp only [Fields.map, h.ofObject]
    rfl

theorem reads_one {f : Field α} {value : Json}
    (hread : ∀ e ∈ fields, e.1 = f.name → f.decode e.2 = .ok a)
    (hvalue : fields.lookup f.name = some value) : (one f).Reads fields a where
  check e he := by
    rw [one]
    dsimp only
    split
    · next h => rw [hread e he h]; rfl
    · rfl
  ofObject := by
    simp only [one, hvalue]
    exact hread _ (mem_of_lookup hvalue) rfl

theorem reads_one_missing {f : Field α} (hmissing : f.name ∉ fields.map (·.1))
    (hdefault : f.ifMissing = some a) : (one f).Reads fields a where
  check e he := if_neg fun hname => hmissing (List.mem_map.2 ⟨e, he, hname⟩)
  ofObject := by
    have hnone : fields.lookup f.name = none :=
      List.lookup_eq_none_iff.2 fun e he =>
        bne_iff_ne.2 fun hname => hmissing (List.mem_map.2 ⟨e, he, hname.symm⟩)
    simp only [one, hnone, hdefault]

end Fields

theorem decodeTagged_obj {α : Type} {tag name : String} {kinds : List (String × Fields α)}
    {r : Fields α} {fields : List (String × Json)} {a : α}
    (htag : fields.lookup tag = some (.str name)) (hkind : kinds.lookup name = some r)
    (h : r.Reads fields a) : decodeTagged tag kinds (.obj fields) = .ok a := by
  simp only [decodeTagged, htag, decodeTagged.kind, hkind]
  exact h.decode

namespace Json.FieldsRearranged
variable {α : Type} {fields arranged : List (String × Json)} {a : α} {f : Field α}

theorem reads [JsonFormat α] [LawfulJsonFormat α] (h : FieldsRearranged fields arranged)
    (hdecode : f.decode = decode) (honce : fields.filter (·.1 = f.name) = [(f.name, encode a)]) :
    (Fields.one f).Reads arranged a := by
  have hread {e : String × Json} (he : e ∈ arranged) (hname : e.1 = f.name) :
      f.decode e.2 = .ok a := by
    rw [hdecode]
    exact decode_of_rearranged (h.rearranged_of_once honce he hname)
  obtain ⟨value, hvalue, _⟩ := h.exists_lookup_of_once honce
  exact Fields.reads_one (fun _ => hread) hvalue

theorem reads_missing (h : FieldsRearranged fields arranged) (hmissing : f.name ∉ fields.map (·.1))
    (hdefault : f.ifMissing = some a) : (Fields.one f).Reads arranged a :=
  Fields.reads_one_missing (mt h.names_perm.mem_iff.2 hmissing) hdefault

theorem decode_of_reads {r : Fields α} {value : Json} (h : (Json.obj fields).Rearranged value)
    (hread : ∀ {arranged}, FieldsRearranged fields arranged → r.Reads arranged a) :
    r.decode value = .ok a := by
  obtain ⟨arranged, rfl, hfields⟩ := h.of_obj
  exact (hread hfields).decode

theorem lookup_eq_str {name s : String} (h : FieldsRearranged fields arranged)
    (honce : fields.filter (·.1 = name) = [(name, .str s)]) :
    arranged.lookup name = some (.str s) := by
  obtain ⟨value, hvalue, hrearranged⟩ := h.exists_lookup_of_once honce
  rwa [hrearranged.of_str] at hvalue

end Json.FieldsRearranged

end ArtifactResolution
