import ArtifactResolution.Proofs.Json.Records

namespace ArtifactResolution
set_option autoImplicit false

/-- Two values that are read as the same data, or that both cannot be read. -/
def SameReading (α : Type) [JsonFormat α] (value value' : Json) : Prop :=
  ∀ a : α, decode value = .ok a ↔ decode value' = .ok a

/-- A field in the format of a record: its name, which values are the same in it, and whether an
array may end before it. -/
structure Column where
  name : String
  Same : Json → Json → Prop
  hasDefault : Bool := false
  same_refl : ∀ value, Same value value

namespace Column

def of (α : Type) [JsonFormat α] (name : String) : Column where
  name := name
  Same := SameReading α
  same_refl _ _ := Iff.rfl

def withDefault (α : Type) [JsonFormat α] (name : String) : Column :=
  { of α name with hasDefault := true }

def names (columns : List Column) : List String := columns.map (·.name)

inductive SameValues : List Column → List Json → List Json → Prop
  | nil {columns : List Column} : SameValues columns [] []
  | cons {c : Column} {columns : List Column} {value value' : Json} {values values' : List Json}
    (hvalue : c.Same value value') (hvalues : SameValues columns values values') :
    SameValues (c :: columns) (value :: values) (value' :: values')

end Column

open Column

namespace Json
variable {name : String} {names names' : List String} {fields : List (String × Json)}
  {columns : List Column} {items items' : List Json}

def valuesOf (fields : List (String × Json)) (name : String) : List Json :=
  (fields.filter (·.1 = name)).map (·.2)

@[simp] theorem valuesOf_nil (name : String) : valuesOf [] name = [] := rfl

theorem valuesOf_cons (e : String × Json) (fields : List (String × Json)) (name : String) :
    valuesOf (e :: fields) name =
      if e.1 = name then e.2 :: valuesOf fields name else valuesOf fields name := by
  rw [valuesOf, List.filter_cons]
  by_cases h : e.1 = name <;> simp [h, valuesOf]

@[simp] theorem valuesOf_append (fields fields' : List (String × Json)) (name : String) :
    valuesOf (fields ++ fields') name = valuesOf fields name ++ valuesOf fields' name := by
  simp [valuesOf]

theorem valuesOf_eq_nil (h : name ∉ fields.map (·.1)) : valuesOf fields name = [] := by
  induction fields with
  | nil => rfl
  | cons e fields ih =>
    rw [List.map_cons, List.mem_cons, not_or] at h
    rw [valuesOf_cons, if_neg (Ne.symm h.1), ih h.2]

theorem lookup_eq_head? (fields : List (String × Json)) (name : String) :
    fields.lookup name = (valuesOf fields name).head? := by
  induction fields with
  | nil => rfl
  | cons e fields ih =>
    rw [List.lookup_cons, valuesOf_cons, ih]
    by_cases h : e.1 = name
    · simp [h]
    · rw [if_neg h, beq_eq_false_iff_ne.2 (Ne.symm h)]

theorem valuesOf_zip_of_notMem (h : name ∉ names) (items : List Json) :
    valuesOf (names.zip items) name = [] := by
  apply valuesOf_eq_nil
  intro hmem
  obtain ⟨e, he, rfl⟩ := List.mem_map.1 hmem
  exact h (List.of_mem_zip he).1

theorem zip_append_names (names names' : List String) (items : List Json) :
    (names ++ names').zip items = names.zip items ++ names'.zip (items.drop names.length) := by
  induction names generalizing items with
  | nil => rfl
  | cons name names ih =>
    cases items with
    | nil => simp
    | cons item items => simp [ih]

theorem valuesOf_zip_append_left (h : name ∉ names') (items : List Json) :
    valuesOf ((names ++ names').zip items) name = valuesOf (names.zip items) name := by
  rw [zip_append_names, valuesOf_append, valuesOf_zip_of_notMem h, List.append_nil]

theorem valuesOf_zip_append_right (h : name ∉ names) (items : List Json) :
    valuesOf ((names ++ names').zip items) name =
      valuesOf (names'.zip (items.drop names.length)) name := by
  rw [zip_append_names, valuesOf_append, valuesOf_zip_of_notMem h, List.nil_append]

theorem same_valuesOf_zip (hnodup : (Column.names columns).Nodup)
    (h : SameValues columns items items') :
    ∀ c ∈ columns, List.Forall₂ c.Same (valuesOf ((Column.names columns).zip items) c.name)
      (valuesOf ((Column.names columns).zip items') c.name) := by
  induction h with
  | nil => simp
  | @cons first columns value value' values values' hvalue _ ih =>
    obtain ⟨hnew, hrest⟩ := List.nodup_cons.1 hnodup
    intro c hc
    simp only [Column.names, List.map_cons, List.zip_cons_cons, valuesOf_cons]
    rcases List.mem_cons.1 hc with rfl | hc
    · rw [if_pos rfl, if_pos rfl]
      refine .cons hvalue ?_
      rw [valuesOf_zip_of_notMem hnew, valuesOf_zip_of_notMem hnew]
      exact .nil
    · have hne : first.name ≠ c.name := fun heq => hnew (List.mem_map.2 ⟨c, hc, heq.symm⟩)
      rw [if_neg hne, if_neg hne]
      exact ih hrest c hc

end Json

open Json

/-- Whether a field is found with the given data: its first value counts, and the others must be
readable. -/
def Field.Holds {α : Type} (f : Field α) (a : α) : List Json → Prop
  | [] => f.ifMissing = some a
  | value :: values => f.decode value = .ok a ∧ ∀ v ∈ values, (f.decode v).isOk

theorem Field.holds_congr {α : Type} {f : Field α} {a : α} {values values' : List Json}
    (h : List.Forall₂ (fun v v' => ∀ a, f.decode v = .ok a ↔ f.decode v' = .ok a) values values') :
    f.Holds a values ↔ f.Holds a values' := by
  have hrest {values values' : List Json} (h : List.Forall₂
      (fun v v' => ∀ a, f.decode v = .ok a ↔ f.decode v' = .ok a) values values') :
      (∀ v ∈ values, (f.decode v).isOk) ↔ ∀ v ∈ values', (f.decode v).isOk := by
    induction h with
    | nil => exact Iff.rfl
    | cons h _ ih =>
      rw [List.forall_mem_cons, List.forall_mem_cons, ih, isOk_iff, isOk_iff]
      simp only [h]
  cases h with
  | nil => exact Iff.rfl
  | cons h hs => exact and_congr (h a) (hrest hs)

namespace Fields
variable {α β : Type} {r : Fields α} {q : Fields β} {fields fields' : List (String × Json)}
  {a : α} {b : β} {columns columns' : List Column} {items items' : List Json}

theorem decode_obj_iff : r.decode (.obj fields) = .ok a ↔ r.Reads fields a := by
  refine ⟨fun h => ?_, Reads.decode⟩
  obtain ⟨_, hchecked, hread⟩ := bind_eq_ok_iff.1 h
  exact ⟨forM_eq_ok_iff.1 hchecked, hread⟩

theorem reads_and_iff : (r.and q).Reads fields (a, b) ↔ r.Reads fields a ∧ q.Reads fields b := by
  refine ⟨fun h => ?_, fun ⟨ha, hb⟩ => ha.and hb⟩
  obtain ⟨_, ha, hrest⟩ := bind_eq_ok_iff.1 h.ofObject
  obtain ⟨_, hb, heq⟩ := bind_eq_ok_iff.1 hrest
  cases heq
  have hchecks := fun e he => bind_eq_ok_iff.1 (h.check e he)
  exact ⟨⟨fun e he => (hchecks e he).choose_spec.1, ha⟩,
    ⟨fun e he => (hchecks e he).choose_spec.2, hb⟩⟩

theorem ofArray_one_nil_iff {f : Field α} {i : Nat} {rest : List Json} :
    (one f).ofArray i [] = .ok (a, rest) ↔ f.ifShort = some a ∧ rest = [] := by
  rw [one]
  cases f.ifShort with
  | none => simp
  | some d => simp [@eq_comm _ []]

theorem ofArray_one_cons_iff {f : Field α} {i : Nat} {item : Json} {rest : List Json} :
    (one f).ofArray i (item :: items) = .ok (a, rest) ↔ rest = items ∧ f.decode item = .ok a := by
  rw [one]
  dsimp only
  cases f.decode item <;> simp [Except.map, and_comm, @eq_comm _ rest]

theorem ofArray_and_iff {i : Nat} {rest : List Json} :
    (r.and q).ofArray i items = .ok ((a, b), rest) ↔
      ∃ mid, r.ofArray i items = .ok (a, mid) ∧ q.ofArray (i + r.size) mid = .ok (b, rest) := by
  constructor
  · intro hread
    obtain ⟨⟨a', mid⟩, ha, hrest⟩ := bind_eq_ok_iff.1 hread
    obtain ⟨⟨b', rest'⟩, hb, heq⟩ := bind_eq_ok_iff.1 hrest
    cases heq
    exact ⟨mid, ha, hb⟩
  · rintro ⟨mid, ha, hb⟩
    exact bind_eq_ok_iff.2 ⟨_, ha, bind_eq_ok_iff.2 ⟨_, hb, rfl⟩⟩

theorem reads_map_iff {f : α → β} : (r.map f).Reads fields b ↔ ∃ a, r.Reads fields a ∧ f a = b := by
  constructor
  · intro h
    obtain ⟨a, ha, hb⟩ := exists_of_map_eq_ok h.ofObject
    exact ⟨a, ⟨h.check, ha⟩, hb⟩
  · rintro ⟨a, ha, rfl⟩
    exact ha.map f

theorem check_one_iff {f : Field α} : (∀ e ∈ fields, (one f).check e.1 e.2 = .ok ()) ↔
    ∀ v ∈ valuesOf fields f.name, (f.decode v).isOk := by
  induction fields with
  | nil => simp
  | cons e fields ih =>
    rw [List.forall_mem_cons, ih, valuesOf_cons, one]
    dsimp only
    split
    · rw [List.forall_mem_cons]
      cases f.decode e.2 <;> simp [Except.map, Except.isOk, Except.toBool]
    · simp

theorem reads_one_iff {f : Field α} :
    (one f).Reads fields a ↔ f.Holds a (valuesOf fields f.name) := by
  have hsplit : (one f).Reads fields a ↔
      (∀ v ∈ valuesOf fields f.name, (f.decode v).isOk) ∧ (one f).ofObject fields = .ok a := by
    rw [← check_one_iff]
    exact ⟨fun h => ⟨h.check, h.ofObject⟩, fun h => ⟨h.1, h.2⟩⟩
  rw [hsplit]
  simp only [one, lookup_eq_head?]
  cases valuesOf fields f.name with
  | nil => cases hmissing : f.ifMissing <;> simp [Field.Holds, hmissing]
  | cons value values =>
    simp only [List.head?_cons, List.forall_mem_cons, Field.Holds]
    constructor
    · rintro ⟨⟨_, hvalues⟩, hvalue⟩
      exact ⟨hvalue, hvalues⟩
    · rintro ⟨hvalue, hvalues⟩
      exact ⟨⟨isOk_iff.2 ⟨a, hvalue⟩, hvalues⟩, hvalue⟩

/-- The fields of a record are the given columns: an object is judged by the values under their
names alone, and an array as the object that it stands for. -/
structure HasColumns (r : Fields α) (columns : List Column) : Prop where
  reads_congr {fields fields' : List (String × Json)} {a : α}
    (h : ∀ c ∈ columns,
      List.Forall₂ c.Same (valuesOf fields c.name) (valuesOf fields' c.name)) :
    r.Reads fields a ↔ r.Reads fields' a
  ofArray_iff {i : Nat} {items rest : List Json} {a : α} :
    r.ofArray i items = .ok (a, rest) ↔ (∀ c ∈ columns.drop items.length, c.hasDefault) ∧
      rest = items.drop columns.length ∧ r.Reads ((Column.names columns).zip items) a

theorem HasColumns.reads_of_valuesOf_eq (h : r.HasColumns columns)
    (heq : ∀ c ∈ columns, valuesOf fields c.name = valuesOf fields' c.name) :
    r.Reads fields a ↔ r.Reads fields' a := by
  apply h.reads_congr
  intro c hc
  rw [heq c hc, List.forall₂_same]
  exact fun value _ => c.same_refl value

theorem hasColumns_one {f : Field α} {c : Column} (hname : c.name = f.name)
    (hsame : ∀ v v', c.Same v v' → ∀ a, f.decode v = .ok a ↔ f.decode v' = .ok a)
    (hdefault : c.hasDefault = f.ifShort.isSome)
    (hshort : f.ifShort.isSome → f.ifMissing = f.ifShort) : (one f).HasColumns [c] where
  reads_congr h := by
    rw [reads_one_iff, reads_one_iff, ← hname]
    exact Field.holds_congr ((h c (by simp)).imp hsame)
  ofArray_iff {i items rest a} := by
    rw [reads_one_iff]
    cases items with
    | nil =>
      rw [ofArray_one_nil_iff]
      show _ ↔ (∀ c' ∈ [c], c'.hasDefault) ∧ rest = [] ∧ f.ifMissing = some a
      rw [List.forall_mem_singleton, hdefault]
      cases hvalue : f.ifShort with
      | none => simp
      | some d =>
        rw [hvalue] at hshort
        rw [hshort rfl]
        tauto
    | cons item items =>
      have hvalues : valuesOf ((Column.names [c]).zip (item :: items)) f.name = [item] := by
        simp [Column.names, valuesOf_cons, hname]
      rw [ofArray_one_cons_iff, hvalues]
      simp [Field.Holds]

theorem HasColumns.and (h : r.HasColumns columns) (h' : q.HasColumns columns')
    (hdisjoint : ∀ name ∈ Column.names columns, name ∉ Column.names columns') :
    (r.and q).HasColumns (columns ++ columns') where
  reads_congr {fields fields' a} hvalues := by
    rw [reads_and_iff, reads_and_iff, h.reads_congr fun c hc => hvalues c (by simp [hc]),
      h'.reads_congr fun c hc => hvalues c (by simp [hc])]
  ofArray_iff {i items rest p} := by
    obtain ⟨a, b⟩ := p
    -- The values of one record do not show in the fields of the other.
    have hnames : Column.names (columns ++ columns') = Column.names columns ++
      Column.names columns' := List.map_append
    have hleft : r.Reads ((Column.names (columns ++ columns')).zip items) a ↔
        r.Reads ((Column.names columns).zip items) a := by
      apply h.reads_of_valuesOf_eq
      intro c hc
      rw [hnames]
      exact valuesOf_zip_append_left (hdisjoint c.name (List.mem_map_of_mem hc)) items
    have hright : q.Reads ((Column.names (columns ++ columns')).zip items) b ↔
        q.Reads ((Column.names columns').zip (items.drop columns.length)) b := by
      apply h'.reads_of_valuesOf_eq
      intro c hc
      have hnot : c.name ∉ Column.names columns :=
        fun hmem => hdisjoint c.name hmem (List.mem_map_of_mem hc)
      have hlength : (Column.names columns).length = columns.length := List.length_map _
      rw [hnames, valuesOf_zip_append_right hnot, hlength]
    rw [reads_and_iff, hleft, hright, List.drop_append, List.forall_mem_append,
      List.length_append, ← List.drop_drop, ofArray_and_iff]
    constructor
    · rintro ⟨mid, ha, hb⟩
      obtain ⟨hdefaults, rfl, hreads⟩ := h.ofArray_iff.1 ha
      obtain ⟨hdefaults', rfl, hreads'⟩ := h'.ofArray_iff.1 hb
      rw [List.length_drop] at hdefaults'
      exact ⟨⟨hdefaults, hdefaults'⟩, rfl, hreads, hreads'⟩
    · rintro ⟨⟨hdefaults, hdefaults'⟩, rfl, hreads, hreads'⟩
      rw [← List.length_drop] at hdefaults'
      exact ⟨_, h.ofArray_iff.2 ⟨hdefaults, rfl, hreads⟩,
        h'.ofArray_iff.2 ⟨hdefaults', rfl, hreads'⟩⟩

theorem HasColumns.map (h : r.HasColumns columns) (f : α → β) : (r.map f).HasColumns columns where
  reads_congr {fields fields' b} hvalues := by
    simp only [reads_map_iff, h.reads_congr hvalues]
  ofArray_iff {i items rest b} := by
    rw [reads_map_iff]
    constructor
    · intro hread
      obtain ⟨⟨a, rest'⟩, ha, heq⟩ := exists_of_map_eq_ok hread
      cases heq
      obtain ⟨hdefaults, hrest, hreads⟩ := h.ofArray_iff.1 ha
      exact ⟨hdefaults, hrest, a, hreads, rfl⟩
    · rintro ⟨hdefaults, hrest, a, hreads, rfl⟩
      exact map_eq_ok (h.ofArray_iff.2 ⟨hdefaults, hrest, hreads⟩) _

theorem HasColumns.decode_arr_iff (h : r.HasColumns columns) :
    r.decode (.arr items) = .ok a ↔ items.length ≤ columns.length ∧
      (∀ c ∈ columns.drop items.length, c.hasDefault) ∧
      r.Reads ((Column.names columns).zip items) a := by
  have hread : r.decode (.arr items) = .ok a ↔ r.ofArray 0 items = .ok (a, []) := by
    rw [decode, bind_eq_ok_iff]
    constructor
    · rintro ⟨⟨a', rest⟩, hread, hend⟩
      cases rest with
      | nil => cases hend; exact hread
      | cons => cases hend
    · exact fun hread => ⟨_, hread, rfl⟩
  rw [hread, h.ofArray_iff, eq_comm, List.drop_eq_nil_iff]
  tauto

section
variable [JsonFormat α]

theorem hasColumns_required (name : String) :
    (one (.required name) : Fields α).HasColumns [.of α name] :=
  hasColumns_one rfl (fun _ _ h => h) rfl (by simp [Field.required])

theorem hasColumns_withDefault (name : String) (value : α) :
    (one (.withDefault name value)).HasColumns [.withDefault α name] :=
  hasColumns_one rfl (fun _ _ h => h) rfl (fun _ => rfl)

end

end Fields

end ArtifactResolution
