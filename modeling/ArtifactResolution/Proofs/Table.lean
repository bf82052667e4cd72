import ArtifactResolution.Proofs.FirstOccurrences
import ArtifactResolution.Table

namespace ArtifactResolution
set_option autoImplicit false

namespace Table
variable {κ α : Type} [Ord κ]

theorem position_key {t : Table κ α} {k : κ} {i : Nat} (h : t.keys[i]? = some k) :
    t.position[k]? = some i := by
  rw [keys, List.getElem?_map, Option.map_eq_some_iff] at h
  obtain ⟨⟨_, a⟩, he, rfl⟩ := h
  exact (t.position_eq_some _ i).2 ⟨a, Array.getElem?_toList.symm.trans he⟩

theorem nodup_keys (t : Table κ α) : t.keys.Nodup := by
  rw [List.nodup_iff_getElem?_ne_getElem?]
  intro i j hij hj heq
  have hj' : t.keys[j]? = some t.keys[j] := List.getElem?_eq_getElem hj
  have hi' := position_key (heq.trans hj')
  rw [position_key hj', Option.some.injEq] at hi'
  omega

theorem length_keys (t : Table κ α) : t.keys.length = t.size := by
  simp [keys, toList, size]

theorem values_eq_map_keys (t : Table κ α) (d : α) :
    t.values = t.keys.map fun k => (t.get? k).getD d := by
  rw [values, keys, List.map_map]
  apply List.map_congr_left
  intro e he
  have hget : t.get? e.1 = some e.2 := get?_eq_some_iff.2 he
  simp [hget]

theorem exists_of_mem_values_map {β : Type} {t : Table κ α} {f : κ → α → β} {b : β}
    (h : b ∈ (t.map f).values) : ∃ k a, f k a = b := by
  rw [values, toList_map, List.map_map, List.mem_map] at h
  obtain ⟨e, _, rfl⟩ := h
  exact ⟨e.1, e.2, rfl⟩

theorem values_eq_filterMap (t : Table κ α) : t.values = t.keys.filterMap t.get? := by
  rw [values, keys, List.filterMap_map, ← List.filterMap_eq_map]
  apply List.filterMap_congr
  intro e he
  exact (get?_eq_some_iff.2 he).symm

theorem ext_entries {t u : Table κ α} (hentries : t.entries = u.entries)
    (hposition : t.position = u.position) : t = u := by
  cases t
  cases u
  cases hentries
  cases hposition
  rfl

theorem entries_modify {t : Table κ α} {k : κ} {i : Nat} (h : t.position[k]? = some i)
    (f : α → α) :
    (t.modify k f).entries = t.entries.modify i (fun e => (e.1, f e.2)) ∧
      (t.modify k f).position = t.position := by
  rw [modify]
  split
  · next j hj =>
    obtain rfl : i = j := Option.some.inj (h.symm.trans hj)
    exact ⟨rfl, rfl⟩
  · next hnone => simp [h] at hnone

@[simp] theorem keys_modify (t : Table κ α) (k : κ) (f : α → α) : (t.modify k f).keys = t.keys := by
  rw [modify]
  split
  · next i hi =>
    apply List.ext_getElem?
    intro j
    simp only [keys, toList, List.getElem?_map, Array.getElem?_toList, Array.getElem?_modify]
    split <;> simp [Function.comp_def]
  · rfl

/-- The map holds the last value of every key of a log of writes, and lists the keys in the order
in which the log first names them. -/
structure Records [BEq κ] (t : Table κ α) (log : List (κ × α)) : Prop where
  keys_eq : t.keys = (log.map (·.1)).eraseDups
  get?_eq : ∀ k, t.get? k = log.reverse.lookup k

/-- The last value of every key of a log of writes, in the order in which the log first names the
keys. -/
def latest [BEq κ] (log : List (κ × α)) : List α :=
  (log.map (·.1)).eraseDups.filterMap fun k => log.reverse.lookup k

theorem Records.values_eq [BEq κ] {t : Table κ α} {log : List (κ × α)} (h : t.Records log) :
    t.values = latest log := by
  rw [values_eq_filterMap, h.keys_eq, latest]
  apply List.filterMap_congr
  intro k _
  exact h.get?_eq k

variable [Std.TransOrd κ]

theorem mem_keys_iff {t : Table κ α} {k : κ} : k ∈ t.keys ↔ t.contains k := by
  rw [contains_eq_isSome_get?, Option.isSome_iff_exists, keys, List.mem_map]
  constructor
  · rintro ⟨⟨_, a⟩, h, rfl⟩
    exact ⟨a, get?_eq_some_iff.2 h⟩
  · rintro ⟨a, h⟩
    exact ⟨(k, a), get?_eq_some_iff.1 h, rfl⟩

theorem get?_eq_none_iff {t : Table κ α} {k : κ} : t.get? k = none ↔ k ∉ t.keys := by
  rw [mem_keys_iff, contains_eq_isSome_get?]
  cases t.get? k <;> simp

theorem records_empty [BEq κ] : (∅ : Table κ α).Records [] where
  keys_eq := rfl
  get?_eq k := by simp

variable [Std.LawfulEqOrd κ]

theorem keys_insert_of_mem {t : Table κ α} {k : κ} (a : α) (h : k ∈ t.keys) :
    (t.insert k a).keys = t.keys :=
  keys_insert_of_contains a (mem_keys_iff.1 h)

theorem keys_insert_of_notMem {t : Table κ α} {k : κ} (a : α) (h : k ∉ t.keys) :
    (t.insert k a).keys = t.keys ++ [k] := by
  rw [keys, toList_insert_of_not_contains a (fun hk => h (mem_keys_iff.2 hk)), List.map_append]
  rfl

theorem insert_of_get?_eq_some {t : Table κ α} {k : κ} {a : α} (h : t.get? k = some a) :
    t.insert k a = t := by
  obtain ⟨i, hi, he⟩ := Option.bind_eq_some_iff.1 h
  obtain ⟨b, hb⟩ := (t.position_eq_some k i).1 hi
  obtain rfl : b = a := by simpa [hb] using he
  -- The key keeps its position, so only the entry there is written, with what it holds.
  have hentries : t.entries.setIfInBounds i (k, b) = t.entries := by
    apply Array.ext_getElem?
    intro j
    rw [Array.getElem?_setIfInBounds]
    split
    · next hij =>
      obtain ⟨hlt, _⟩ := Array.getElem?_eq_some_iff.1 hb
      rw [if_pos (hij ▸ hlt), ← hij, hb]
    · rfl
  rw [insert]
  split
  · next j hj =>
    obtain rfl : i = j := Option.some.inj (hi.symm.trans hj)
    cases t
    simp_all
  · next hnone => simp [hi] at hnone

theorem modify_insert_self (t : Table κ α) (k : κ) (a : α) (f : α → α) :
    (t.insert k a).modify k f = t.insert k (f a) := by
  obtain ⟨i, hi, he⟩ := t.position_insert_self k a
  obtain ⟨hentries, hposition⟩ := entries_modify hi f
  apply ext_entries
  · rw [hentries]
    apply Array.ext_getElem?
    intro j
    rw [Array.getElem?_modify]
    -- Both writes are at the same place, that of the key or, if it is new, the end.
    revert hi he
    rw [insert, insert]
    split <;> grind
  · rw [hposition, insert, insert]
    split <;> rfl

section Writes
variable [BEq κ] [LawfulBEq κ]

theorem keys_insert_of_eraseDups {t : Table κ α} {ks : List κ} (h : t.keys = ks.eraseDups) (k : κ)
    (a : α) : (t.insert k a).keys = (ks ++ [k]).eraseDups := by
  rw [eraseDups_concat, ← h]
  split
  · next hk => exact keys_insert_of_mem a hk
  · next hk => exact keys_insert_of_notMem a hk

theorem Records.insert {t : Table κ α} {log : List (κ × α)} (h : t.Records log) (k : κ) (a : α) :
    (t.insert k a).Records (log ++ [(k, a)]) where
  keys_eq := by
    rw [keys_insert_of_eraseDups h.keys_eq, List.map_append]
    rfl
  get?_eq k' := by
    rw [List.reverse_append, List.reverse_singleton, List.singleton_append, List.lookup_cons]
    by_cases hk : k = k'
    · subst hk
      simp
    · rw [get?_insert_of_ne t a hk, h.get?_eq k', beq_eq_false_iff_ne.2 (Ne.symm hk)]

theorem keys_foldl_insert {t : Table κ α} {ks : List κ} (h : t.keys = ks.eraseDups) (a : α)
    (new : List κ) :
    (new.foldl (fun t k => t.insert k a) t).keys = (ks ++ new).eraseDups := by
  induction new generalizing t ks with
  | nil => simpa using h
  | cons k new ih =>
    rw [List.foldl_cons, ih (keys_insert_of_eraseDups h k a), List.append_assoc]
    rfl

end Writes

theorem getD_get?_foldl_insert {t : Table κ α} {a : α} {k : κ} (h : (t.get? k).getD a = a)
    (new : List κ) : ((new.foldl (fun t k => t.insert k a) t).get? k).getD a = a := by
  induction new generalizing t with
  | nil => exact h
  | cons k' new ih =>
    apply ih
    by_cases hk : k' = k
    · subst hk
      simp
    · rw [get?_insert_of_ne t a hk, h]

end Table

namespace OrderedSet
variable {κ : Type} [Ord κ] [Std.TransOrd κ]

theorem mem_toList_iff {s : OrderedSet κ} {k : κ} : k ∈ s.toList ↔ s.contains k :=
  Table.mem_keys_iff

variable [Std.LawfulEqOrd κ]

theorem insert_of_contains {s : OrderedSet κ} {k : κ} (h : s.contains k) : s.insert k = s := by
  rw [Table.contains_eq_isSome_get?] at h
  obtain ⟨⟨⟩, hget⟩ := Option.isSome_iff_exists.1 h
  exact Table.insert_of_get?_eq_some hget

variable [BEq κ] [LawfulBEq κ]

theorem toList_insert_of_eraseDups {s : OrderedSet κ} {ks : List κ} (h : s.toList = ks.eraseDups)
    (k : κ) : (s.insert k).toList = (ks ++ [k]).eraseDups :=
  Table.keys_insert_of_eraseDups h k ()

theorem toList_ofList (ks : List κ) : (ofList ks).toList = ks.eraseDups := by
  have hempty : (∅ : OrderedSet κ).keys = ([] : List κ).eraseDups := rfl
  exact Table.keys_foldl_insert hempty () ks

end OrderedSet

end ArtifactResolution
