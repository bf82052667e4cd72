import ArtifactResolution.Attributes
import ArtifactResolution.Proofs.FirstOccurrences
import Mathlib.Data.List.Induction
import Mathlib.Data.List.Nodup
import Mathlib.Data.List.Perm.Basic

namespace ArtifactResolution
set_option autoImplicit false

namespace SortedEntries
variable {α : Type} {es es' entries : List (String × α)}

theorem lookup_insert (key : String) (value : α) (es : List (String × α)) (key' : String) :
    (insert key value es).lookup key' = if key' = key then some value else es.lookup key' := by
  induction es with
  | nil => grind [insert]
  | cons e es ih => grind [insert, Std.lt_irrefl]

theorem Ascending.nodup_keys (h : Ascending es) : (es.map (·.1)).Nodup := by
  rw [List.Nodup, List.pairwise_map]
  exact h.imp fun {a b} (hlt : a.1 < b.1) (heq : a.1 = b.1) => String.lt_irrefl b.1 (heq ▸ hlt)

theorem Ascending.eq_of_perm (h : Ascending es) (h' : Ascending es') (hperm : es.Perm es') :
    es = es' :=
  hperm.eq_of_pairwise
    (fun _ _ _ _ hlt hgt => absurd (String.lt_trans hlt hgt) (String.lt_irrefl _)) h h'

theorem perm_insert {key : String} (value : α) (h : key ∉ es.map (·.1)) :
    (insert key value es).Perm ((key, value) :: es) := by
  induction es with
  | nil => exact .refl _
  | cons e es ih =>
    rw [List.map_cons, List.mem_cons, not_or] at h
    obtain ⟨hne, hrest⟩ := h
    rw [insert]
    split
    · exact .refl _
    · exact ((ih hrest).cons e).trans (.swap _ _ _)

theorem ascending_foldl (h : Ascending es) :
    Ascending (entries.foldl (fun es e => insert e.1 e.2 es) es) := by
  induction entries generalizing es with
  | nil => exact h
  | cons e entries ih => exact ih (ascending_insert e.1 e.2 h)

theorem perm_foldl (h : ((entries ++ es).map (·.1)).Nodup) :
    (entries.foldl (fun es e => insert e.1 e.2 es) es).Perm (entries ++ es) := by
  induction entries generalizing es with
  | nil => exact .refl _
  | cons e entries ih =>
    have hswap : ((e :: entries) ++ es).Perm (entries ++ e :: es) := List.perm_middle.symm
    have hnodup := (hswap.map (·.1)).nodup_iff.1 h
    have hinsert : (insert e.1 e.2 es).Perm (e :: es) := by
      apply perm_insert
      rw [List.map_append] at hnodup
      exact (List.nodup_cons.1 hnodup.of_append_right).1
    have hrest := hinsert.append_left entries
    exact ((ih ((hrest.map (·.1)).nodup_iff.2 hnodup)).trans hrest).trans hswap.symm

theorem ofList_of_perm (h : Ascending es) (hperm : entries.Perm es) : ofList entries = es := by
  have hnodup : (entries.map (·.1)).Nodup := (hperm.map _).nodup_iff.2 h.nodup_keys
  have hplaced : (ofList entries).Perm (entries ++ []) := perm_foldl (by rwa [List.append_nil])
  rw [List.append_nil] at hplaced
  exact (ascending_foldl .nil).eq_of_perm h (hplaced.trans hperm)

end SortedEntries

namespace Attributes

theorem entries_ofList (entries : List (String × String)) :
    (ofList entries).entries = SortedEntries.ofList entries := by
  have hrun (m : Attributes) : (entries.foldl (fun m e => m.insert e.1 e.2) m).entries =
      entries.foldl (fun es e => SortedEntries.insert e.1 e.2 es) m.entries := by
    induction entries generalizing m with
    | nil => rfl
    | cons e entries ih => exact ih (m.insert e.1 e.2)
  exact hrun ∅

theorem ofList_of_perm {m : Attributes} {entries : List (String × String)}
    (h : entries.Perm m.entries) : ofList entries = m := by
  have hentries : (ofList entries).entries = m.entries := by
    rw [entries_ofList, SortedEntries.ofList_of_perm m.ascending h]
  cases hm : ofList entries
  cases m
  rw [hm] at hentries
  simpa using hentries

variable {m m' : Attributes}

theorem get?_insert (m : Attributes) (key value key' : String) :
    (m.insert key value).get? key' = if key' = key then some value else m.get? key' :=
  SortedEntries.lookup_insert key value m.entries key'

theorem mem_entries_iff {e : String × String} : e ∈ m.entries ↔ m.get? e.1 = some e.2 := by
  constructor
  · intro he
    obtain ⟨value, hvalue⟩ := exists_lookup_of_mem he
    have heq : (e.1, value) = e :=
      List.inj_on_of_nodup_map m.ascending.nodup_keys (mem_of_lookup hvalue) he rfl
    rw [get?, hvalue, ← heq]
  · exact mem_of_lookup

theorem ext_get? (h : ∀ key, m.get? key = m'.get? key) : m = m' := by
  have hperm : m.entries.Perm m'.entries := by
    apply (List.perm_ext_iff_of_nodup (.of_map _ m.ascending.nodup_keys)
      (.of_map _ m'.ascending.nodup_keys)).2
    intro e
    rw [mem_entries_iff, mem_entries_iff, h]
  rw [← ofList_of_perm (.refl m.entries), ofList_of_perm hperm]

def lastValue? (entries : List (String × String)) (key : String) : Option String :=
  entries.reverse.lookup key

theorem lastValue?_concat (entries : List (String × String)) (e : String × String)
    (key : String) :
    lastValue? (entries ++ [e]) key = if key = e.1 then some e.2 else lastValue? entries key := by
  rw [lastValue?, List.reverse_concat, List.lookup_cons]
  by_cases hkey : key = e.1
  · rw [if_pos hkey, hkey, BEq.rfl]
  · rw [if_neg hkey, beq_eq_false_iff_ne.2 hkey]
    rfl

theorem ofList_concat (entries : List (String × String)) (e : String × String) :
    ofList (entries ++ [e]) = (ofList entries).insert e.1 e.2 :=
  List.foldl_concat _ _ _ _

theorem get?_ofList (entries : List (String × String)) (key : String) :
    (ofList entries).get? key = lastValue? entries key := by
  induction entries using List.reverseRecOn with
  | nil => rfl
  | append_singleton entries e ih =>
    rw [ofList_concat, get?_insert, lastValue?_concat, ih]

theorem lastValue?_filter (entries : List (String × String)) (key : String) :
    lastValue? (entries.filter fun e => e.1 == key) key = lastValue? entries key := by
  rw [lastValue?, ← List.filter_reverse, lookup_filter_key, lastValue?]

theorem lastValue?_of_ne (before after : List (String × String)) {key key' : String}
    (value : String) (h : key' ≠ key) :
    lastValue? (before ++ (key, value) :: after) key' = lastValue? (before ++ after) key' := by
  have hother : ([(key, value)] : List (String × String)).lookup key' = none := by
    rw [List.lookup_cons, beq_eq_false_iff_ne.2 h]
    rfl
  simp only [lastValue?, List.reverse_append, List.reverse_cons, List.lookup_append, hother,
    Option.or_none]

end Attributes

end ArtifactResolution
