import Mathlib.Data.List.Induction
import Mathlib.Data.List.Nodup

namespace ArtifactResolution
set_option autoImplicit false

variable {α : Type} [BEq α] [LawfulBEq α] {l l' : List α}

theorem eraseDups_concat (l : List α) (a : α) :
    (l ++ [a]).eraseDups = if a ∈ l.eraseDups then l.eraseDups else l.eraseDups ++ [a] := by
  rw [List.eraseDups_append]
  split
  · next h => simp [List.removeAll, List.mem_eraseDups.1 h]
  · next h => simp [List.removeAll, mt List.mem_eraseDups.2 h, List.eraseDups_cons]

theorem eraseDups_of_nodup (h : l.Nodup) : l.eraseDups = l := by
  induction l with
  | nil => rfl
  | cons a l ih =>
    obtain ⟨ha, hl⟩ := List.nodup_cons.1 h
    have hfilter : l.filter (fun b => !b == a) = l := by
      apply List.filter_eq_self.2
      intro b hb
      have hne : b ≠ a := fun hba => ha (hba ▸ hb)
      simpa using hne
    rw [List.eraseDups_cons, hfilter, ih hl]

theorem eraseDups_sublist (l : List α) : l.eraseDups.Sublist l := by
  induction l using List.reverseRecOn with
  | nil => exact .refl _
  | append_singleton l a ih =>
    rw [eraseDups_concat]
    split
    · exact ih.trans (List.sublist_append_left l [a])
    · exact ih.append (.refl [a])

theorem eraseDups_filter (p : α → Bool) (l : List α) :
    (l.filter p).eraseDups = l.eraseDups.filter p := by
  induction l using List.reverseRecOn with
  | nil => rfl
  | append_singleton l a ih =>
    rw [List.filter_append, eraseDups_concat]
    cases ha : p a with
    | false =>
      rw [List.filter_singleton, ha, cond_false, List.append_nil, ih]
      split <;> simp [ha]
    | true =>
      rw [List.filter_singleton, ha, cond_true, eraseDups_concat, ih]
      by_cases hmem : a ∈ l <;> simp [hmem, ha]

theorem pairwise_idxOf_eraseDups (l : List α) :
    l.eraseDups.Pairwise fun a b => l.idxOf a < l.idxOf b := by
  induction l using List.reverseRecOn with
  | nil => exact .nil
  | append_singleton l a ih =>
    have hidx (b : α) (hb : b ∈ l.eraseDups) : (l ++ [a]).idxOf b = l.idxOf b :=
      List.idxOf_append_of_mem (List.mem_eraseDups.1 hb)
    have hpairs : l.eraseDups.Pairwise fun b c => (l ++ [a]).idxOf b < (l ++ [a]).idxOf c := by
      apply ih.imp_of_mem
      intro b c hb hc hlt
      rwa [hidx b hb, hidx c hc]
    rw [eraseDups_concat]
    split
    · exact hpairs
    · next hnew =>
      refine List.pairwise_append.2 ⟨hpairs, List.pairwise_singleton _ a, ?_⟩
      intro b hb c hc
      obtain rfl := List.mem_singleton.1 hc
      have hmem : b ∈ l := List.mem_eraseDups.1 hb
      rw [hidx b hb, List.idxOf_append_of_notMem (mt List.mem_eraseDups.2 hnew)]
      exact Nat.lt_add_right _ (List.idxOf_lt_length_of_mem hmem)

theorem nodup_eraseDups (l : List α) : l.eraseDups.Nodup := by
  apply (pairwise_idxOf_eraseDups l).imp
  rintro a b hlt rfl
  exact Nat.lt_irrefl _ hlt

theorem perm_eraseDups (h : l.Perm l') : l.eraseDups.Perm l'.eraseDups := by
  apply (List.perm_ext_iff_of_nodup (nodup_eraseDups l) (nodup_eraseDups l')).2
  intro a
  rw [List.mem_eraseDups, List.mem_eraseDups, h.mem_iff]

section Lookup
variable {κ β : Type} [BEq κ] [LawfulBEq κ] {entries : List (κ × β)} {k : κ} {b : β}

theorem mem_of_lookup (h : entries.lookup k = some b) : (k, b) ∈ entries := by
  obtain ⟨before, after, rfl, _⟩ := List.lookup_eq_some_iff.1 h
  exact List.mem_append_right _ List.mem_cons_self

theorem exists_lookup_of_mem (h : (k, b) ∈ entries) : ∃ first, entries.lookup k = some first := by
  rw [← Option.isSome_iff_exists, List.lookup_isSome_iff]
  exact ⟨(k, b), h, BEq.rfl⟩

theorem lookup_filter_key (entries : List (κ × β)) (k : κ) :
    (entries.filter fun e => e.1 == k).lookup k = entries.lookup k := by
  induction entries with
  | nil => rfl
  | cons e entries ih =>
    rw [List.filter_cons, List.lookup_cons]
    by_cases hk : e.1 = k
    · rw [if_pos (beq_iff_eq.2 hk), List.lookup_cons, hk, BEq.rfl]
    · rw [if_neg (by simpa using hk), beq_eq_false_iff_ne.2 (Ne.symm hk), ih]

omit [LawfulBEq κ] in
theorem eq_of_key_eq_of_lookup (h : ∀ e ∈ entries, entries.lookup e.1 = some e.2) :
    ∀ e ∈ entries, ∀ e' ∈ entries, e.1 = e'.1 → e.2 = e'.2 := by
  intro e he e' he' hkey
  have hvalue := h e he
  rw [hkey, h e' he'] at hvalue
  exact (Option.some.inj hvalue).symm

end Lookup

end ArtifactResolution
