namespace ArtifactResolution.SortedEntries
set_option autoImplicit false

variable {α : Type}

abbrev Ascending (es : List (String × α)) : Prop := es.Pairwise fun a b => a.1 < b.1

/-- Puts an entry at its place; it replaces the one with the same key. -/
def insert (key : String) (value : α) : List (String × α) → List (String × α)
  | [] => [(key, value)]
  | e :: es =>
    if key < e.1 then (key, value) :: e :: es
    else if key = e.1 then (key, value) :: es
    else e :: insert key value es

theorem mem_insert {key : String} {value : α} {es : List (String × α)} {e : String × α}
    (h : e ∈ insert key value es) : e.1 = key ∨ e ∈ es := by
  induction es with
  | nil => simp_all [insert]
  | cons e' es ih => grind [insert]

theorem ascending_insert (key : String) (value : α) {es : List (String × α)} (h : Ascending es) :
    Ascending (insert key value es) := by
  induction es with
  | nil => simp [insert]
  | cons e es ih =>
    obtain ⟨he, hes⟩ := List.pairwise_cons.1 h
    rw [insert]
    split
    · next hlt =>
      refine List.pairwise_cons.2 ⟨fun a ha => ?_, h⟩
      cases ha with
      | head => exact hlt
      | tail _ ha => exact String.lt_trans hlt (he a ha)
    · split
      · next heq =>
        subst heq
        exact List.pairwise_cons.2 ⟨he, hes⟩
      · next hlt hne =>
        refine List.pairwise_cons.2 ⟨fun a ha => ?_, ih hes⟩
        cases mem_insert ha with
        | inl hk =>
          rw [hk]
          exact Std.lt_of_le_of_ne (Std.not_lt.1 hlt) (Ne.symm hne)
        | inr ha => exact he a ha

def ofList (entries : List (String × α)) : List (String × α) :=
  entries.foldl (fun es e => insert e.1 e.2 es) []

end ArtifactResolution.SortedEntries
