import Std.Data.TreeMap

namespace ArtifactResolution
set_option autoImplicit false

/-- A finite map whose entries stand in the order of their first insertion. -/
structure Table (κ α : Type) [Ord κ] where
  entries : Array (κ × α)
  position : Std.TreeMap κ Nat
  position_eq_some : ∀ (k : κ) (i : Nat), position[k]? = some i ↔
    ∃ a : α, entries[i]? = some (k, a)

/-- A finite set whose members stand in the order of their first insertion. -/
abbrev OrderedSet (κ : Type) [Ord κ] := Table κ Unit

namespace Table
variable {κ α β : Type} [Ord κ]

def toList (t : Table κ α) : List (κ × α) := t.entries.toList

def keys (t : Table κ α) : List κ := t.toList.map (·.1)

def values (t : Table κ α) : List α := t.toList.map (·.2)

def size (t : Table κ α) : Nat := t.entries.size

def isEmpty (t : Table κ α) : Bool := t.entries.isEmpty

def contains (t : Table κ α) (k : κ) : Bool := t.position.contains k

def get? (t : Table κ α) (k : κ) : Option α :=
  t.position[k]?.bind fun i => t.entries[i]?.map (·.2)

theorem get?_eq_some_iff {t : Table κ α} {k : κ} {a : α} :
    t.get? k = some a ↔ (k, a) ∈ t.toList := by
  simp only [get?, toList, List.mem_iff_getElem?, Array.getElem?_toList, Option.bind_eq_some_iff,
    Option.map_eq_some_iff]
  constructor
  · rintro ⟨i, hi, e, he, rfl⟩
    obtain ⟨b, hb⟩ := (t.position_eq_some k i).1 hi
    rw [hb] at he
    cases he
    exact ⟨i, hb⟩
  · rintro ⟨i, hi⟩
    exact ⟨i, (t.position_eq_some k i).2 ⟨a, hi⟩, (k, a), hi, rfl⟩

/-- Whether two maps have the same keys, in any order, with related values. -/
def agrees (r : α → β → Bool) (t : Table κ α) (u : Table κ β) : Bool :=
  t.size == u.size && t.toList.all fun e => (u.get? e.1).any (r e.2)

/-- Rewrites each value, knowing its key. -/
def map (t : Table κ α) (f : κ → α → β) : Table κ β where
  entries := t.entries.map fun e => (e.1, f e.1 e.2)
  position := t.position
  position_eq_some k i := by
    rw [t.position_eq_some]
    simp only [Array.getElem?_map, Option.map_eq_some_iff, Prod.mk.injEq, Prod.exists]
    constructor
    · rintro ⟨a, h⟩
      exact ⟨f k a, k, a, h, rfl, rfl⟩
    · rintro ⟨_, _, a, h, rfl, _⟩
      exact ⟨a, h⟩

@[simp] theorem toList_map (t : Table κ α) (f : κ → α → β) :
    (t.map f).toList = t.toList.map fun e => (e.1, f e.1 e.2) := by
  simp [map, toList]

@[simp] theorem keys_map (t : Table κ α) (f : κ → α → β) : (t.map f).keys = t.keys := by
  simp [keys]

@[simp] theorem get?_map (t : Table κ α) (f : κ → α → β) (k : κ) :
    (t.map f).get? k = (t.get? k).map (f k) := by
  apply Option.ext
  intro b
  rw [get?_eq_some_iff, toList_map, List.mem_map, Option.map_eq_some_iff]
  simp only [get?_eq_some_iff, Prod.exists, Prod.mk.injEq]
  constructor
  · rintro ⟨_, a, h, rfl, rfl⟩
    exact ⟨a, h, rfl⟩
  · rintro ⟨a, h, rfl⟩
    exact ⟨k, a, h, rfl, rfl⟩

/-- Changes the value under a key, if there is one. -/
def modify (t : Table κ α) (k : κ) (f : α → α) : Table κ α :=
  match t.position[k]? with
  | some i =>
    { entries := t.entries.modify i fun e => (e.1, f e.2)
      position := t.position
      position_eq_some := fun k' j => by
        rw [t.position_eq_some, Array.getElem?_modify]
        split
        · constructor
          · rintro ⟨a, h⟩
            exact ⟨f a, by simp [h]⟩
          · rintro ⟨_, h⟩
            obtain ⟨e, he, hk⟩ := Option.map_eq_some_iff.1 h
            have hk : e.1 = k' := congrArg Prod.fst hk
            exact ⟨e.2, by rw [he, ← hk]⟩
        · exact Iff.rfl }
  | none => t

@[simp] theorem get?_modify_self (t : Table κ α) (k : κ) (f : α → α) :
    (t.modify k f).get? k = (t.get? k).map f := by
  rw [modify]
  cases h : t.position[k]? with
  | none => simp [get?, h]
  | some i => simp [get?, h, Array.getElem?_modify, Function.comp_def]

theorem get?_modify_of_ne (t : Table κ α) {k k' : κ} (f : α → α) (h : k ≠ k') :
    (t.modify k f).get? k' = t.get? k' := by
  rw [modify]
  cases hk : t.position[k]? with
  | none => rfl
  | some i =>
    simp only [get?, Array.getElem?_modify]
    apply Option.bind_congr
    intro j hj
    rw [if_neg]
    rintro rfl
    obtain ⟨a, ha⟩ := (t.position_eq_some k i).1 hk
    obtain ⟨b, hb⟩ := (t.position_eq_some k' i).1 hj
    simp_all

theorem position_set {t : Table κ α} {k : κ} {a : α} {j : Nat} (h : t.position[k]? = some j)
    (k' : κ) (i : Nat) : t.position[k']? = some i ↔
      ∃ b, (t.entries.setIfInBounds j (k, a))[i]? = some (k', b) := by
  obtain ⟨c, hc⟩ := (t.position_eq_some k j).1 h
  obtain ⟨hj, hc⟩ := Array.getElem?_eq_some_iff.1 hc
  rw [t.position_eq_some, Array.getElem?_setIfInBounds]
  by_cases hi : j = i
  · subst hi
    simp [hj, hc]
  · simp [hi]

variable [Std.TransOrd κ]

theorem contains_eq_isSome_get? (t : Table κ α) (k : κ) :
    t.contains k = (t.get? k).isSome := by
  rw [contains, ← Std.TreeMap.isSome_getElem?_eq_contains, get?]
  cases h : t.position[k]? with
  | none => rfl
  | some i =>
    obtain ⟨a, ha⟩ := (t.position_eq_some k i).1 h
    simp [ha]

def empty : Table κ α where
  entries := #[]
  position := ∅
  position_eq_some := by simp

instance : EmptyCollection (Table κ α) := ⟨empty⟩
instance : Inhabited (Table κ α) := ⟨∅⟩

@[simp] theorem toList_empty : (∅ : Table κ α).toList = [] := rfl

@[simp] theorem get?_empty (k : κ) : (∅ : Table κ α).get? k = none := by
  simp [Option.eq_none_iff_forall_ne_some, get?_eq_some_iff]

variable [Std.LawfulEqOrd κ]

theorem position_push {t : Table κ α} {k : κ} {a : α} (h : t.position[k]? = none) (k' : κ)
    (i : Nat) : (t.position.insert k t.entries.size)[k']? = some i ↔
      ∃ b, (t.entries.push (k, a))[i]? = some (k', b) := by
  rw [Std.TreeMap.getElem?_insert, Array.getElem?_push]
  by_cases hk : k = k'
  · subst hk
    rw [if_pos Std.compare_self]
    constructor
    · intro hi
      cases hi
      exact ⟨a, by simp⟩
    · rintro ⟨b, hb⟩
      split at hb
      · simp_all
      · exact absurd ((t.position_eq_some k i).2 ⟨b, hb⟩) (by simp [h])
  · rw [if_neg (by simpa using hk), t.position_eq_some]
    split
    · next hi =>
      subst hi
      simp [hk]
    · exact Iff.rfl

/-- Writes a value under a key; a key that is already there keeps its place. -/
def insert (t : Table κ α) (k : κ) (a : α) : Table κ α :=
  match h : t.position[k]? with
  | some i =>
    { entries := t.entries.setIfInBounds i (k, a)
      position := t.position
      position_eq_some := position_set h }
  | none =>
    let last := t.entries.size
    { entries := t.entries.push (k, a)
      position := t.position.insert k last
      position_eq_some := position_push h }

theorem position_insert_self (t : Table κ α) (k : κ) (a : α) :
    ∃ i, (t.insert k a).position[k]? = some i ∧ (t.insert k a).entries[i]? = some (k, a) := by
  rw [insert]
  split
  · next i h =>
    obtain ⟨c, hc⟩ := (t.position_eq_some k i).1 h
    obtain ⟨hi, _⟩ := Array.getElem?_eq_some_iff.1 hc
    exact ⟨i, h, by simp [hi]⟩
  · exact ⟨t.entries.size, by simp, by simp⟩

@[simp] theorem get?_insert_self (t : Table κ α) (k : κ) (a : α) :
    (t.insert k a).get? k = some a := by
  obtain ⟨i, hi, he⟩ := t.position_insert_self k a
  simp [get?, hi, he]

theorem get?_insert_of_ne (t : Table κ α) {k k' : κ} (a : α) (h : k ≠ k') :
    (t.insert k a).get? k' = t.get? k' := by
  apply Option.ext
  intro b
  rw [get?_eq_some_iff, get?_eq_some_iff, toList, toList, insert]
  split
  · next i hi =>
    simp only [Array.toList_setIfInBounds, List.mem_iff_getElem?, List.getElem?_set]
    constructor
    · rintro ⟨j, hj⟩
      split at hj
      · simp_all
      · exact ⟨j, hj⟩
    · rintro ⟨j, hj⟩
      refine ⟨j, ?_⟩
      rw [if_neg ?_, hj]
      rintro rfl
      obtain ⟨c, hc⟩ := (t.position_eq_some k i).1 hi
      simp_all
  · simp [Ne.symm h]

theorem keys_insert_of_contains {t : Table κ α} {k : κ} (a : α) (h : t.contains k) :
    (t.insert k a).keys = t.keys := by
  rw [insert]
  split
  · next i hi =>
    obtain ⟨c, hc⟩ := (t.position_eq_some k i).1 hi
    have hlt : i < t.entries.size := (Array.getElem?_eq_some_iff.1 hc).1
    simp only [keys, toList, Array.toList_setIfInBounds, List.map_set]
    apply List.ext_getElem?
    intro j
    rw [List.getElem?_set]
    split
    · next h => subst h; simp_all
    · rfl
  · next hi => simp [contains, ← Std.TreeMap.isSome_getElem?_eq_contains, hi] at h

theorem toList_insert_of_not_contains {t : Table κ α} {k : κ} (a : α) (h : ¬t.contains k) :
    (t.insert k a).toList = t.toList ++ [(k, a)] := by
  rw [insert]
  split
  · next i hi => simp [contains, ← Std.TreeMap.isSome_getElem?_eq_contains, hi] at h
  · simp [toList]

def ofList (entries : List (κ × α)) : Table κ α :=
  entries.foldl (fun t e => t.insert e.1 e.2) ∅

end Table

namespace OrderedSet
variable {κ : Type} [Ord κ] [Std.TransOrd κ] [Std.LawfulEqOrd κ]

def insert (s : OrderedSet κ) (k : κ) : OrderedSet κ := Table.insert s k ()

def toList (s : OrderedSet κ) : List κ := Table.keys s

/-- The elements of a list, each at the place of its first occurrence. -/
def ofList (ks : List κ) : OrderedSet κ := ks.foldl insert ∅

end OrderedSet

end ArtifactResolution
