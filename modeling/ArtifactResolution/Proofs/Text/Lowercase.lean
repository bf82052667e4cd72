import ArtifactResolution.Text.Lowercase
import Mathlib.Data.List.Forall2
import Mathlib.Data.String.Defs

namespace ArtifactResolution.Text
set_option autoImplicit false

/-- The first is a capital ASCII letter and the second its small form. -/
def IsCapitalOf (c d : Char) : Prop := 'A' ≤ c ∧ c ≤ 'Z' ∧ d.toNat = c.toNat + 32

/-- The characters are the same, or one ASCII letter in its two forms. -/
def SameLetter (c d : Char) : Prop := c = d ∨ IsCapitalOf c d ∨ IsCapitalOf d c

/-- The texts are the same up to the case of ASCII letters. -/
def SameSpelling (text name : String) : Prop :=
  List.Forall₂ SameLetter text.toList name.toList

instance (c d : Char) : Decidable (IsCapitalOf c d) := inferInstanceAs (Decidable (_ ∧ _ ∧ _))

instance (c d : Char) : Decidable (SameLetter c d) := inferInstanceAs (Decidable (_ ∨ _ ∨ _))

instance (text name : String) : Decidable (SameSpelling text name) :=
  inferInstanceAs (Decidable (List.Forall₂ SameLetter _ _))

variable {c d : Char} {before after cs word : List Char} {text name : String}

theorem toNat_toLower (c : Char) :
    c.toLower.toNat = if 65 ≤ c.toNat ∧ c.toNat ≤ 90 then c.toNat + 32 else c.toNat := by
  have hcapital : c.val ≥ 'A'.val ∧ c.val ≤ 'Z'.val ↔ 65 ≤ c.toNat ∧ c.toNat ≤ 90 := Iff.rfl
  delta Char.toLower
  split
  · next h =>
    have hlast : c.val.toNat ≤ 90 := h.2
    have hsum : (c.val + 32).toNat = c.val.toNat + 32 := by
      rw [UInt32.toNat_add]
      change (c.val.toNat + 32) % 2 ^ 32 = _
      omega
    rw [if_pos (hcapital.1 h)]
    exact hsum
  · next h => rw [if_neg (mt hcapital.2 h)]

theorem sameLetter_iff_toLower : SameLetter c d ↔ c.toLower = d.toLower := by
  have hcapital (c d : Char) :
      IsCapitalOf c d ↔ 65 ≤ c.toNat ∧ c.toNat ≤ 90 ∧ d.toNat = c.toNat + 32 := Iff.rfl
  rw [SameLetter, hcapital, hcapital, ← Char.toNat_inj, ← Char.toNat_inj, toNat_toLower,
    toNat_toLower]
  split <;> split <;> omega

theorem isAscii_iff : c.isAscii ↔ c.toNat < 128 := decide_eq_true_iff

theorem SameLetter.isAscii (h : SameLetter c d) (hd : d.isAscii) : c.isAscii := by
  rw [isAscii_iff] at hd ⊢
  obtain rfl | ⟨_, hlast, _⟩ | ⟨_, hlast, hsmall⟩ := h
  · exact hd
  · exact Nat.lt_of_le_of_lt hlast (by decide)
  · have hlast' : d.toNat ≤ 90 := hlast
    omega

theorem simpleLowercase_of_isAscii (h : c.isAscii) : simpleLowercase c = c.toLower := by
  have hall : ∀ n < 128, simpleLowercase (Char.ofNat n) = (Char.ofNat n).toLower := by
    decide +kernel
  simpa using hall c.toNat (isAscii_iff.1 h)

theorem lowercaseRanges_beyond_ascii : ∀ r ∈ lowercaseRanges, r.last < 128 ∨
    (128 ≤ r.target ∧ ∀ k ≤ r.last - r.first, (r.target + k).isValidChar) ∨
    (r.first = 0x212A ∧ r.last = 0x212A ∧ r.target = 0x6B) := by
  decide +kernel

theorem simpleLowercase_of_not_isAscii (h : ¬c.isAscii) :
    ¬(simpleLowercase c).isAscii ∨ simpleLowercase c = 'k' := by
  rw [simpleLowercase]
  cases hfind : lowercaseRanges.find? fun r => r.contains c.toNat with
  | none => exact .inl h
  | some r =>
    have hcontains : r.contains c.toNat := (List.find?_eq_some_iff_append.1 hfind).1
    simp only [CaseRange.contains, Bool.and_eq_true, decide_eq_true_eq] at hcontains
    obtain ⟨⟨hfirst, hlast⟩, _⟩ := hcontains
    rw [isAscii_iff, Nat.not_lt] at h
    rcases lowercaseRanges_beyond_ascii r (List.mem_of_find?_eq_some hfind) with
      hascii | ⟨htarget, hvalid⟩ | ⟨hsign, hsign', hk⟩
    · omega
    · left
      have hchar : (r.apply c.toNat).isValidChar := hvalid (c.toNat - r.first) (by omega)
      have htoNat : (Char.ofNat (r.apply c.toNat)).toNat = r.apply c.toNat := by
        rw [Char.ofNat, dif_pos hchar]
        rfl
      rw [isAscii_iff, htoNat, CaseRange.apply]
      omega
    · right
      have happly : r.apply c.toNat = 0x6B := by
        rw [CaseRange.apply]
        omega
      simp only [happly]

theorem lowercaseAt_of_isAscii (h : c.isAscii) : lowercaseAt before c after = [c.toLower] := by
  have hsigma : c ≠ 'Σ' := by
    rintro rfl
    exact absurd h (by decide)
  have hdotted : c ≠ 'İ' := by
    rintro rfl
    exact absurd h (by decide)
  rw [lowercaseAt, if_neg hsigma, if_neg hdotted, simpleLowercase_of_isAscii h]

theorem lowercaseAt_of_not_isAscii (h : ¬c.isAscii) :
    (∃ d ∈ lowercaseAt before c after, ¬d.isAscii) ∨ 'k' ∈ lowercaseAt before c after := by
  rw [lowercaseAt]
  split
  · left
    refine ⟨_, List.mem_singleton_self _, ?_⟩
    split <;> decide
  split
  · exact .inl ⟨'\u0307', by decide, by decide⟩
  · obtain hbeyond | hk := simpleLowercase_of_not_isAscii h
    · exact .inl ⟨_, List.mem_singleton_self _, hbeyond⟩
    · exact .inr (List.mem_singleton.2 hk.symm)

theorem lowercaseFrom_of_isAscii (h : ∀ c ∈ cs, c.isAscii) (before : List Char) :
    lowercaseFrom before cs = cs.map Char.toLower := by
  induction cs generalizing before with
  | nil => rfl
  | cons c cs ih =>
    rw [lowercaseFrom, lowercaseAt_of_isAscii (h c List.mem_cons_self),
      ih (fun d hd => h d (List.mem_cons_of_mem c hd)), List.map_cons, List.singleton_append]

theorem isAscii_of_lowercaseFrom (hascii : ∀ d ∈ lowercaseFrom before cs, d.isAscii)
    (hk : 'k' ∉ lowercaseFrom before cs) : ∀ c ∈ cs, c.isAscii := by
  induction cs generalizing before with
  | nil => simp
  | cons c cs ih =>
    rw [lowercaseFrom, List.forall_mem_append] at hascii
    rw [lowercaseFrom, List.mem_append, not_or] at hk
    refine List.forall_mem_cons.2 ⟨?_, ih hascii.2 hk.2⟩
    by_contra hc
    obtain ⟨d, hd, hbeyond⟩ | hmem := lowercaseAt_of_not_isAscii hc
    · exact hbeyond (hascii.1 d hd)
    · exact hk.1 hmem

/-- Where one character alone decides whether another matches it, a text matches a word if it is the
word after each of its characters is mapped. -/
theorem forall₂_iff_map_eq {R : Char → Char → Prop} {f : Char → Char}
    (h : ∀ d ∈ word, ∀ c, R c d ↔ f c = d) : List.Forall₂ R cs word ↔ cs.map f = word := by
  induction word generalizing cs with
  | nil => rw [List.forall₂_nil_right_iff, List.map_eq_nil_iff]
  | cons d word ih =>
    obtain ⟨hd, hword⟩ := List.forall_mem_cons.1 h
    rw [List.forall₂_cons_right_iff, List.map_eq_cons_iff]
    constructor
    · rintro ⟨c, rest, hc, hrest, rfl⟩
      exact ⟨c, rest, rfl, (hd c).1 hc, (ih hword).1 hrest⟩
    · rintro ⟨c, rest, rfl, hc, hrest⟩
      exact ⟨c, rest, (hd c).2 hc, (ih hword).2 hrest, rfl⟩

theorem sameSpelling_iff_map_toLower (hsmall : ∀ d ∈ name.toList, d.toLower = d) :
    SameSpelling text name ↔ text.toList.map Char.toLower = name.toList := by
  apply forall₂_iff_map_eq
  intro d hd c
  rw [sameLetter_iff_toLower, hsmall d hd]

theorem isAscii_of_sameLetters (h : List.Forall₂ SameLetter cs word)
    (hword : ∀ d ∈ word, d.isAscii) : ∀ c ∈ cs, c.isAscii := by
  induction h with
  | nil => exact List.forall_mem_nil _
  | cons hcd _ ih =>
    obtain ⟨hd, hrest⟩ := List.forall_mem_cons.1 hword
    exact List.forall_mem_cons.2 ⟨hcd.isAscii hd, ih hrest⟩

/-- A text has a name of small ASCII letters, the k excepted, as its lower case exactly when it is
the name up to the case of ASCII letters. Of the characters beyond ASCII only the Kelvin sign goes
to a single ASCII character, and that is a k; the others leave a character beyond ASCII behind. -/
theorem lowercase_eq_iff (hname : ∀ d ∈ name.toList, d.toLower = d ∧ d.isAscii ∧ d ≠ 'k') :
    lowercase text = name ↔ SameSpelling text name := by
  have hsmall : ∀ d ∈ name.toList, d.toLower = d := fun d hd => (hname d hd).1
  have hascii : ∀ d ∈ name.toList, d.isAscii := fun d hd => (hname d hd).2.1
  have hk : 'k' ∉ name.toList := fun hmem => (hname 'k' hmem).2.2 rfl
  have hlower : lowercase text = name ↔ lowercaseFrom [] text.toList = name.toList := by
    rw [lowercase, ← String.toList_inj, String.toList_ofList]
  rw [hlower]
  constructor
  · intro h
    rw [← h] at hascii hk
    have htext := isAscii_of_lowercaseFrom hascii hk
    rwa [sameSpelling_iff_map_toLower hsmall, ← lowercaseFrom_of_isAscii htext []]
  · intro h
    rw [lowercaseFrom_of_isAscii (isAscii_of_sameLetters h hascii)]
    exact (sameSpelling_iff_map_toLower hsmall).1 h

-- With a k the Kelvin sign stands in for the letter, and the text is not one of ASCII.
example : lowercase "\u212Aelvin" = "kelvin" ∧ lowercase "ΟΔΟΣ" = "οδος" := by decide +kernel

end ArtifactResolution.Text
