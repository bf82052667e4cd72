import ArtifactResolution.UnixPath
import Mathlib.Logic.Relation
import Mathlib.Data.List.Basic

namespace ArtifactResolution
set_option autoImplicit false

open Relation

namespace UnixPath

/-- Ways to write the same path shorter. A separator that stands alone is the root and stays. -/
inductive Shortens : List Char → List Char → Prop
  | separator (x y : List Char) : Shortens (x ++ '/' :: '/' :: y) (x ++ '/' :: y)
  | dot (x y : List Char) : Shortens (x ++ '/' :: '.' :: '/' :: y) (x ++ '/' :: y)
  | lastDot (x : List Char) : Shortens (x ++ ['/', '.']) (x ++ ['/'])
  | lastSeparator {x : List Char} (h : x ≠ []) : Shortens (x ++ ['/']) x

/-- Two texts that lead to each other by shortening and its reverse. -/
abbrev SamePath : List Char → List Char → Prop := EqvGen Shortens

def partsOf (text : List Char) : List Part :=
  firstParts (pieces text) ++ (pieces text).filterMap partOf?

theorem parts_eq_partsOf (p : UnixPath) : p.parts = partsOf p.text.toList := rfl

theorem pieces_ne_nil (text : List Char) : pieces text ≠ [] := by
  cases text with
  | nil => simp [pieces]
  | cons c cs =>
    rw [pieces]
    split <;> simp

theorem pieces_append (x y : List Char) : pieces (x ++ '/' :: y) = pieces x ++ pieces y := by
  induction x with
  | nil => rfl
  | cons c x ih =>
    obtain ⟨piece, rest, hx⟩ := List.exists_cons_of_ne_nil (pieces_ne_nil x)
    rw [List.cons_append, pieces, pieces, ih, hx]
    split <;> simp

theorem exists_pieces (text : List Char) :
    ∃ piece rest, pieces text = piece :: rest ∧ text = piece ++ rest.flatMap ('/' :: ·) := by
  induction text with
  | nil => exact ⟨[], [], rfl, rfl⟩
  | cons c text ih =>
    obtain ⟨piece, rest, hpieces, htext⟩ := ih
    by_cases hc : c = '/'
    · exact ⟨[], piece :: rest, by simp [pieces, hc, hpieces], by simp [hc, ← htext]⟩
    · exact ⟨c :: piece, rest, by simp [pieces, hc, hpieces], by simp [← htext]⟩

theorem firstParts_cons (piece : List Char) (rest : List (List Char)) :
    firstParts (piece :: rest) =
      if piece = [] then if rest = [] then [] else [.root]
      else if piece = ['.'] then [.here] else [] := by
  unfold firstParts
  cases rest with
  | nil => split <;> simp_all
  | cons next rest => split <;> simp_all

theorem firstParts_append {first more more' : List (List Char)} (h : first ≠ [])
    (hmore : more ≠ []) (hmore' : more' ≠ []) :
    firstParts (first ++ more) = firstParts (first ++ more') := by
  obtain ⟨piece, rest, rfl⟩ := List.exists_cons_of_ne_nil h
  simp [firstParts_cons, hmore, hmore']

theorem partsOf_append (x y : List Char) :
    partsOf (x ++ '/' :: y) =
      firstParts (pieces x ++ [[]]) ++ (pieces x).filterMap partOf? ++
        (pieces y).filterMap partOf? := by
  rw [partsOf, pieces_append, List.filterMap_append, List.append_assoc,
    firstParts_append (pieces_ne_nil x) (pieces_ne_nil y) (List.cons_ne_nil [] [])]

theorem partsOf_concat {x : List Char} (h : x ≠ []) : partsOf (x ++ ['/']) = partsOf x := by
  obtain ⟨piece, rest, hpieces, htext⟩ := exists_pieces x
  have hfirst : firstParts (pieces x ++ [[]]) = firstParts (pieces x) := by
    rw [hpieces, List.cons_append, firstParts_cons, firstParts_cons]
    cases rest with
    | nil =>
      have hpiece : piece ≠ [] := by simpa [htext] using h
      simp [hpiece]
    | cons next rest => simp
  rw [partsOf_append, hfirst, partsOf]
  simp [pieces, partOf?]

theorem Shortens.partsOf_eq {t t' : List Char} (h : Shortens t t') : partsOf t = partsOf t' := by
  cases h with
  | separator x y =>
    rw [partsOf_append, partsOf_append]
    simp [pieces, partOf?]
  | dot x y =>
    rw [partsOf_append, partsOf_append]
    simp [pieces, partOf?]
  | lastDot x =>
    rw [partsOf_append, partsOf_append]
    simp [pieces, partOf?]
  | lastSeparator h => exact partsOf_concat h

theorem SamePath.partsOf_eq {t t' : List Char} (h : SamePath t t') :
    partsOf t = partsOf t' := by
  induction h with
  | rel t t' h => exact h.partsOf_eq
  | refl t => rfl
  | symm t t' _ ih => exact ih.symm
  | trans t t' t'' _ _ ih ih' => exact ih.trans ih'

def Part.spelling : Part → List Char
  | root => ['/']
  | here => ['.']
  | parent => ['.', '.']
  | name text => text

/-- The shortest text with given parts, but for a second separator behind the root. -/
def spelled : List Part → List Char
  | [] => []
  | first :: rest => first.spelling ++ rest.flatMap fun part => '/' :: part.spelling

theorem partOf?_eq_none_iff {piece : List Char} :
    partOf? piece = none ↔ piece = [] ∨ piece = ['.'] := by
  unfold partOf?
  split
  · simp [*]
  · split <;> simp [*]

theorem spelling_of_partOf? {piece : List Char} {part : Part} (h : partOf? piece = some part) :
    part.spelling = piece := by
  unfold partOf? at h
  split at h
  · cases h
  · split at h
    · next hparent =>
      cases h
      exact hparent.symm
    · cases h
      rfl

variable {x : List Char}

theorem SamePath.of_shortens {t t' : List Char} (h : Shortens t t') : SamePath t t' :=
  .rel t t' h

theorem samePath_separator (hx : x ≠ []) (parts : List Part) :
    SamePath (x ++ '/' :: parts.flatMap fun part => '/' :: part.spelling)
      (x ++ parts.flatMap fun part => '/' :: part.spelling) := by
  cases parts with
  | nil => simpa using SamePath.of_shortens (.lastSeparator hx)
  | cons part parts => exact .of_shortens (.separator x _)

theorem samePath_dot (hx : x ≠ []) (rest : List (List Char)) :
    SamePath (x ++ '/' :: '.' :: rest.flatMap ('/' :: ·)) (x ++ rest.flatMap ('/' :: ·)) := by
  cases rest with
  | nil =>
    have hlast : SamePath (x ++ ['/']) x := .of_shortens (.lastSeparator hx)
    simpa using (SamePath.of_shortens (.lastDot x)).trans _ _ _ hlast
  | cons piece rest => exact .of_shortens (.dot x _)

/-- Behind a beginning, a text may be written with its parts alone. -/
theorem samePath_rest (hx : x ≠ []) (rest : List (List Char)) :
    SamePath (x ++ rest.flatMap ('/' :: ·))
      (x ++ (rest.filterMap partOf?).flatMap fun part => '/' :: part.spelling) := by
  induction rest generalizing x with
  | nil => exact .refl _
  | cons piece rest ih =>
    cases hpiece : partOf? piece with
    | some part =>
      have hnext := ih (x := x ++ '/' :: piece) (by simp)
      simpa [hpiece, spelling_of_partOf? hpiece] using hnext
    | none =>
      rw [List.filterMap_cons_none hpiece]
      rcases partOf?_eq_none_iff.1 hpiece with rfl | rfl
      · have hnext := ih (x := x ++ ['/']) (by simp)
        simp only [List.append_assoc, List.singleton_append] at hnext
        exact hnext.trans _ _ _ (samePath_separator hx _)
      · exact (samePath_dot hx rest).trans _ _ _ (ih hx)

theorem exists_first_part {text piece : List Char} {rest : List (List Char)}
    (hpieces : pieces text = piece :: rest) (hpiece : piece ≠ []) :
    ∃ part : Part, part.spelling = piece ∧ partsOf text = part :: rest.filterMap partOf? := by
  cases hpart : partOf? piece with
  | none =>
    cases (partOf?_eq_none_iff.1 hpart).resolve_left hpiece
    exact ⟨.here, rfl, by simp [partsOf, hpieces, firstParts_cons, partOf?]⟩
  | some part =>
    have hdot : piece ≠ ['.'] := by
      rintro rfl
      cases hpart
    refine ⟨part, spelling_of_partOf? hpart, ?_⟩
    simp [partsOf, hpieces, firstParts_cons, hpiece, hdot, hpart]

theorem samePath_spelled (text : List Char) : SamePath text (spelled (partsOf text)) := by
  obtain ⟨piece, rest, hpieces, htext⟩ := exists_pieces text
  by_cases hpiece : piece = []
  · subst hpiece
    cases rest with
    | nil =>
      subst htext
      exact .refl _
    | cons next rest =>
      have hparts : partsOf text = .root :: (next :: rest).filterMap partOf? := by
        simp [partsOf, hpieces, firstParts_cons, partOf?]
      -- The separator in front is doubled, so that one of the two stands for the root.
      have hdouble : SamePath ('/' :: text) text := by
        rw [htext]
        exact .of_shortens (.separator [] _)
      have hrest := samePath_rest (List.cons_ne_nil '/' []) (next :: rest)
      rw [hparts]
      rw [htext] at hdouble ⊢
      exact hdouble.symm.trans _ _ _ hrest
  · obtain ⟨part, hpart, hparts⟩ := exists_first_part hpieces hpiece
    rw [hparts, spelled, hpart]
    exact htext ▸ samePath_rest hpiece rest

/-- Paths have the same parts exactly when their texts come from each other by leaving out and
adding repeated and trailing separators, and dots that do not begin the text. -/
theorem equiv_iff_samePath {p q : UnixPath} :
    p ≈ q ↔ SamePath p.text.toList q.text.toList := by
  have hparts : p ≈ q ↔ partsOf p.text.toList = partsOf q.text.toList := by
    rw [← parts_eq_partsOf, ← parts_eq_partsOf]
    rfl
  rw [hparts]
  constructor
  · intro h
    have hq := samePath_spelled q.text.toList
    rw [← h] at hq
    exact (samePath_spelled p.text.toList).trans _ _ _ hq.symm
  · exact SamePath.partsOf_eq

example : (⟨"libs//a.jar/"⟩ : UnixPath) ≈ ⟨"libs/./a.jar"⟩ ∧
    ¬(⟨"./a.jar"⟩ : UnixPath) ≈ ⟨"a.jar"⟩ ∧ ¬(⟨"libs/../a.jar"⟩ : UnixPath) ≈ ⟨"a.jar"⟩ := by
  decide

end UnixPath

end ArtifactResolution
