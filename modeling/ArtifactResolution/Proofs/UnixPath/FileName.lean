import ArtifactResolution.UnixPath
import Mathlib.Data.List.TakeWhile

namespace ArtifactResolution
set_option autoImplicit false

namespace UnixPath
variable {p q : UnixPath} {name stem ext : List Char}

def Part.name? : Part → Option (List Char)
  | .name text => some text
  | .root => none
  | .here => none
  | .parent => none

theorem findSome?_partOf? (pieces : List (List Char)) :
    pieces.findSome? partOf? =
      (pieces.find? fun piece => (partOf? piece).isSome).bind partOf? := by
  induction pieces with
  | nil => rfl
  | cons piece pieces ih => cases hpart : partOf? piece <;> simp [hpart, ih]

theorem name?_of_partOf? {piece : List Char} {part : Part} (h : partOf? piece = some part) :
    part.name? = if piece = ['.', '.'] then none else some piece := by
  unfold partOf? at h
  split at h
  · cases h
  · split at h
    · next hparent =>
      cases h
      rw [if_pos hparent]
      rfl
    · next hname =>
      cases h
      rw [if_neg hname]
      rfl

theorem name?_firstParts (pieces : List (List Char)) :
    (firstParts pieces).getLast?.bind Part.name? = none := by
  unfold firstParts
  split <;> rfl

theorem fileName?_eq_name? (p : UnixPath) : p.fileName? = p.parts.getLast?.bind Part.name? := by
  have hfirst := name?_firstParts (pieces p.text.toList)
  rw [fileName?, parts, List.getLast?_append, List.getLast?_filterMap, findSome?_partOf?]
  cases hfind : (pieces p.text.toList).reverse.find? fun piece => (partOf? piece).isSome with
  | none => simpa using hfirst.symm
  | some piece =>
    have hsome : (partOf? piece).isSome := (List.find?_eq_some_iff_append.1 hfind).1
    obtain ⟨part, hpart⟩ := Option.isSome_iff_exists.1 hsome
    rw [Option.bind_some, hpart, Option.some_or, Option.bind_some, name?_of_partOf? hpart]
    split <;> simp_all

theorem fileName?_congr (h : p ≈ q) : p.fileName? = q.fileName? := by
  have hparts : p.parts = q.parts := h
  rw [fileName?_eq_name?, fileName?_eq_name?, hparts]

theorem extensionOf?_of_notMem (h : '.' ∉ name) : extensionOf? name = none := by
  have hnone : name.reverse.dropWhile (· ≠ '.') = [] := by
    rw [List.dropWhile_eq_nil_iff]
    intro c hc
    have hne : c ≠ '.' := fun hdot => h (hdot ▸ List.mem_reverse.1 hc)
    simpa using hne
  rw [extensionOf?, hnone]

theorem extensionOf?_append (h : '.' ∉ ext) :
    extensionOf? (stem ++ '.' :: ext) = if stem = [] then none else some ext := by
  have hall : ∀ c ∈ ext.reverse, decide (c ≠ '.') = true := by
    intro c hc
    have hne : c ≠ '.' := fun hdot => h (hdot ▸ List.mem_reverse.1 hc)
    simpa using hne
  have hreverse : (stem ++ '.' :: ext).reverse = ext.reverse ++ '.' :: stem.reverse := by simp
  rw [extensionOf?, hreverse, List.dropWhile_append_of_pos hall, List.takeWhile_append_of_pos hall]
  cases hstem : stem.reverse with
  | nil => simp_all
  | cons c cs =>
    have hne : stem ≠ [] := by
      rintro rfl
      cases hstem
    simp [hne]

theorem exists_last_dot (name : List Char) :
    '.' ∉ name ∨ ∃ stem ext, name = stem ++ '.' :: ext ∧ '.' ∉ ext := by
  by_cases h : '.' ∈ name
  · obtain ⟨after, before, hsplit, hdot⟩ := List.eq_append_cons_of_mem (List.mem_reverse.2 h)
    refine .inr ⟨before.reverse, after.reverse, ?_, by simpa using hdot⟩
    rw [← name.reverse_reverse, hsplit]
    simp
  · exact .inl h

/-- The type of a file: the extension of its name, empty where there is none. -/
def fileType (p : UnixPath) : String := String.ofList (p.extension?.getD [])

theorem fileType_of_fileName? (h : p.fileName? = some name) :
    p.fileType = String.ofList ((extensionOf? name).getD []) := by
  rw [fileType, extension?, h]
  rfl

theorem fileType_of_no_fileName (h : p.fileName? = none) : p.fileType = "" := by
  rw [fileType, extension?, h]
  rfl

theorem fileType_congr (h : p ≈ q) : p.fileType = q.fileType := by
  rw [fileType, fileType, extension?, extension?, fileName?_congr h]

theorem fileType_eq_iff {type : String} (htype : type ≠ "") :
    p.fileType = type ↔ ∃ stem, p.fileName? = some (stem ++ '.' :: type.toList) ∧ stem ≠ [] ∧
      '.' ∉ type.toList := by
  constructor
  · rintro rfl
    cases hname : p.fileName? with
    | none => exact absurd (fileType_of_no_fileName hname) htype
    | some name =>
      have hvalue := fileType_of_fileName? hname
      rcases exists_last_dot name with hdot | ⟨stem, ext, rfl, hdot⟩
      · rw [extensionOf?_of_notMem hdot] at hvalue
        exact absurd hvalue htype
      · rw [extensionOf?_append hdot] at hvalue
        split at hvalue
        · exact absurd hvalue htype
        · next hstem =>
          have hext : p.fileType.toList = ext := by simp [hvalue]
          exact ⟨stem, by rw [hext], hstem, by rwa [hext]⟩
  · rintro ⟨stem, hname, hstem, hdot⟩
    rw [fileType_of_fileName? hname, extensionOf?_append hdot, if_neg hstem]
    simp

theorem starts_with_dot_iff (stem : List Char) (h : '.' ∉ ext) :
    (∃ rest, stem ++ '.' :: ext = '.' :: rest ∧ '.' ∉ rest) ↔ stem = [] := by
  constructor
  · rintro ⟨rest, hrest, hdot⟩
    cases stem with
    | nil => rfl
    | cons c stem =>
      obtain ⟨_, rfl⟩ := List.cons.inj hrest
      simp at hdot
  · rintro rfl
    exact ⟨ext, rfl, h⟩

theorem ends_with_dot_iff (stem : List Char) (h : '.' ∉ ext) :
    (∃ before, stem ++ '.' :: ext = before ++ ['.']) ↔ ext = [] := by
  constructor
  · rintro ⟨before, hbefore⟩
    by_contra hext
    have hlast : ext.getLast? = some '.' := by
      have hends := congrArg List.getLast? hbefore
      rw [List.getLast?_append, List.getLast?_cons_of_ne_nil hext] at hends
      simpa [List.getLast?_eq_some_getLast hext] using hends
    exact h (List.mem_of_getLast? hlast)
  · rintro rfl
    exact ⟨stem, rfl⟩

theorem fileType_eq_empty_iff :
    p.fileType = "" ↔ p.fileName? = none ∨ ∃ name, p.fileName? = some name ∧
      ('.' ∉ name ∨ (∃ rest, name = '.' :: rest ∧ '.' ∉ rest) ∨ ∃ stem, name = stem ++ ['.']) := by
  cases hname : p.fileName? with
  | none => simp [fileType_of_no_fileName hname]
  | some name =>
    rw [fileType_of_fileName? hname]
    rcases exists_last_dot name with hdot | ⟨stem, ext, rfl, hdot⟩
    · simp [extensionOf?_of_notMem hdot, hdot]
    · have hempty : String.ofList ((extensionOf? (stem ++ '.' :: ext)).getD []) = "" ↔
          stem = [] ∨ ext = [] := by
        rw [extensionOf?_append hdot]
        by_cases hstem : stem = [] <;> simp [hstem]
      rw [hempty, ← starts_with_dot_iff stem hdot, ← ends_with_dot_iff stem hdot]
      simp

example : (⟨"libs/a.tar.gz/"⟩ : UnixPath).fileType = "gz" ∧
    (⟨"libs/..a"⟩ : UnixPath).fileType = "a" ∧ (⟨".profile"⟩ : UnixPath).fileType = "" ∧
    (⟨"libs/b."⟩ : UnixPath).fileType = "" ∧ (⟨"a.jar/.."⟩ : UnixPath).fileType = "" := by
  decide

end UnixPath

end ArtifactResolution
