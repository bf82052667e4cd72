import ArtifactResolution.Proofs.ArtifactSet
import ArtifactResolution.Proofs.FirstOccurrences
import ArtifactResolution.Proofs.ResolvedSet.Construction
import ArtifactResolution.Proofs.SortedEntries
import ArtifactResolution.Proofs.UnixPath.FileName

namespace ArtifactResolution
set_option autoImplicit false

theorem flatMap_filter_perm {α β : Type} [DecidableEq β] (key : α → β) {keys : List β}
    (hkeys : keys.Nodup) {l : List α} (h : ∀ a ∈ l, key a ∈ keys) :
    (keys.flatMap fun k => l.filter fun a => key a = k).Perm l := by
  induction keys generalizing l with
  | nil =>
    have hempty : l = [] := List.eq_nil_iff_forall_not_mem.2 fun a ha => by simpa using h a ha
    simp [hempty]
  | cons k keys ih =>
    obtain ⟨hk, hkeys⟩ := List.nodup_cons.1 hkeys
    let rest := l.filter fun a => !decide (key a = k)
    have hrest : (keys.flatMap fun k' => rest.filter fun a => key a = k').Perm rest := by
      apply ih hkeys
      intro a ha
      obtain ⟨ha, hne⟩ := List.mem_filter.1 ha
      have hmem := h a ha
      simp_all
    have hsame : (keys.flatMap fun k' => l.filter fun a => key a = k') =
        keys.flatMap fun k' => rest.filter fun a => key a = k' := by
      apply List.flatMap_congr
      intro k' hk'
      rw [List.filter_filter]
      apply List.filter_congr
      intro a _
      have hne : k' ≠ k := fun heq => hk (heq ▸ hk')
      grind
    rw [List.flatMap_cons, hsame]
    exact (hrest.append_left _).trans (List.filter_append_perm _ l)

namespace Variant

theorem attributes_ofFile (file : UnixPath) :
    (ofFile file).attributes = Attributes.insert ∅ artifactType file.fileType := rfl

@[simp] theorem get?_ofFile (file : UnixPath) :
    (ofFile file).attributes.get? artifactType = some file.fileType := by
  rw [attributes_ofFile, Attributes.get?_insert, if_pos rfl]

@[simp] theorem meets_ofType (v : Variant) (type : String) :
    v.meets (AttributeMatcher.ofType type).required =
      decide (v.attributes.get? artifactType = some type) :=
  Bool.and_true _

end Variant

def ResolvedArtifact.ofFile (owner : Option ComponentIdentifier) (file : UnixPath) :
    ResolvedArtifact :=
  let name := (Artifact.ofFile file).name
  ⟨name, file, owner, name⟩

@[simp] theorem ResolvedArtifact.file_ofFile (owner : Option ComponentIdentifier)
    (file : UnixPath) : (ofFile owner file).file = file := rfl

variable {owner : Option ComponentIdentifier}

theorem AttributeMatcher.resolve_singleton (m : AttributeMatcher) (v : Variant) :
    m.toSelector.resolve owner [v] = if v.meets m.required then .ofVariant owner v else ∅ := by
  rw [VariantSelector.resolve, toSelector, List.find?_singleton]
  cases v.meets m.required <;> rfl

theorem AttributeMatcher.resolve_ofType (type : String) (file : UnixPath) :
    (ofType type).toSelector.resolve owner [Variant.ofFile file] =
      if file.fileType = type then .artifacts [ResolvedArtifact.ofFile owner file] else ∅ := by
  rw [resolve_singleton, Variant.meets_ofType, Variant.get?_ofFile]
  simp only [Option.some_inj, decide_eq_true_eq]
  rfl

namespace ArtifactSet
variable (filter : ComponentFilter) (paths : List UnixPath)

theorem selectFiles_ofType (type : String) :
    selectFiles owner paths filter (AttributeMatcher.ofType type).toSelector =
      selectFiles owner (paths.filter (·.fileType = type)) filter .first := by
  rw [selectFiles, selectFiles]
  refine if_congr Iff.rfl (ResolvedSet.compose_congr ?_) rfl
  induction paths with
  | nil => rw [List.filter_nil, List.map_nil, List.map_nil]
  | cons file paths ih =>
    rw [List.map_cons, List.flatMap_cons, AttributeMatcher.resolve_ofType, ih]
    by_cases htype : file.fileType = type
    · rw [if_pos htype, List.filter_cons_of_pos (by simpa using htype)]
      rfl
    · rw [if_neg htype, List.filter_cons_of_neg (by simpa using htype)]
      rfl

theorem toList_selectFiles_first :
    (selectFiles owner paths filter .first).toList =
      if filter.accepts owner then paths.map (ResolvedArtifact.ofFile owner) else [] := by
  rw [toList_selectFiles, List.map_eq_flatMap]
  rfl

end ArtifactSet

theorem ResolvedArtifact.name_ofFile_of_fileName? {file : UnixPath} {name : List Char}
    (h : file.fileName? = some name) : (ofFile owner file).name = String.ofList name := by
  rw [ofFile, Artifact.ofFile, h]
  rfl

theorem ResolvedArtifact.name_ofFile_of_no_fileName {file : UnixPath}
    (h : file.fileName? = none) : (ofFile owner file).name = file.text := by
  rw [ofFile, Artifact.ofFile, h]
  rfl

namespace FileDependency
variable (d : FileDependency) (id : ArtifactSetId) (s : VariantStore) (filter : ComponentFilter)

theorem toList_select_first : ((d.artifacts id).select s filter .first).toList =
    if filter.accepts d.owner then d.files.map (.ofFile d.owner) else [] := by
  rw [ArtifactSet.select_artifacts, ArtifactSet.toList_selectFiles_first]

theorem exists_of_mem_select_first {a : ResolvedArtifact}
    (h : a ∈ ((d.artifacts id).select s filter .first).toList) :
    ∃ file ∈ d.files, .ofFile d.owner file = a := by
  rw [toList_select_first] at h
  split at h
  · exact List.mem_map.1 h
  · cases h

theorem select_ofType (type : String) :
    (d.artifacts id).select s filter (AttributeMatcher.ofType type).toSelector =
      (({ d with files := d.files.filter (·.fileType = type) } : FileDependency).artifacts
        id).select s filter .first := by
  have hall := ArtifactSet.select_artifacts s filter (AttributeMatcher.ofType type).toSelector d id
  have hfirst := ArtifactSet.select_artifacts s filter .first
    { d with files := d.files.filter (·.fileType = type) } id
  exact (hall.trans (ArtifactSet.selectFiles_ofType filter d.files type)).trans hfirst.symm

theorem toList_select_ofType (type : String) :
    ((d.artifacts id).select s filter (AttributeMatcher.ofType type).toSelector).toList =
      ((d.artifacts id).select s filter .first).toList.filter fun a => a.file.fileType = type := by
  simp only [select_ofType, toList_select_first]
  split
  · rw [List.filter_map]
    refine congrArg _ (List.filter_congr fun file _ => ?_)
    rw [Function.comp_apply, ResolvedArtifact.file_ofFile]
  · rfl

theorem files_select_first : ((d.artifacts id).select s filter .first).files =
    if filter.accepts d.owner then d.files else [] := by
  rw [ResolvedSet.files, toList_select_first]
  split
  · rw [List.map_map]
    exact List.map_id _
  · rfl

end FileDependency

/-- To select declared files by a type is to take what the files of that type give on their own, in
the order of their declaration. The type is what stands behind the last dot of a file's name, with
something before that dot, and is empty for all other files; each artifact is named after its file,
or after the whole path where that names no file. Every file is taken under exactly one type. -/
theorem select_by_type (d : FileDependency) (id : ArtifactSetId) (s : VariantStore)
    (filter : ComponentFilter) :
    let all := (d.artifacts id).select s filter .first
    let typed (type : String) :=
      (d.artifacts id).select s filter (AttributeMatcher.ofType type).toSelector
    let ofType (type : String) : FileDependency :=
      { d with files := d.files.filter (·.fileType = type) }
    (∀ type, typed type = ((ofType type).artifacts id).select s filter .first) ∧
    (∀ type, (typed type).files = if filter.accepts d.owner then (ofType type).files else []) ∧
    (∀ type, ∀ a ∈ (typed type).toList,
      (∀ name, a.file.fileName? = some name → a.name = String.ofList name) ∧
      (a.file.fileName? = none → a.name = a.file.text)) ∧
    (∀ (p : UnixPath) (type : String), type ≠ "" → (p.fileType = type ↔
      ∃ stem, p.fileName? = some (stem ++ '.' :: type.toList) ∧ stem ≠ [] ∧ '.' ∉ type.toList)) ∧
    (∀ p : UnixPath, p.fileType = "" ↔ p.fileName? = none ∨ ∃ name, p.fileName? = some name ∧
      ('.' ∉ name ∨ (∃ rest, name = '.' :: rest ∧ '.' ∉ rest) ∨ ∃ stem, name = stem ++ ['.'])) ∧
    (∀ type, (typed type).toList = all.toList.filter fun a => a.file.fileType = type) ∧
    ((d.files.map UnixPath.fileType).eraseDups.flatMap fun type => (typed type).toList).Perm
      all.toList := by
  intro all typed ofType
  have htyped (type : String) : typed type = ((ofType type).artifacts id).select s filter .first :=
    d.select_ofType id s filter type
  have hfilter (type : String) :
      (typed type).toList = all.toList.filter fun a => a.file.fileType = type :=
    d.toList_select_ofType id s filter type
  refine ⟨htyped, ?_, ?_, fun p type => UnixPath.fileType_eq_iff,
    fun p => UnixPath.fileType_eq_empty_iff, hfilter, ?_⟩
  · intro type
    rw [htyped]
    exact (ofType type).files_select_first id s filter
  · intro type a ha
    rw [htyped] at ha
    obtain ⟨file, _, rfl⟩ := (ofType type).exists_of_mem_select_first id s filter ha
    exact ⟨fun name => ResolvedArtifact.name_ofFile_of_fileName?,
      ResolvedArtifact.name_ofFile_of_no_fileName⟩
  · simp only [hfilter]
    apply flatMap_filter_perm _ (nodup_eraseDups _)
    intro a ha
    obtain ⟨file, hfile, rfl⟩ := d.exists_of_mem_select_first id s filter ha
    exact List.mem_eraseDups.2 (List.mem_map_of_mem hfile)

/-- An archive that is declared twice, a file without a type and a path that names no file. -/
def archives : FileDependency :=
  ⟨⟨1⟩, "libs", none, [⟨"libs/b.tar.gz/"⟩, ⟨"libs/.keep"⟩, ⟨"/"⟩, ⟨"libs/b.tar.gz/"⟩]⟩

theorem select_by_type_archives :
    let select (type : String) :=
      (archives.artifacts ⟨1⟩).select ∅ .acceptAll (AttributeMatcher.ofType type).toSelector
    let typed := select "gz"
    let untyped := select ""
    typed.files = [⟨"libs/b.tar.gz/"⟩, ⟨"libs/b.tar.gz/"⟩] ∧
    ("gz" ≠ "" ∧ ∃ stem, (⟨"libs/b.tar.gz/"⟩ : UnixPath).fileName? =
      some (stem ++ '.' :: "gz".toList) ∧ stem ≠ [] ∧ '.' ∉ "gz".toList) ∧
    (.ofFile none ⟨"libs/b.tar.gz/"⟩ ∈ typed.toList ∧
      (ResolvedArtifact.ofFile none ⟨"libs/b.tar.gz/"⟩).name = String.ofList "b.tar.gz".toList) ∧
    (.ofFile none ⟨"/"⟩ ∈ untyped.toList ∧ (ResolvedArtifact.ofFile none ⟨"/"⟩).name = "/") := by
  intro select typed untyped
  obtain ⟨_, hfiles, hnames, htype, _⟩ := select_by_type archives ⟨1⟩ ∅ .acceptAll
  have harchive : .ofFile none ⟨"libs/b.tar.gz/"⟩ ∈ typed.toList := by decide
  have hroot : .ofFile none ⟨"/"⟩ ∈ untyped.toList := by decide
  refine ⟨?_, ⟨by decide, (htype _ "gz" (by decide)).1 (by decide)⟩, ⟨harchive, ?_⟩, hroot, ?_⟩
  · exact (hfiles "gz").trans (by decide)
  · exact (hnames "gz" _ harchive).1 "b.tar.gz".toList (by decide)
  · exact (hnames "" _ hroot).2 (by decide)

end ArtifactResolution
