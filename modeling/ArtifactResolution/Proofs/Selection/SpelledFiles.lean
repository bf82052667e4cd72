import ArtifactResolution.Proofs.ResolvedSet.Equality
import ArtifactResolution.Proofs.Selection.FilesByType

namespace ArtifactResolution
set_option autoImplicit false

/-- Two spellings of the path of one file. -/
structure SameFile (p q : UnixPath) : Prop where
  equiv : p ≈ q
  named : p.fileName?.isSome

namespace SameFile
variable {p q : UnixPath}

theorem name_eq (h : SameFile p q) : (Artifact.ofFile p).name = (Artifact.ofFile q).name := by
  obtain ⟨name, hname⟩ := Option.isSome_iff_exists.1 h.named
  have hname' : q.fileName? = some name := by rw [← UnixPath.fileName?_congr h.equiv, hname]
  rw [Artifact.ofFile, Artifact.ofFile, hname, hname']
  rfl

theorem attributes_eq (h : SameFile p q) :
    (Variant.ofFile p).attributes = (Variant.ofFile q).attributes := by
  rw [Variant.attributes_ofFile, Variant.attributes_ofFile, UnixPath.fileType_congr h.equiv]

theorem variant_equiv (h : SameFile p q) : Variant.ofFile p ≈ Variant.ofFile q := by
  have hartifact : (Artifact.ofFile p).content = (Artifact.ofFile q).content :=
    Prod.ext h.name_eq h.equiv
  have hartifacts := congrArg (fun content => [content]) hartifact
  exact Prod.ext h.name_eq (Prod.ext h.attributes_eq hartifacts)

end SameFile

section
variable {v w : Variant} (h : v ≈ w) (owner : Option ComponentIdentifier)
include h

theorem ResolvedSet.ofVariant_equiv : ofVariant owner v ≈ ofVariant owner w := by
  let label (name : String) (content : String × List UnixPath.Part) :=
    (content.1, content.2, owner, name)
  have hcontent (v : Variant) : (ofVariant owner v).toList.map ResolvedArtifact.content =
      (v.artifacts.map Artifact.content).map (label v.name) := by
    rw [ofVariant, toList_ofList, List.map_map, List.map_map]
    rfl
  obtain ⟨hname, hrest⟩ := Prod.mk.inj h
  obtain ⟨_, hartifacts⟩ := Prod.mk.inj hrest
  change (ofVariant owner v).toList.map _ = (ofVariant owner w).toList.map _
  rw [hcontent, hcontent, hname, hartifacts]

theorem AttributeMatcher.resolve_equiv (m : AttributeMatcher) :
    m.toSelector.resolve owner [v] ≈ m.toSelector.resolve owner [w] := by
  have hattributes : v.attributes = w.attributes := (Prod.mk.inj (Prod.mk.inj h).2).1
  have hmeets : v.meets m.required = w.meets m.required := by
    rw [Variant.meets, Variant.meets, hattributes]
  rw [resolve_singleton, resolve_singleton, hmeets]
  split
  · exact ResolvedSet.ofVariant_equiv h owner
  · exact Setoid.refl _

end

theorem ArtifactSet.selectFiles_equiv {selector : VariantSelector}
    {owner : Option ComponentIdentifier}
    (hselector : ∀ v w : Variant, v ≈ w →
      selector.resolve owner [v] ≈ selector.resolve owner [w])
    {paths paths' : List UnixPath} (h : List.Forall₂ SameFile paths paths')
    (filter : ComponentFilter) :
    selectFiles owner paths filter selector ≈ selectFiles owner paths' filter selector := by
  rw [selectFiles, selectFiles]
  split
  · apply ResolvedSet.compose_equiv_compose
    rw [List.forall₂_map_left_iff, List.forall₂_map_right_iff]
    exact h.imp fun p q hfile => hselector _ _ hfile.variant_equiv
  · exact Setoid.refl _

/-- The variants of one file agree in the text of their names and attributes and are equal, however
its path is spelled. So declarations of the same files by the same owner select to equal sets, by
the first variant and by any attributes, whatever separators and dots stand in the paths. -/
theorem spelling_not_selected :
    (∀ p q : UnixPath, SameFile p q →
      (Variant.ofFile p).name = (Variant.ofFile q).name ∧
      (Variant.ofFile p).attributes = (Variant.ofFile q).attributes ∧
      Variant.ofFile p ≈ Variant.ofFile q) ∧
    (∀ d d' : FileDependency, d.owner = d'.owner → List.Forall₂ SameFile d.files d'.files →
      ∀ (id id' : ArtifactSetId) (s s' : VariantStore) (filter : ComponentFilter),
        (d.artifacts id).select s filter .first ≈ (d'.artifacts id').select s' filter .first ∧
        ∀ m : AttributeMatcher, (d.artifacts id).select s filter m.toSelector ≈
          (d'.artifacts id').select s' filter m.toSelector) := by
  constructor
  · intro p q hfile
    exact ⟨hfile.name_eq, hfile.attributes_eq, hfile.variant_equiv⟩
  · intro d d' howner hfiles id id' s s' filter
    simp only [ArtifactSet.select_artifacts, howner]
    constructor
    · apply ArtifactSet.selectFiles_equiv _ hfiles
      intro v w hvw
      exact ResolvedSet.ofVariant_equiv hvw d'.owner
    · intro m
      apply ArtifactSet.selectFiles_equiv _ hfiles
      intro v w hvw
      exact m.resolve_equiv hvw d'.owner

/-- Two files in their shortest spelling. -/
def plainFiles : FileDependency := ⟨⟨1⟩, "libs", none, [⟨"libs/a.jar"⟩, ⟨"/opt/tool"⟩]⟩

/-- The same files with repeated and trailing separators, and with dots. -/
def dottedFiles : FileDependency := ⟨⟨2⟩, "libs", none, [⟨"libs/.//a.jar/."⟩, ⟨"//opt/./tool/"⟩]⟩

theorem spelling_not_selected_dotted :
    (plainFiles.owner = dottedFiles.owner ∧
      List.Forall₂ SameFile plainFiles.files dottedFiles.files) ∧
    (plainFiles.artifacts ⟨1⟩).select ∅ .acceptAll (AttributeMatcher.ofType "jar").toSelector ≈
      (dottedFiles.artifacts ⟨2⟩).select ∅ .acceptAll (AttributeMatcher.ofType "jar").toSelector ∧
    (Variant.ofFile ⟨"libs/a.jar"⟩).name = (Variant.ofFile ⟨"libs/.//a.jar/."⟩).name := by
  have hjar : SameFile ⟨"libs/a.jar"⟩ ⟨"libs/.//a.jar/."⟩ := ⟨by decide, by decide⟩
  have htool : SameFile ⟨"/opt/tool"⟩ ⟨"//opt/./tool/"⟩ := ⟨by decide, by decide⟩
  have hfiles : List.Forall₂ SameFile plainFiles.files dottedFiles.files :=
    .cons hjar (.cons htool .nil)
  obtain ⟨hvariants, hselections⟩ := spelling_not_selected
  have hselected := hselections plainFiles dottedFiles rfl hfiles ⟨1⟩ ⟨2⟩ ∅ ∅ .acceptAll
  exact ⟨⟨rfl, hfiles⟩, hselected.2 (.ofType "jar"), (hvariants _ _ hjar).1⟩

end ArtifactResolution
