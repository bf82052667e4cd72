import ArtifactResolution.ArtifactSet
import ArtifactResolution.Proofs.SortedEntries

namespace ArtifactResolution
set_option autoImplicit false

open Attributes

inductive VariantCall where
  | setAttribute (key value : String)
  | addArtifact (a : Artifact)

namespace VariantCall

def apply (v : Variant) : VariantCall → Variant
  | setAttribute key value => v.withAttribute key value
  | addArtifact a => v.withArtifact a

def attribute? : VariantCall → Option (String × String)
  | setAttribute key value => some (key, value)
  | addArtifact _ => none

def artifact? : VariantCall → Option Artifact
  | setAttribute .. => none
  | addArtifact a => some a

end VariantCall

/-- How a variant is built: its name, and the calls from first to last. -/
structure VariantPlan where
  name : String
  calls : List VariantCall

namespace VariantPlan

def build (p : VariantPlan) : Variant := p.calls.foldl VariantCall.apply { name := p.name }

def attributes (p : VariantPlan) : List (String × String) :=
  p.calls.filterMap VariantCall.attribute?

def artifacts (p : VariantPlan) : List Artifact := p.calls.filterMap VariantCall.artifact?

theorem foldl_apply (v : Variant) (calls : List VariantCall) :
    calls.foldl VariantCall.apply v =
      { name := v.name
        attributes := (calls.filterMap VariantCall.attribute?).foldl
          (fun m e => m.insert e.1 e.2) v.attributes
        artifacts := v.artifacts ++ calls.filterMap VariantCall.artifact? } := by
  induction calls generalizing v with
  | nil => exact congrArg (Variant.mk v.name v.attributes) (List.append_nil v.artifacts).symm
  | cons call calls ih =>
    rw [List.foldl_cons, ih]
    cases call with
    | setAttribute key value =>
      have hset : (VariantCall.setAttribute key value).attribute? = some (key, value) := rfl
      have hnone : (VariantCall.setAttribute key value).artifact? = none := rfl
      rw [List.filterMap_cons_some hset, List.filterMap_cons_none hnone]
      rfl
    | addArtifact a =>
      have hadded : (VariantCall.addArtifact a).artifact? = some a := rfl
      have hnone : (VariantCall.addArtifact a).attribute? = none := rfl
      rw [List.filterMap_cons_some hadded, List.filterMap_cons_none hnone]
      exact congrArg (Variant.mk v.name _) (List.append_assoc v.artifacts [a] _)

theorem build_eq (p : VariantPlan) : p.build = ⟨p.name, .ofList p.attributes, p.artifacts⟩ :=
  foldl_apply { name := p.name } p.calls

/-- Of every key that is required, the value required last is the one that is set last. -/
def Meets (p : VariantPlan) (requirements : List (String × String)) : Prop :=
  ∀ key ∈ requirements.map (·.1), lastValue? p.attributes key = lastValue? requirements key

instance (p : VariantPlan) (requirements : List (String × String)) :
    Decidable (p.Meets requirements) :=
  inferInstanceAs (Decidable (∀ key ∈ requirements.map (·.1),
    lastValue? p.attributes key = lastValue? requirements key))

theorem Meets.of_insert {p : VariantPlan} {before after : List (String × String)}
    {key value : String} (h : p.Meets (before ++ (key, value) :: after))
    (hkey : key ∉ (before ++ after).map (·.1)) : p.Meets (before ++ after) := by
  intro key' hkey'
  have hne : key' ≠ key := fun heq => hkey (heq ▸ hkey')
  have hvalue := h key' (by grind)
  rwa [lastValue?_of_ne before after value hne] at hvalue

def taken (owner : Option ComponentIdentifier) (p : VariantPlan) : ResolvedSet :=
  .ofList (p.artifacts.map fun a => ⟨a.name, a.file, owner, p.name⟩)

theorem ofVariant_build (owner : Option ComponentIdentifier) (p : VariantPlan) :
    ResolvedSet.ofVariant owner p.build = p.taken owner := by
  rw [build_eq, ResolvedSet.ofVariant, taken]

end VariantPlan

namespace AttributeMatcher

/-- The matcher that requires values call by call, from first to last. -/
def ofRequirements (requirements : List (String × String)) : AttributeMatcher :=
  requirements.foldl (fun m r => m.require r.1 r.2) {}

theorem required_ofRequirements (requirements : List (String × String)) :
    (ofRequirements requirements).required = .ofList requirements :=
  (List.foldl_hom AttributeMatcher.required fun _ _ => rfl).symm

theorem ofRequirements_congr {requirements requirements' : List (String × String)}
    (h : ∀ key, lastValue? requirements key = lastValue? requirements' key) :
    ofRequirements requirements = ofRequirements requirements' := by
  have hrequired : (ofRequirements requirements).required =
      (ofRequirements requirements').required := by
    apply ext_get?
    intro key
    rw [required_ofRequirements, required_ofRequirements, get?_ofList, get?_ofList, h]
  exact congrArg AttributeMatcher.mk hrequired

theorem meets_build_iff (p : VariantPlan) (requirements : List (String × String)) :
    p.build.meets (ofRequirements requirements).required ↔ p.Meets requirements := by
  rw [required_ofRequirements, VariantPlan.build_eq, Variant.meets, List.all_eq_true]
  simp only [decide_eq_true_iff, get?_ofList, mem_entries_iff]
  constructor
  · intro h key hkey
    obtain ⟨r, hr, rfl⟩ := List.mem_map.1 hkey
    obtain ⟨value, hvalue⟩ := exists_lookup_of_mem (List.mem_reverse.2 hr)
    exact (h (r.1, value) hvalue).trans hvalue.symm
  · intro h e he
    have hkey : e.1 ∈ requirements.map (·.1) :=
      List.mem_map_of_mem (List.mem_reverse.1 (mem_of_lookup he))
    exact (h e.1 hkey).trans he

theorem resolve_ofRequirements (owner : Option ComponentIdentifier) (plans : List VariantPlan)
    (requirements : List (String × String)) :
    (ofRequirements requirements).toSelector.resolve owner (plans.map VariantPlan.build) =
      (plans.find? (·.Meets requirements)).elim ∅ (·.taken owner) := by
  have hmeets : (fun v : Variant => v.meets (ofRequirements requirements).required) ∘
      VariantPlan.build = fun p => decide (p.Meets requirements) := by
    funext p
    exact Bool.eq_iff_iff.2 ((meets_build_iff p requirements).trans decide_eq_true_iff.symm)
  rw [VariantSelector.resolve, toSelector, List.find?_map, hmeets]
  cases plans.find? (·.Meets requirements) with
  | none => rfl
  | some p => exact p.ofVariant_build owner

end AttributeMatcher

/-- From a component that takes part, live or frozen, the artifacts of the first candidate are taken
for which, of every required key, the value required last is the value set last, in the order in
which they were added and labelled with the component and the variant; nothing where no candidate
is so. A matcher is the same in whatever order different keys are required, and with a requirement
on a new key the choice stays or falls on a later candidate, if any. -/
theorem select_component_by_requirements {owner : ComponentIdentifier} {source : VariantSource}
    {s : VariantStore} {filter : ComponentFilter} {plans : List VariantPlan} (id : ArtifactSetId)
    (hfilter : filter owner) (hplans : source.current s = plans.map VariantPlan.build) :
    let choice (requirements : List (String × String)) := plans.findIdx (·.Meets requirements)
    (∀ requirements,
      (ArtifactSet.component id owner source).select s filter
          (AttributeMatcher.ofRequirements requirements).toSelector =
        plans[choice requirements]?.elim ∅ (·.taken (some owner))) ∧
    (∀ requirements requirements' : List (String × String),
      (∀ key, (requirements.filter fun r => r.1 == key) =
        requirements'.filter fun r => r.1 == key) →
      AttributeMatcher.ofRequirements requirements = .ofRequirements requirements') ∧
    (∀ before after key value, key ∉ (before ++ after).map (·.1) →
      choice (before ++ after) ≤ choice (before ++ (key, value) :: after)) := by
  intro choice
  refine ⟨?_, ?_, ?_⟩
  · intro requirements
    rw [ArtifactSet.select, ArtifactSet.selectComponent, if_pos hfilter, hplans,
      AttributeMatcher.resolve_ofRequirements, List.find?_eq_getElem?_findIdx]
  · intro requirements requirements' hkeys
    apply AttributeMatcher.ofRequirements_congr
    intro key
    rw [← lastValue?_filter, hkeys key, lastValue?_filter]
  · intro before after key value hkey
    apply List.findIdx_le_findIdx
    intro p _ hp
    exact decide_eq_true ((of_decide_eq_true hp).of_insert hkey)

/-- A variant whose usage is set twice before one with two artifacts. -/
def jarVariants : List VariantPlan :=
  [⟨"api", [.setAttribute "usage" "runtime", .addArtifact ⟨"a-api.jar", ⟨"a-api.jar"⟩⟩,
      .setAttribute "usage" "api"]⟩,
    ⟨"runtime", [.addArtifact ⟨"a.jar", ⟨"a.jar"⟩⟩, .setAttribute "usage" "runtime",
      .addArtifact ⟨"b.jar", ⟨"b.jar"⟩⟩]⟩]

theorem select_component_by_requirements_jars :
    let owner : ComponentIdentifier := .module "org" "a" "1"
    let s : VariantStore := ⟨#[jarVariants.map VariantPlan.build]⟩
    ComponentFilter.acceptAll owner ∧
    VariantSource.current s (.live ⟨0⟩) = jarVariants.map VariantPlan.build ∧
    (ArtifactSet.component ⟨7⟩ owner (.live ⟨0⟩)).select s .acceptAll
        (AttributeMatcher.ofRequirements [("usage", "api"), ("usage", "runtime")]).toSelector =
      .artifacts [⟨"a.jar", ⟨"a.jar"⟩, some owner, "runtime"⟩,
        ⟨"b.jar", ⟨"b.jar"⟩, some owner, "runtime"⟩] := by
  intro owner s
  have hfilter : ComponentFilter.acceptAll owner := rfl
  have hplans : VariantSource.current s (.live ⟨0⟩) = jarVariants.map VariantPlan.build := rfl
  obtain ⟨hselect, _, _⟩ := select_component_by_requirements ⟨7⟩ hfilter hplans
  exact ⟨hfilter, hplans, (hselect _).trans (by decide)⟩

end ArtifactResolution
