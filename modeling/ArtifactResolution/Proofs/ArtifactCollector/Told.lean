import ArtifactResolution.Proofs.ArtifactCollector.Admission
import ArtifactResolution.Proofs.ArtifactCollector.Buildable
import ArtifactResolution.Proofs.Selection.SameContent

namespace ArtifactResolution.ArtifactCollector
set_option autoImplicit false

open Callback

variable {c c' : ArtifactCollector} {callback : Callback} {done done' visits : List Callback}

/-- The state holds what the accepted callbacks have told, and marks the sets that they ask for. -/
structure Told (c : ArtifactCollector) (done : List Callback) : Prop where
  collected : c.Collected done
  marked_eq : c.buildable.toList = (done.filterMap (required? c.buildProjects)).eraseDups

namespace Told

theorem accept (h : c.Told done) (haccept : c.accept callback = .ok c') :
    c'.Told (done ++ [callback]) where
  collected := h.collected.change (.of_accept haccept)
  marked_eq := by
    obtain ⟨hprojects, hmarked⟩ := buildable_accept haccept h.marked_eq
    rw [hmarked, hprojects, List.filterMap_append]
    cases hrequired : callback.required? c.buildProjects <;> simp [hrequired]

theorem run (h : c.Told done) (cs : List Callback) :
    (Visitor.run c cs).1.Told (done ++ Visitor.accepted c cs) := by
  apply run_induction (p := fun accepted c' => c'.Told (done ++ accepted))
  · rwa [List.append_nil]
  · intro accepted c₁ callback c₂ h₁ haccept
    rw [← List.append_assoc]
    exact h₁.accept haccept

theorem of_run (buildProjects : Bool) (order : SortOrder) (cs : List Callback) :
    (Visitor.run ({ buildProjects, order } : ArtifactCollector) cs).1.Told
      (Visitor.accepted ({ buildProjects, order } : ArtifactCollector) cs) :=
  run ⟨.of_fresh buildProjects order, rfl⟩ cs

theorem run_of_admits (h : c.Told done) (hstarted : c.started)
    (hadmits : ∀ visit ∈ visits, c.admits visit) :
    (Visitor.run c visits).1.Told (done ++ visits) := by
  have htold := h.run visits
  rwa [accepted_eq_filter hstarted, List.filter_eq_self.2 hadmits] at htold

theorem marked_iff (h : c.Told done) {id : ArtifactSetId} :
    c.buildable.contains id ↔ ∃ visit ∈ done, visit.required? c.buildProjects = some id := by
  rw [← OrderedSet.mem_toList_iff, h.marked_eq, List.mem_eraseDups, List.mem_filterMap]

theorem sameContent (h : c.Told done) (h' : c'.Told done')
    (hprojects : c.buildProjects = c'.buildProjects) (hperm : done.Perm done')
    (hlast : lastSet? done = lastSet? done') (s : VariantStore) :
    (c.complete s).SameContent (c'.complete s) where
  setIds_perm node := by
    rw [h.collected.setIds_eq, h'.collected.setIds_eq]
    exact perm_eraseDups ((hperm.filterMap delivery?).filterMap _)
  artifactSet_eq id := by
    rw [h.collected.artifactSet_eq, h'.collected.artifactSet_eq, hlast]
  isBuildable_eq id := by
    rw [Bool.eq_iff_iff]
    show c.buildable.contains id ↔ c'.buildable.contains id
    rw [h.marked_iff, h'.marked_iff, hprojects]
    simp only [hperm.mem_iff]

end Told

end ArtifactResolution.ArtifactCollector
