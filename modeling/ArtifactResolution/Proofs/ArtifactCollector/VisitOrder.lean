import ArtifactResolution.Proofs.ArtifactCollector.Arrangement
import ArtifactResolution.Proofs.ArtifactCollector.Redelivery

namespace ArtifactResolution
set_option autoImplicit false

open Callback

theorem SortOrder.nodes_perm {order : SortOrder} {cs ds : List Callback} (hperm : cs.Perm ds)
    (hstarts : starts cs = starts ds) :
    (order.nodes cs).Perm (order.nodes ds) ∧
      (order.isDefault = false → order.nodes cs = order.nodes ds) := by
  rw [nodes, nodes, hstarts]
  cases order.isDefault with
  | true =>
    refine ⟨perm_eraseDups ((hperm.filterMap delivery?).map _), ?_⟩
    intro h
    cases h
  | false => exact ⟨.refl _, fun _ => rfl⟩

namespace ArtifactCollector
variable {buildProjects : Bool} {order : SortOrder} {earlier visits visits' done : List Callback}
  {c : ArtifactCollector} {callback : Callback}

theorem starts_append_of_admits (hstarted : c.started)
    (hadmits : ∀ visit ∈ visits, c.admits visit) :
    starts (done ++ visits) = starts done := by
  have hvisits : starts visits = [] :=
    List.filterMap_eq_nil_iff.2 fun visit hvisit =>
      start?_of_admits hstarted (hadmits visit hvisit)
  rw [starts, List.filterMap_append, ← starts, ← starts, hvisits, List.append_nil]

namespace Told
variable (h : c.Told done) (hstarted : c.started) (hadmits : ∀ visit ∈ visits, c.admits visit)
include h hstarted hadmits

theorem sameContent_of_perm (hsame : OneSetEach visits) (hperm : visits'.Perm visits)
    (s : VariantStore) :
    ((Visitor.run c visits').1.complete s).SameContent ((Visitor.run c visits).1.complete s) := by
  have hadmits' : ∀ visit ∈ visits', c.admits visit :=
    fun visit hvisit => hadmits visit (hperm.mem_iff.1 hvisit)
  apply (h.run_of_admits hstarted hadmits').sameContent (h.run_of_admits hstarted hadmits)
  · rw [(settings_run c visits').1, (settings_run c visits).1]
  · exact hperm.append_left done
  · funext id
    rw [lastSet?_append, lastSet?_append, hsame.lastSet?_eq_of_perm hperm]

theorem nodes_perm_of_perm (hperm : visits'.Perm visits) (s : VariantStore) :
    ((Visitor.run c visits').1.complete s).nodes.Perm ((Visitor.run c visits).1.complete s).nodes ∧
      (c.order.isDefault = false → ((Visitor.run c visits').1.complete s).nodes =
        ((Visitor.run c visits).1.complete s).nodes) := by
  have hadmits' : ∀ visit ∈ visits', c.admits visit :=
    fun visit hvisit => hadmits visit (hperm.mem_iff.1 hvisit)
  rw [nodes_complete, nodes_complete, (h.run_of_admits hstarted hadmits').collected.keys_eq,
    (h.run_of_admits hstarted hadmits).collected.keys_eq, order_run, order_run]
  apply SortOrder.nodes_perm (hperm.append_left done)
  rw [starts_append_of_admits hstarted hadmits', starts_append_of_admits hstarted hadmits]

theorem receive_again (hsame : OneSetEach visits) (hvisit : callback ∈ visits) :
    (Visitor.receive (Visitor.run c visits).1 callback).1 = (Visitor.run c visits).1 := by
  obtain ⟨hstarted', hadmits'⟩ := run_admits_eq hstarted visits
  have hadmitted : (Visitor.run c visits).1.admits callback := by
    rw [hadmits']
    exact hadmits callback hvisit
  have haccept : (Visitor.run c visits).1.accept callback = .ok (Visitor.run c visits).1 := by
    apply (h.run_of_admits hstarted hadmits).accept_again hstarted' hadmitted
    · exact List.mem_append_right done hvisit
    · intro node set id hdelivery hid
      have hmem : (id, set) ∈ identified visits :=
        mem_identified_iff.2 ⟨node, mem_deliveries hvisit hdelivery, hid⟩
      have hlast := hsame.lastSet?_eq_some_iff.2 hmem
      rw [lastSet?_append, hlast, Option.some_or]
  rw [receive_of_accept haccept]

theorem run_again (hsame : OneSetEach visits) {again : List Callback} (hagain : again ⊆ visits) :
    (Visitor.run (Visitor.run c visits).1 again).1 = (Visitor.run c visits).1 := by
  induction again with
  | nil => rfl
  | cons visit again ih =>
    obtain ⟨hvisit, hrest⟩ := List.cons_subset.1 hagain
    rw [Visitor.run_cons, h.receive_again hstarted hadmits hsame hvisit, ih hrest]

end Told

/-- A collection is started, and then it accepts visits in which every identity comes with the same
set. In any other order of these visits the result has the same nodes, in a sorted order even in the
same sequence, and for every node, under every identity and to be built the same sets; what is
selected from it is the same up to the order. Visits that are told again at any later time leave the
whole result as it is. -/
theorem complete_perm_visits
    (hstarted : (Visitor.run ({ buildProjects, order } : ArtifactCollector) earlier).1.started)
    (haccepted : Visitor.accepted
      (Visitor.run ({ buildProjects, order } : ArtifactCollector) earlier).1 visits = visits)
    (hsame : OneSetEach visits) (s s' : VariantStore) (filter : ComponentFilter)
    (selector : VariantSelector) :
    let results (cs : List Callback) := (Visitor.run
      ({ buildProjects, order } : ArtifactCollector) (earlier ++ cs)).1.complete s
    let selection (cs : List Callback) := (results cs).select s' filter selector
    (∀ visits', visits'.Perm visits →
      (results visits').nodes.Perm (results visits).nodes ∧
      (order ≠ .default → (results visits').nodes = (results visits).nodes) ∧
      (∀ node, ((results visits').setIds node).Perm ((results visits).setIds node)) ∧
      (∀ id, (results visits').artifactSet id = (results visits).artifactSet id) ∧
      (∀ id, (results visits').isBuildable id = (results visits).isBuildable id) ∧
      (∀ node, ((selection visits').artifactsFor node).toList.Perm
        ((selection visits).artifactsFor node).toList) ∧
      (selection visits').artifacts.toList.Perm (selection visits).artifacts.toList ∧
      (selection visits').buildDependencies.toList.Perm
        (selection visits).buildDependencies.toList) ∧
    (∀ before after, visits = before ++ after → ∀ again, again ⊆ before →
      results (before ++ again ++ after) = results visits) := by
  intro results selection
  have htold := Told.of_run buildProjects order earlier
  have hresults (cs : List Callback) : results cs = (Visitor.run (Visitor.run
      ({ buildProjects, order } : ArtifactCollector) earlier).1 cs).1.complete s := by
    simp only [results, Visitor.run_append]
  rw [accepted_eq_filter hstarted, List.filter_eq_self] at haccepted
  constructor
  · intro visits' hperm
    have hcontent : (results visits').SameContent (results visits) := by
      rw [hresults, hresults]
      exact htold.sameContent_of_perm hstarted haccepted hsame hperm s
    obtain ⟨hnodes, hsequence⟩ := htold.nodes_perm_of_perm hstarted haccepted hperm s
    rw [← hresults, ← hresults] at hnodes hsequence
    rw [order_run] at hsequence
    refine ⟨hnodes, fun horder => hsequence (by simpa [SortOrder.isDefault] using horder),
      hcontent.setIds_perm, hcontent.artifactSet_eq, hcontent.isBuildable_eq,
      hcontent.artifactsFor_perm s' filter selector, hcontent.artifacts_perm s' filter selector,
      hcontent.buildDependencies_perm s' filter selector⟩
  · rintro before after rfl again hagain
    have hunchanged := htold.run_again hstarted
      (fun visit hvisit => haccepted visit (List.mem_append_left after hvisit))
      (hsame.mono (List.subset_append_left before after)) hagain
    rw [hresults, hresults, Visitor.run_append, Visitor.run_append, hunchanged, Visitor.run_append]

theorem oneSetEach_mesh : OneSetEach meshVisits := by
  have hfirst : (identified meshVisits).Forall fun e =>
      (identified meshVisits).lookup e.1 = some e.2 := ⟨rfl, rfl, rfl, rfl⟩
  exact eq_of_key_eq_of_lookup (List.forall_iff_forall_mem.1 hfirst)

/-- The mesh is visited backwards, and its first two visits are told again before the last. -/
theorem complete_perm_visits_mesh :
    let started : ArtifactCollector := (Visitor.run
      ({ buildProjects := true, order := .consumerFirst } : ArtifactCollector) [.start mesh ⟨1⟩]).1
    let results (cs : List Callback) := (Visitor.run
      ({ buildProjects := true, order := .consumerFirst } : ArtifactCollector)
      ([.start mesh ⟨1⟩] ++ cs)).1.complete meshStore
    let selection (cs : List Callback) := (results cs).select meshStore .acceptAll .first
    (started.started ∧ Visitor.accepted started meshVisits = meshVisits ∧ OneSetEach meshVisits) ∧
    (results meshVisits.reverse).nodes = (results meshVisits).nodes ∧
    ((selection meshVisits.reverse).artifactsFor ⟨2⟩).toList.Perm
      ((selection meshVisits).artifactsFor ⟨2⟩).toList ∧
    (selection meshVisits.reverse).buildDependencies.toList.Perm
      (selection meshVisits).buildDependencies.toList ∧
    results (meshVisits.take 5 ++ meshVisits.take 2 ++ meshVisits.drop 5) = results meshVisits ∧
    ((selection meshVisits).artifactsFor ⟨2⟩).toList.length = 2 ∧
    (selection meshVisits).buildDependencies.toList.length = 3 := by
  intro started results selection
  have hstarted : started.started := started_receive_start true .consumerFirst mesh ⟨1⟩
  have haccepted : Visitor.accepted started meshVisits = meshVisits := by
    have hall := accepted_of_reachable deliverReachable_mesh true .consumerFirst
    rw [accepted_start] at hall
    exact List.tail_eq_of_cons_eq hall
  obtain ⟨horder, hagain⟩ := complete_perm_visits hstarted haccepted oneSetEach_mesh meshStore
    meshStore .acceptAll .first
  obtain ⟨_, hnodes, _, _, _, hnode, _, hbuilt⟩ := horder meshVisits.reverse (List.reverse_perm _)
  exact ⟨⟨hstarted, haccepted, oneSetEach_mesh⟩, hnodes nofun, hnode ⟨2⟩, hbuilt,
    hagain _ _ rfl _ (List.take_subset_take_left _ (by decide)), by decide +kernel,
    by decide +kernel⟩

end ArtifactCollector

end ArtifactResolution
