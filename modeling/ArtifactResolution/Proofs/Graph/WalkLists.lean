import ArtifactResolution.Proofs.FirstOccurrences
import ArtifactResolution.Proofs.Graph.Construction
import ArtifactResolution.Proofs.Graph.SortedNodes

namespace ArtifactResolution
set_option autoImplicit false

open Relation

def walkTargets (edges : List Edge) : List NodeId :=
  edges.reverse.flatMap fun e => e.targets.toList

theorem walkTargets_append (before after : List Edge) :
    walkTargets (before ++ after) = walkTargets after ++ walkTargets before := by
  rw [walkTargets, List.reverse_append, List.flatMap_append]
  rfl

theorem walkTargets_cons (e : Edge) (after : List Edge) :
    walkTargets (e :: after) = walkTargets after ++ e.targets.toList := by
  simp [walkTargets]

theorem walkTargets_singles (targets : List NodeId) :
    walkTargets (targets.reverse.map fun target => ⟨#[target]⟩) = targets := by
  rw [walkTargets, ← List.map_reverse, List.reverse_reverse, List.flatMap_map]
  simp

namespace Graph
variable {g g' : Graph} {t : Traversal} {id a b root : NodeId} {ids : List NodeId}

/-- What a walk that is at a node makes of a list of targets. -/
def taken (g : Graph) (id : NodeId) (targets : List NodeId) : List NodeId :=
  (targets.filter fun target => g.contains target && target ≠ id).eraseDups

/-- The nodes other than itself to which a node leads, in the order in which a walk takes them. -/
def walkList (g : Graph) (id : NodeId) : List NodeId :=
  g.taken id (walkTargets (g.outgoing id).toList)

theorem mem_taken {targets : List NodeId} :
    b ∈ g.taken a targets ↔ b ∈ targets ∧ g.contains b ∧ b ≠ a := by
  simp [taken]

theorem mem_walkList : b ∈ g.walkList a ↔ g.Adj a b ∧ b ≠ a := by
  rw [walkList, mem_taken, Adj, and_assoc]
  simp [walkTargets]

theorem contains_congr (h : (g.node? id).map Node.edges = (g'.node? id).map Node.edges) :
    g.contains id = g'.contains id := by
  rw [contains_eq_isSome, contains_eq_isSome, ← Option.isSome_map, h, Option.isSome_map]

section Visit

theorem mem_entered_visit (h : g.contains id) : id ∈ (g.visit t id).1.entered := by
  by_cases hid : id ∈ t.entered
  · exact (g.visit t id).2 hid
  · rw [contains_eq_isSome] at h
    obtain ⟨n, hn⟩ := Option.isSome_iff_exists.1 h
    rw [visit_of_node? hid hn]
    exact (g.visitAll (t.enter id) n.targets).2 (Finset.mem_insert_self id t.entered)

theorem visitAll_append (ids ids' : List NodeId) :
    (g.visitAll t (ids ++ ids')).1 = (g.visitAll (g.visitAll t ids).1 ids').1 := by
  induction ids generalizing t with
  | nil => rw [visitAll_nil, List.nil_append]
  | cons id ids ih => rw [List.cons_append, visitAll_cons, visitAll_cons, ih]

theorem visit_of_mem (h : id ∈ ids) :
    (g.visit (g.visitAll t ids).1 id).1 = (g.visitAll t ids).1 := by
  by_cases hcontains : g.contains id
  · apply visit_of_entered
    obtain ⟨before, after, rfl⟩ := List.append_of_mem h
    rw [visitAll_append, visitAll_cons]
    exact (g.visitAll _ after).2 (mem_entered_visit hcontains)
  · exact visit_of_not_contains hcontains

theorem visitAll_eraseDups (ids : List NodeId) :
    (g.visitAll t ids.eraseDups).1 = (g.visitAll t ids).1 := by
  induction ids using List.reverseRecOn with
  | nil => rfl
  | append_singleton ids id ih =>
    have hlast (ids : List NodeId) :
        (g.visitAll t (ids ++ [id])).1 = (g.visit (g.visitAll t ids).1 id).1 := by
      rw [visitAll_append, visitAll_cons, visitAll_nil]
    rw [eraseDups_concat, hlast]
    split
    · next hmem => rw [visit_of_mem (List.mem_eraseDups.1 hmem), ih]
    · rw [hlast, ih]

theorem visitAll_filter {p : NodeId → Bool}
    (h : ∀ t', t.entered ⊆ t'.entered → ∀ id, ¬p id → (g.visit t' id).1 = t')
    (ids : List NodeId) : (g.visitAll t (ids.filter p)).1 = (g.visitAll t ids).1 := by
  induction ids generalizing t with
  | nil => rfl
  | cons id ids ih =>
    rw [visitAll_cons]
    by_cases hp : p id
    · rw [List.filter_cons_of_pos hp, visitAll_cons]
      exact ih fun t' ht' => h t' ((g.visit t id).2.trans ht')
    · rw [List.filter_cons_of_neg hp, h t subset_rfl id hp]
      exact ih h

theorem visitAll_taken (hid : id ∈ t.entered) (targets : List NodeId) :
    (g.visitAll t (g.taken id targets)).1 = (g.visitAll t targets).1 := by
  rw [taken, visitAll_eraseDups]
  apply visitAll_filter
  intro t' ht' target htarget
  by_cases hcontains : g.contains target
  · apply visit_of_entered
    have hself : target = id := by simpa [hcontains] using htarget
    exact hself ▸ ht' hid
  · exact visit_of_not_contains hcontains

/-- A visit of a new node sees its walk list alone. -/
theorem visit_eq_place (hid : id ∉ t.entered) (h : g.contains id) :
    (g.visit t id).1 = (g.visitAll (t.enter id) (g.walkList id)).1.place id := by
  rw [contains_eq_isSome] at h
  obtain ⟨n, hn⟩ := Option.isSome_iff_exists.1 h
  have hentered : id ∈ (t.enter id).entered := Finset.mem_insert_self id t.entered
  rw [visit_of_node? hid hn, walkList, visitAll_taken hentered, outgoing_of_node? hn]
  rfl

theorem visitAll_congr
    (h : ∀ t', t.entered ⊆ t'.entered → ∀ id ∈ ids, (g.visit t' id).1 = (g'.visit t' id).1) :
    (g.visitAll t ids).1 = (g'.visitAll t ids).1 := by
  induction ids generalizing t with
  | nil => rw [visitAll_nil, visitAll_nil]
  | cons id ids ih =>
    rw [visitAll_cons, visitAll_cons, ← h t subset_rfl id List.mem_cons_self]
    apply ih
    intro t' ht' id' hid'
    exact h t' ((g.visit t id).2.trans ht') id' (List.mem_cons_of_mem id hid')

end Visit

section SameWalkLists
variable (hsame : ∀ id, g.Reachable root id → g.walkList id = g'.walkList id)
include hsame

theorem contains_of_same_walkLists (hroot : g'.contains root) (h : g.Reachable root id) :
    g'.contains id := by
  induction h with
  | refl => exact hroot
  | @tail a b ha hab ih =>
    by_cases hself : b = a
    · exact hself ▸ ih
    · have hmem : b ∈ g.walkList a := mem_walkList.2 ⟨hab, hself⟩
      rw [hsame a ha] at hmem
      exact (mem_walkList.1 hmem).1.contains

/-- The induction is on the number of nodes not yet entered, as in the recursion of the visits. -/
theorem visit_congr (hroot : g.contains root) (hroot' : g'.contains root)
    (h : g.Reachable root id) : (g.visit t id).1 = (g'.visit t id).1 := by
  induction hcount : t.unentered g using Nat.strongRecOn generalizing t id with
  | ind count ih =>
    subst hcount
    by_cases hid : id ∈ t.entered
    · rw [visit_of_entered hid, visit_of_entered hid]
    · have hcontains := h.contains hroot
      have hcontains' := contains_of_same_walkLists hsame hroot' h
      rw [visit_eq_place hid hcontains, visit_eq_place hid hcontains', ← hsame id h]
      congr 1
      apply visitAll_congr
      intro t' ht' target htarget
      have hreach : g.Reachable root target := h.tail (mem_walkList.1 htarget).1
      rw [contains_eq_isSome] at hcontains
      obtain ⟨n, hn⟩ := Option.isSome_iff_exists.1 hcontains
      have hless : t'.unentered g < t.unentered g :=
        (Traversal.unentered_le ⟨t', ht'⟩).trans_lt (Traversal.unentered_enter_lt hn hid)
      exact ih _ hless hreach rfl

theorem sort_congr (hroot : g.contains root) (hroot' : g'.contains root) (order : SortOrder) :
    g.sort root order = g'.sort root order := by
  have hpostorder : g.postorder root = g'.postorder root := by
    rw [postorder, visit_congr hsame hroot hroot' .refl]
    rfl
  rw [sort_eq_ite, sort_eq_ite, hpostorder]

end SameWalkLists

/-- Ways to declare the same dependencies of a node with other edges. -/
inductive Redeclared (g : Graph) : List Edge → List Edge → Prop
  | empty (before after : List Edge) : Redeclared g (before ++ ⟨#[]⟩ :: after) (before ++ after)
  | dangling (before after : List Edge) (first rest : List NodeId) {target : NodeId}
      (h : ¬g.contains target) :
      Redeclared g (before ++ ⟨(first ++ target :: rest).toArray⟩ :: after)
        (before ++ ⟨(first ++ rest).toArray⟩ :: after)
  | repeated (before after : List Edge) (first rest : List NodeId) {target : NodeId}
      (h : target ∈ walkTargets after ++ first) :
      Redeclared g (before ++ ⟨(first ++ target :: rest).toArray⟩ :: after)
        (before ++ ⟨(first ++ rest).toArray⟩ :: after)
  | singles (before after : List Edge) (targets : List NodeId) :
      Redeclared g (before ++ ⟨targets.toArray⟩ :: after)
        (before ++ targets.reverse.map (fun target => ⟨#[target]⟩) ++ after)

theorem taken_repeated {first : List NodeId} (h : b ∈ first) (rest : List NodeId) :
    g.taken a (first ++ b :: rest) = g.taken a (first ++ rest) := by
  rw [taken, taken, List.filter_append, List.filter_append, List.filter_cons]
  split
  · next htaken =>
    have hmem : b ∈ first.filter fun target => g.contains target && target ≠ a :=
      List.mem_filter.2 ⟨h, htaken⟩
    rw [List.eraseDups_append, List.eraseDups_append]
    simp only [List.removeAll, List.filter_cons, List.elem_eq_true_of_mem hmem]
    rfl
  · rfl

theorem Redeclared.taken_eq {edges edges' : List Edge} (h : g.Redeclared edges edges')
    (id : NodeId) : g.taken id (walkTargets edges) = g.taken id (walkTargets edges') := by
  cases h with
  | empty before after => simp [walkTargets_append, walkTargets_cons]
  | dangling before after first rest h =>
    simp [walkTargets_append, walkTargets_cons, taken, h]
  | repeated before after first rest h =>
    have htaken := taken_repeated (g := g) (a := id) h (rest ++ walkTargets before)
    simpa [walkTargets_append, walkTargets_cons] using htaken
  | singles before after targets =>
    rw [walkTargets_append, walkTargets_cons, walkTargets_append, walkTargets_append,
      walkTargets_singles, List.append_assoc]

theorem taken_eq_of_redeclared {edges edges' : List Edge}
    (h : EqvGen g.Redeclared edges edges') (id : NodeId) :
    g.taken id (walkTargets edges) = g.taken id (walkTargets edges') := by
  induction h with
  | rel edges edges' h => exact h.taken_eq id
  | refl edges => rfl
  | symm edges edges' _ ih => exact ih.symm
  | trans edges edges' edges'' _ _ ih ih' => exact ih.trans ih'

/-- The graphs have the same nodes within reach of the root, each with the same dependencies, which
may be declared with other edges. What lies out of reach may differ altogether. -/
structure AlikeFrom (root : NodeId) (g g' : Graph) : Prop where
  contains_iff : ∀ id, g.Reachable root id ∨ g'.Reachable root id →
    (g.contains id ↔ g'.contains id)
  redeclared : ∀ id, g.Reachable root id ∨ g'.Reachable root id →
    EqvGen g.Redeclared (g.outgoing id).toList (g'.outgoing id).toList

namespace AlikeFrom
variable (h : AlikeFrom root g g')
include h

theorem walkList_eq (hid : g.Reachable root id) (hid' : g'.Reachable root id) :
    g.walkList id = g'.walkList id := by
  have htaken := taken_eq_of_redeclared (h.redeclared id (.inl hid)) id
  rw [walkList, walkList, htaken, taken, taken]
  congr 1
  apply List.filter_congr
  intro target htarget
  by_cases hself : target = id
  · simp [hself]
  have hcontains : g.contains target ↔ g'.contains target := by
    constructor
    · intro hg
      have hmem : target ∈ g.walkList id := by
        rw [walkList, htaken]
        exact mem_taken.2 ⟨htarget, hg, hself⟩
      exact (h.contains_iff target (.inl (hid.tail (mem_walkList.1 hmem).1))).1 hg
    · intro hg'
      have hmem : target ∈ g'.walkList id := mem_taken.2 ⟨htarget, hg', hself⟩
      exact (h.contains_iff target (.inr (hid'.tail (mem_walkList.1 hmem).1))).2 hg'
  rw [Bool.eq_iff_iff.2 hcontains]

theorem reachable (hid : g.Reachable root id) : g'.Reachable root id := by
  induction hid with
  | refl => exact .refl
  | @tail a b ha hab ih =>
    by_cases hself : b = a
    · exact hself ▸ ih
    · have hmem : b ∈ g.walkList a := mem_walkList.2 ⟨hab, hself⟩
      rw [h.walkList_eq ha ih] at hmem
      exact ih.tail (mem_walkList.1 hmem).1

theorem sort_eq (order : SortOrder) : g.sort root order = g'.sort root order := by
  have hroot := h.contains_iff root (.inl .refl)
  by_cases hcontains : g.contains root
  · have hsame (id : NodeId) (hid : g.Reachable root id) : g.walkList id = g'.walkList id :=
      h.walkList_eq hid (h.reachable hid)
    exact sort_congr hsame hcontains (hroot.1 hcontains) order
  · rw [sort_of_not_contains hcontains, sort_of_not_contains (mt hroot.2 hcontains)]

end AlikeFrom

def declarations (g : Graph) : List (NodeId × Array Edge) := g.nodes.map fun n => (n.id, n.edges)

theorem mem_declarations {edges : Array Edge} :
    (id, edges) ∈ g.declarations ↔ (g.node? id).map Node.edges = some edges := by
  rw [declarations, List.mem_map, Option.map_eq_some_iff]
  constructor
  · rintro ⟨n, hn, hedges⟩
    cases hedges
    exact ⟨n, node?_of_mem_nodes hn, rfl⟩
  · rintro ⟨n, hn, rfl⟩
    exact ⟨n, mem_nodes_of_node? hn, by rw [g.id_eq hn]⟩

theorem alikeFrom_of_perm (h : g.declarations.Perm g'.declarations) (root : NodeId) :
    AlikeFrom root g g' := by
  have hedges (id : NodeId) : (g.node? id).map Node.edges = (g'.node? id).map Node.edges := by
    apply Option.ext
    intro edges
    rw [← mem_declarations, ← mem_declarations, h.mem_iff]
  constructor
  · intro id _
    rw [contains_congr (hedges id)]
  · intro id _
    rw [outgoing, outgoing, hedges id]
    exact .refl _

/-- A sort depends only on the walk lists of the nodes that it reaches. So the order in which nodes
were added, their owners and configurations, nodes out of reach, and edges without targets, targets
that are missing or repeated and the cutting of an edge into single targets make no difference. -/
theorem sort_depends_on_walkLists (g g' : Graph) (root : NodeId) :
    (g.contains root → g'.contains root →
      (∀ id, g.Reachable root id → g.walkList id = g'.walkList id) →
      ∀ order, g.sort root order = g'.sort root order) ∧
    (g.declarations.Perm g'.declarations → ∀ order, g.sort root order = g'.sort root order) ∧
    (AlikeFrom root g g' → ∀ order, g.sort root order = g'.sort root order) := by
  refine ⟨?_, ?_, ?_⟩
  · intro hroot hroot' hsame
    exact sort_congr hsame hroot hroot'
  · intro hperm
    exact (alikeFrom_of_perm hperm root).sort_eq
  · intro halike
    exact halike.sort_eq

def ofEdges (owner : ComponentIdentifier) (nodes : List (NodeId × Array Edge)) : Graph :=
  let node (declared : NodeId × Array Edge) : Node :=
    ⟨declared.1, owner, ⟨"default", .external⟩, declared.2⟩
  (ofNodes (nodes.map node)).toOption.getD ∅

/-- Node 1 leads by one edge to nodes 2 and 3, has an edge to the missing node 9 and an edge without
targets; node 3 leads to node 2, which leads back to node 1. -/
def bundled : List (NodeId × Array Edge) :=
  [(⟨1⟩, #[⟨#[⟨2⟩, ⟨3⟩]⟩, ⟨#[⟨9⟩]⟩, ⟨#[]⟩]), (⟨2⟩, #[⟨#[⟨1⟩]⟩]), (⟨3⟩, #[⟨#[⟨2⟩]⟩])]

/-- The same with an edge for each target, and with node 7, which nothing leads to. -/
def spread : List (NodeId × Array Edge) :=
  [(⟨7⟩, #[⟨#[⟨1⟩]⟩]), (⟨3⟩, #[⟨#[⟨2⟩]⟩]), (⟨2⟩, #[⟨#[⟨1⟩]⟩]), (⟨1⟩, #[⟨#[⟨3⟩]⟩, ⟨#[⟨2⟩]⟩])]

def library : ComponentIdentifier := .module "org.example" "lib" "1.0"

def application : ComponentIdentifier := .project ⟨"root", true⟩ ":app"

theorem redeclared_bundled :
    EqvGen (ofEdges library bundled).Redeclared [⟨#[⟨2⟩, ⟨3⟩]⟩, ⟨#[⟨9⟩]⟩, ⟨#[]⟩]
      [⟨#[⟨3⟩]⟩, ⟨#[⟨2⟩]⟩] := by
  have hempty := Redeclared.empty (g := ofEdges library bundled) [⟨#[⟨2⟩, ⟨3⟩]⟩, ⟨#[⟨9⟩]⟩] []
  have hdangling : Redeclared (ofEdges library bundled) [⟨#[⟨2⟩, ⟨3⟩]⟩, ⟨#[⟨9⟩]⟩]
      [⟨#[⟨2⟩, ⟨3⟩]⟩, ⟨#[]⟩] :=
    .dangling [⟨#[⟨2⟩, ⟨3⟩]⟩] [] [] [] (by decide)
  have hempty' := Redeclared.empty (g := ofEdges library bundled) [⟨#[⟨2⟩, ⟨3⟩]⟩] []
  have hsingles := Redeclared.singles (g := ofEdges library bundled) [] [] [⟨2⟩, ⟨3⟩]
  exact (EqvGen.rel _ _ hempty).trans _ _ _ <| (EqvGen.rel _ _ hdangling).trans _ _ _ <|
    (EqvGen.rel _ _ hempty').trans _ _ _ (.rel _ _ hsingles)

theorem sort_depends_on_walkLists_bundled :
    let g := ofEdges library bundled
    let reordered := ofEdges application bundled.reverse
    let respread := ofEdges application spread
    (g.contains ⟨1⟩ ∧ respread.contains ⟨1⟩ ∧
      (∀ id, g.Reachable ⟨1⟩ id → g.walkList id = respread.walkList id) ∧
      ∀ order, g.sort ⟨1⟩ order = respread.sort ⟨1⟩ order) ∧
    (g.declarations.Perm reordered.declarations ∧
      ∀ order, g.sort ⟨1⟩ order = reordered.sort ⟨1⟩ order) ∧
    (AlikeFrom ⟨1⟩ g respread ∧ ∀ order, g.sort ⟨1⟩ order = respread.sort ⟨1⟩ order) := by
  intro g reordered respread
  have hreach (id : NodeId) (h : g.Reachable ⟨1⟩ id ∨ respread.Reachable ⟨1⟩ id) :
      id ∈ ([⟨1⟩, ⟨2⟩, ⟨3⟩, ⟨9⟩] : List NodeId) := by
    rcases h with h | h
    · exact h.mem_of_closed (by decide) (by decide)
    · exact h.mem_of_closed (by decide) (by decide)
  have hcontains : g.contains ⟨1⟩ ∧ respread.contains ⟨1⟩ := by decide
  have hsame (id : NodeId) (h : g.Reachable ⟨1⟩ id) : g.walkList id = respread.walkList id := by
    have hlists : ∀ id ∈ ([⟨1⟩, ⟨2⟩, ⟨3⟩, ⟨9⟩] : List NodeId),
        g.walkList id = respread.walkList id := by decide
    exact hlists id (hreach id (.inl h))
  have hperm : g.declarations.Perm reordered.declarations := by decide
  have halike : AlikeFrom ⟨1⟩ g respread := by
    constructor
    · intro id h
      have hboth : ∀ id ∈ ([⟨1⟩, ⟨2⟩, ⟨3⟩, ⟨9⟩] : List NodeId),
          (g.contains id ↔ respread.contains id) := by decide
      exact hboth id (hreach id h)
    · intro id h
      have hothers : ∀ id ∈ ([⟨2⟩, ⟨3⟩, ⟨9⟩] : List NodeId),
          g.outgoing id = respread.outgoing id := by decide
      rcases List.mem_cons.1 (hreach id h) with rfl | hid
      · exact redeclared_bundled
      · rw [hothers id hid]
        exact .refl _
  obtain ⟨hlists, _, hredeclared⟩ := sort_depends_on_walkLists g respread ⟨1⟩
  obtain ⟨_, hdeclarations, _⟩ := sort_depends_on_walkLists g reordered ⟨1⟩
  exact ⟨⟨hcontains.1, hcontains.2, hsame, hlists hcontains.1 hcontains.2 hsame⟩,
    ⟨hperm, hdeclarations hperm⟩, halike, hredeclared halike⟩

end Graph

end ArtifactResolution
