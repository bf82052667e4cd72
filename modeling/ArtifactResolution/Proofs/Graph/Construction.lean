import ArtifactResolution.Graph
import ArtifactResolution.Proofs.Action
import ArtifactResolution.Proofs.Table

namespace ArtifactResolution
set_option autoImplicit false

inductive GraphCall where
  | addNode (n : Node)
  | addEdge (source : NodeId) (targets : Array NodeId)

namespace GraphCall

def subject : GraphCall → NodeId
  | addNode n => n.id
  | addEdge source _ => source

def addedId? : GraphCall → Option NodeId
  | addNode n => some n.id
  | addEdge .. => none

def edgeFrom? (id : NodeId) : GraphCall → Option Edge
  | addNode _ => none
  | addEdge source targets => if source = id then some ⟨targets⟩ else none

def addedIds (calls : List GraphCall) : List NodeId := calls.filterMap addedId?

def edgesFrom (id : NodeId) (calls : List GraphCall) : List Edge := calls.filterMap (edgeFrom? id)

/-- What is refused in a graph with the given nodes: a node that is there, and an edge from one that
is not. -/
inductive Refused (known : List NodeId) : GraphCall → GraphError → Prop
  | duplicateNode {n : Node} (h : n.id ∈ known) : Refused known (addNode n) (.duplicateNode n.id)
  | missingNode {source : NodeId} {targets : Array NodeId} (h : source ∉ known) :
    Refused known (addEdge source targets) (.missingNode source)

theorem Refused.congr {known known' : List NodeId} (h : ∀ id, id ∈ known ↔ id ∈ known')
    {call : GraphCall} {e : GraphError} (hrefused : Refused known call e) :
    Refused known' call e := by
  cases hrefused with
  | duplicateNode hknown => exact .duplicateNode ((h _).1 hknown)
  | missingNode hmissing => exact .missingNode (mt (h _).2 hmissing)

/-- What stands under an identity after a call, by what stands there before. -/
def effect (id : NodeId) (node? : Option Node) : GraphCall → Option Node
  | addNode n => if n.id = id then some (node?.getD n) else node?
  | addEdge source targets => if source = id then node?.map (·.addEdge targets) else node?

end GraphCall

open GraphCall

def Node.extended (n : Node) (calls : List GraphCall) : Node :=
  { n with edges := n.edges ++ (edgesFrom n.id calls).toArray }

namespace GraphCall
variable {id : NodeId}

@[simp] theorem edgesFrom_nil (id : NodeId) : edgesFrom id [] = [] := rfl

@[simp] theorem edgesFrom_addNode (id : NodeId) (n : Node) (calls : List GraphCall) :
    edgesFrom id (addNode n :: calls) = edgesFrom id calls := rfl

@[simp] theorem edgesFrom_addEdge (id source : NodeId) (targets : Array NodeId)
    (calls : List GraphCall) : edgesFrom id (addEdge source targets :: calls) =
      (if source = id then [⟨targets⟩] else []) ++ edgesFrom id calls := by
  by_cases h : source = id <;> simp [edgesFrom, edgeFrom?, h]

theorem effect_of_subject_ne {call : GraphCall} (h : call.subject ≠ id) (node? : Option Node) :
    call.effect id node? = node? := by
  cases call with
  | addNode n => exact if_neg h
  | addEdge source targets => exact if_neg h

theorem effect_some (n : Node) (call : GraphCall) :
    call.effect n.id (some n) = some (n.extended [call]) := by
  cases call with
  | addNode m => simp [effect, Node.extended]
  | addEdge source targets =>
    by_cases h : source = n.id <;> simp [effect, Node.extended, Node.addEdge, h]

theorem extended_extended (n : Node) (calls later : List GraphCall) :
    (n.extended calls).extended later = n.extended (calls ++ later) := by
  simp [Node.extended, edgesFrom]

theorem foldl_effect_some (n : Node) (calls : List GraphCall) :
    calls.foldl (fun node? call => call.effect n.id node?) (some n) = some (n.extended calls) := by
  induction calls generalizing n with
  | nil => simp [Node.extended]
  | cons call calls ih =>
    rw [List.foldl_cons, effect_some]
    have h := ih (n.extended [call])
    rwa [extended_extended] at h

theorem foldl_effect_filter (id : NodeId) (node? : Option Node) (calls : List GraphCall) :
    (calls.filter (·.subject = id)).foldl (fun node? call => call.effect id node?) node? =
      calls.foldl (fun node? call => call.effect id node?) node? := by
  induction calls generalizing node? with
  | nil => rfl
  | cons call calls ih =>
    by_cases h : call.subject = id
    · simp [h, ih]
    · simp [h, ih, effect_of_subject_ne h]

end GraphCall

namespace Graph
variable {g g' : Graph} {id : NodeId} {n : Node}

def accept (g : Graph) : GraphCall → Except GraphError Graph
  | .addNode n => g.addNode n
  | .addEdge source targets => g.addEdge source targets

/-- The graph after a call, which a refused one leaves as it is, and the answer. -/
def receive (g : Graph) (call : GraphCall) : Graph × Except GraphError Unit :=
  Action.settle g (g.accept call)

/-- What a call does bit by bit: it looks for a node first, and then it writes to the table. -/
def Action.ofCall : GraphCall → List (Action Graph GraphError)
  | .addNode n =>
    [.test fun g => if g.contains n.id then .error (.duplicateNode n.id) else .ok (),
      .change fun g => { table := g.table.insert n.id n, id_eq := g.id_eq_insert n }]
  | .addEdge source targets =>
    [.test fun g => if g.contains source then .ok () else .error (.missingNode source),
      .change fun g =>
        { table := g.table.modify source (·.addEdge targets)
          id_eq := g.id_eq_modify source (·.addEdge targets) fun _ => rfl }]

theorem perform_ofCall (g : Graph) (call : GraphCall) :
    Action.perform g (Action.ofCall call) = g.receive call := by
  rw [receive, accept.eq_def]
  cases call with
  | addNode n =>
    rw [Action.ofCall, Action.perform_test_change]
    dsimp only
    rw [addNode]
    cases g.contains n.id <;> rfl
  | addEdge source targets =>
    rw [Action.ofCall, Action.perform_test_change]
    dsimp only
    rw [addEdge]
    cases g.contains source <;> rfl

/-- The final graph and the answers after a sequence of calls. -/
def extend (g : Graph) : List GraphCall → Graph × List (Except GraphError Unit)
  | [] => (g, [])
  | call :: calls =>
    let (g', answer) := g.receive call
    let (last, answers) := extend g' calls
    (last, answer :: answers)

def nodeIds (g : Graph) : List NodeId := g.nodes.map Node.id

theorem nodeIds_eq_keys (g : Graph) : g.nodeIds = g.table.keys := by
  rw [nodeIds, nodes, Table.values, Table.keys, List.map_map]
  apply List.map_congr_left
  intro e he
  exact g.id_eq (Table.get?_eq_some_iff.2 he)

theorem contains_iff : g.contains id ↔ id ∈ g.nodeIds := by
  rw [nodeIds_eq_keys, Table.mem_keys_iff]
  rfl

theorem nodup_nodeIds (g : Graph) : g.nodeIds.Nodup := by
  rw [nodeIds_eq_keys]
  exact g.table.nodup_keys

theorem nodes_eq_filterMap (g : Graph) : g.nodes = g.nodeIds.filterMap g.node? := by
  rw [nodeIds_eq_keys]
  exact g.table.values_eq_filterMap

theorem node?_of_mem_nodes (h : n ∈ g.nodes) : g.node? n.id = some n := by
  obtain ⟨e, he, rfl⟩ := List.mem_map.1 h
  have hget : g.table.get? e.1 = some e.2 := Table.get?_eq_some_iff.2 he
  rw [g.id_eq hget]
  exact hget

theorem node?_eq_none_iff_notMem : g.node? id = none ↔ id ∉ g.nodeIds := by
  rw [node?, Table.get?_eq_none_iff, nodeIds_eq_keys]

inductive Received (g : Graph) : GraphCall → Graph × Except GraphError Unit → Prop
  | refused {call : GraphCall} {e : GraphError} (h : Refused g.nodeIds call e) :
    Received g call (g, .error e)
  | added {n : Node} {g' : Graph} (h : n.id ∉ g.nodeIds)
    (htable : g'.table = g.table.insert n.id n) : Received g (.addNode n) (g', .ok ())
  | linked {source : NodeId} {targets : Array NodeId} {g' : Graph} (h : source ∈ g.nodeIds)
    (htable : g'.table = g.table.modify source (·.addEdge targets)) :
    Received g (.addEdge source targets) (g', .ok ())

theorem received (g : Graph) (call : GraphCall) : Received g call (g.receive call) := by
  cases call with
  | addNode n =>
    rw [receive, accept, addNode]
    by_cases h : g.contains n.id
    · rw [if_pos h]
      exact .refused (.duplicateNode (contains_iff.1 h))
    · rw [if_neg h]
      exact .added (fun hknown => h (contains_iff.2 hknown)) rfl
  | addEdge source targets =>
    rw [receive, accept, addEdge]
    by_cases h : g.contains source
    · rw [if_pos h]
      exact .linked (contains_iff.1 h) rfl
    · rw [if_neg h]
      exact .refused (.missingNode fun hknown => h (contains_iff.2 hknown))

theorem answer_eq_error_iff (g : Graph) (call : GraphCall) (e : GraphError) :
    (g.receive call).2 = .error e ↔ Refused g.nodeIds call e := by
  have hreceived := g.received call
  generalize g.receive call = outcome at hreceived
  cases hreceived with
  | refused h =>
    constructor
    · rintro ⟨⟩
      exact h
    · intro h'
      cases h <;> cases h' <;> rfl
  | added h =>
    refine ⟨nofun, fun h' => ?_⟩
    cases h' with
    | duplicateNode hknown => exact absurd hknown h
  | linked h =>
    refine ⟨nofun, fun h' => ?_⟩
    cases h' with
    | missingNode hmissing => exact absurd h hmissing

theorem unchanged_of_refused (g : Graph) (call : GraphCall) {e : GraphError}
    (h : (g.receive call).2 = .error e) : (g.receive call).1 = g := by
  have hreceived := g.received call
  generalize g.receive call = outcome at h hreceived
  cases hreceived with
  | refused => rfl
  | added => cases h
  | linked => cases h

theorem node?_receive (g : Graph) (call : GraphCall) (id : NodeId) :
    (g.receive call).1.node? id = call.effect id (g.node? id) := by
  have hreceived := g.received call
  generalize g.receive call = outcome at hreceived
  cases hreceived with
  | refused h =>
    cases h with
    | @duplicateNode n h =>
      rw [effect]
      split
      · next hid =>
        subst hid
        obtain ⟨m, hm, hid⟩ := List.mem_map.1 h
        rw [← hid, node?_of_mem_nodes hm, Option.getD_some]
      · rfl
    | @missingNode source targets h =>
      rw [effect]
      split
      · next hid =>
        subst hid
        rw [node?_eq_none_iff_notMem.2 h, Option.map_none]
      · rfl
  | @added n g' h htable =>
    rw [node?, htable, effect]
    split
    · next hid =>
      subst hid
      rw [Table.get?_insert_self, node?_eq_none_iff_notMem.2 h, Option.getD_none]
    · next hid => exact Table.get?_insert_of_ne _ _ hid
  | @linked source targets g' h htable =>
    rw [node?, htable, effect]
    split
    · next hid =>
      subst hid
      exact Table.get?_modify_self _ _ _
    · next hid => exact Table.get?_modify_of_ne _ _ hid

theorem nodeIds_receive {ids : List NodeId} (h : g.nodeIds = ids.eraseDups) (call : GraphCall) :
    (g.receive call).1.nodeIds = (ids ++ call.addedId?.toList).eraseDups := by
  have hreceived := g.received call
  generalize g.receive call = outcome at hreceived
  cases hreceived with
  | refused hrefused =>
    cases hrefused with
    | duplicateNode hknown =>
      rw [h] at hknown
      rw [addedId?, Option.toList_some, eraseDups_concat, if_pos hknown, h]
    | missingNode => rw [addedId?, Option.toList_none, List.append_nil, h]
  | added _ htable =>
    rw [nodeIds_eq_keys] at h ⊢
    rw [htable]
    exact Table.keys_insert_of_eraseDups h _ _
  | linked _ htable =>
    rw [nodeIds_eq_keys] at h ⊢
    rw [htable, Table.keys_modify, h, addedId?, Option.toList_none, List.append_nil]

theorem extend_cons (g : Graph) (call : GraphCall) (calls : List GraphCall) :
    g.extend (call :: calls) = (((g.receive call).1.extend calls).1,
      (g.receive call).2 :: ((g.receive call).1.extend calls).2) := rfl

theorem extend_append (g : Graph) (calls later : List GraphCall) :
    g.extend (calls ++ later) = (((g.extend calls).1.extend later).1,
      (g.extend calls).2 ++ ((g.extend calls).1.extend later).2) := by
  induction calls generalizing g with
  | nil => rfl
  | cons call calls ih => simp [extend_cons, ih]

theorem length_answers (g : Graph) (calls : List GraphCall) :
    (g.extend calls).2.length = calls.length := by
  induction calls generalizing g with
  | nil => rfl
  | cons call calls ih => simp [extend_cons, ih]

theorem node?_extend (g : Graph) (calls : List GraphCall) (id : NodeId) :
    (g.extend calls).1.node? id =
      calls.foldl (fun node? call => call.effect id node?) (g.node? id) := by
  induction calls generalizing g with
  | nil => rfl
  | cons call calls ih => rw [extend_cons, ih, node?_receive, List.foldl_cons]

theorem nodeIds_extend (g : Graph) (calls : List GraphCall) :
    (g.extend calls).1.nodeIds = (g.nodeIds ++ addedIds calls).eraseDups := by
  have hrun {g : Graph} {ids : List NodeId} (h : g.nodeIds = ids.eraseDups) :
      (g.extend calls).1.nodeIds = (ids ++ addedIds calls).eraseDups := by
    induction calls generalizing g ids with
    | nil => simpa [addedIds, extend] using h
    | cons call calls ih =>
      have hids : addedIds (call :: calls) = call.addedId?.toList ++ addedIds calls := by
        cases hid : call.addedId? <;> simp [addedIds, hid]
      rw [extend_cons, ih (nodeIds_receive h call), hids, List.append_assoc]
  exact hrun (eraseDups_of_nodup g.nodup_nodeIds).symm

theorem mem_nodeIds_extend (g : Graph) (calls : List GraphCall) (id : NodeId) :
    id ∈ (g.extend calls).1.nodeIds ↔ id ∈ g.nodeIds ++ addedIds calls := by
  rw [nodeIds_extend, List.mem_eraseDups]

theorem node?_extend_of_added {before after : List GraphCall}
    (hnew : n.id ∉ g.nodeIds ++ addedIds before) :
    (g.extend (before ++ .addNode n :: after)).1.node? n.id = some (n.extended after) := by
  have hnone : (g.extend before).1.node? n.id = none := by
    rw [node?_eq_none_iff_notMem, mem_nodeIds_extend]
    exact hnew
  have hadded : (GraphCall.addNode n).effect n.id none = some n := if_pos rfl
  rw [extend_append, extend_cons, node?_extend, node?_receive, hnone, hadded, foldl_effect_some]

section OfNodes
variable {ns : List Node}

theorem addNode_of_notMem (h : n.id ∉ g.nodeIds) :
    ∃ g', g.addNode n = .ok g' ∧ g'.nodes = g.nodes ++ [n] := by
  have hcontains : ¬g.contains n.id := mt contains_iff.1 h
  refine ⟨_, if_neg hcontains, ?_⟩
  rw [nodes, Table.values, Table.toList_insert_of_not_contains _ hcontains, List.map_append]
  rfl

theorem addNode_of_mem (h : n.id ∈ g.nodeIds) : g.addNode n = .error (.duplicateNode n.id) :=
  if_pos (contains_iff.2 h)

theorem foldlM_addNode (h : (g.nodeIds ++ ns.map Node.id).Nodup) :
    ∃ g', ns.foldlM addNode g = .ok g' ∧ g'.nodes = g.nodes ++ ns := by
  induction ns generalizing g with
  | nil => exact ⟨g, rfl, (List.append_nil _).symm⟩
  | cons n ns ih =>
    have hnew : n.id ∉ g.nodeIds := fun hmem =>
      (List.nodup_append.1 h).2.2 _ hmem _ List.mem_cons_self rfl
    obtain ⟨g₁, hadd, hnodes⟩ := addNode_of_notMem hnew
    have hids : g₁.nodeIds ++ ns.map Node.id = g.nodeIds ++ (n :: ns).map Node.id := by
      simp [nodeIds, hnodes]
    obtain ⟨g', hrest, hnodes'⟩ := ih (hids ▸ h)
    refine ⟨g', ?_, ?_⟩
    · rw [List.foldlM_cons, hadd]
      exact hrest
    · rw [hnodes', hnodes, List.append_assoc]
      rfl

theorem ofNodes_of_nodup (h : (ns.map Node.id).Nodup) : ∃ g, ofNodes ns = .ok g ∧ g.nodes = ns :=
  foldlM_addNode (g := ∅) h

theorem ofNodes_of_repeated {before after : List Node} (h : (before.map Node.id).Nodup)
    (hmem : n.id ∈ before.map Node.id) :
    ofNodes (before ++ n :: after) = .error (.duplicateNode n.id) := by
  obtain ⟨g, hbefore, hnodes⟩ := ofNodes_of_nodup h
  have hknown : n.id ∈ g.nodeIds := by rwa [nodeIds, hnodes]
  rw [ofNodes] at hbefore ⊢
  rw [List.foldlM_append, hbefore]
  exact congrArg (· >>= fun g => after.foldlM addNode g) (addNode_of_mem hknown)

theorem nodup_or_repeated (ns : List Node) : (ns.map Node.id).Nodup ∨
    ∃ before n after, ns = before ++ n :: after ∧ (before.map Node.id).Nodup ∧
      n.id ∈ before.map Node.id := by
  induction ns using List.reverseRecOn with
  | nil => exact .inl .nil
  | append_singleton ns n ih =>
    rcases ih with hnodup | ⟨before, m, after, rfl, hnodup, hmem⟩
    · by_cases hmem : n.id ∈ ns.map Node.id
      · exact .inr ⟨ns, n, [], rfl, hnodup, hmem⟩
      · left
        rw [List.map_append]
        exact hnodup.append (List.nodup_singleton _) (by simpa using hmem)
    · exact .inr ⟨before, m, after ++ [n], by simp, hnodup, hmem⟩

theorem ofNodes_eq_ok_iff : (∃ g, ofNodes ns = .ok g) ↔ (ns.map Node.id).Nodup := by
  constructor
  · rintro ⟨g, hok⟩
    rcases nodup_or_repeated ns with hnodup | ⟨before, n, after, rfl, hnodup, hmem⟩
    · exact hnodup
    · rw [ofNodes_of_repeated hnodup hmem] at hok
      cases hok
  · intro h
    obtain ⟨g, hok, _⟩ := ofNodes_of_nodup h
    exact ⟨g, hok⟩

theorem ofNodes_eq_error_iff {e : GraphError} : ofNodes ns = .error e ↔
    ∃ before n after, ns = before ++ n :: after ∧ (before.map Node.id).Nodup ∧
      n.id ∈ before.map Node.id ∧ e = .duplicateNode n.id := by
  constructor
  · intro herror
    rcases nodup_or_repeated ns with hnodup | ⟨before, n, after, rfl, hnodup, hmem⟩
    · obtain ⟨g, hok, _⟩ := ofNodes_of_nodup hnodup
      rw [hok] at herror
      cases herror
    · rw [ofNodes_of_repeated hnodup hmem] at herror
      exact ⟨before, n, after, rfl, hnodup, hmem, (Except.error.inj herror).symm⟩
  · rintro ⟨before, n, after, rfl, hnodup, hmem, rfl⟩
    exact ofNodes_of_repeated hnodup hmem

end OfNodes

/-- Calls extend a graph as their history says. A call is refused exactly if it adds a node that is
there or an edge from a node that is not, and then nothing changes, also when it is made bit by bit.
In the end the graph has the nodes that it had and those that were added, each once, in the order of
their first addition; a node is what it was when it was added first, with the edges of the later
calls from it behind its own; and it depends on the calls about it alone. A list of nodes makes a
graph exactly if their identities differ, and else the first of them that repeats an earlier one is
reported. -/
theorem holds_history :
    (∀ (g : Graph) (calls : List GraphCall),
      let g' := (g.extend calls).1
      (∀ before call after, calls = before ++ call :: after →
        let earlier := (g.extend before).1
        let known := g.nodeIds ++ addedIds before
        (g.extend calls).2[before.length]? = some (earlier.receive call).2 ∧
        (∀ e, (earlier.receive call).2 = .error e ↔ Refused known call e) ∧
        Action.perform earlier (Action.ofCall call) = earlier.receive call ∧
        (∀ e, Refused known call e →
          Action.perform earlier (Action.ofCall call) = (earlier, .error e)) ∧
        (∀ e, (earlier.receive call).2 = .error e →
          (g.extend (before ++ [call])).1 = earlier)) ∧
      g'.nodes = (g.nodeIds ++ addedIds calls).eraseDups.filterMap g'.node? ∧
      g'.nodes.map Node.id = (g.nodeIds ++ addedIds calls).eraseDups ∧
      (∀ n ∈ g.nodes, g'.node? n.id = some (n.extended calls)) ∧
      (∀ before n after, calls = before ++ .addNode n :: after →
        n.id ∉ g.nodeIds ++ addedIds before →
        g'.node? n.id = some (n.extended after) ∧
        (g'.outgoing n.id).toList = n.edges.toList ++ edgesFrom n.id after) ∧
      (∀ id, id ∉ g.nodeIds ++ addedIds calls → g'.node? id = none) ∧
      (∀ id, (g.extend (calls.filter (·.subject = id))).1.node? id = g'.node? id)) ∧
    (∀ ns : List Node,
      ((∃ g, ofNodes ns = .ok g) ↔ (ns.map Node.id).Nodup) ∧
      (∀ g, ofNodes ns = .ok g → g.nodes = ns) ∧
      (∀ e, ofNodes ns = .error e ↔
        ∃ before n after, ns = before ++ n :: after ∧ (before.map Node.id).Nodup ∧
          n.id ∈ before.map Node.id ∧ e = .duplicateNode n.id)) := by
  refine ⟨fun g calls => ⟨?_, ?_, nodeIds_extend g calls, ?_, ?_, ?_, ?_⟩, fun ns =>
    ⟨ofNodes_eq_ok_iff, ?_, fun e => ofNodes_eq_error_iff⟩⟩
  · rintro before call after rfl earlier known
    have hanswer (e : GraphError) :
        (earlier.receive call).2 = .error e ↔ Refused known call e := by
      have hknown := mem_nodeIds_extend g before
      rw [answer_eq_error_iff]
      exact ⟨.congr hknown, .congr fun id => (hknown id).symm⟩
    refine ⟨?_, hanswer, perform_ofCall earlier call, ?_, ?_⟩
    · rw [extend_append, extend_cons, ← length_answers g before,
        List.getElem?_append_right (Nat.le_refl _), Nat.sub_self]
      rfl
    · intro e hrefused
      have herror := (hanswer e).2 hrefused
      rw [perform_ofCall]
      exact Prod.ext (unchanged_of_refused earlier call herror) herror
    · intro e he
      rw [extend_append]
      exact unchanged_of_refused earlier call he
  · rw [← nodeIds_extend]
    exact nodes_eq_filterMap _
  · intro n hn
    rw [node?_extend, node?_of_mem_nodes hn, foldl_effect_some]
  · rintro before n after rfl hnew
    have hnode : _ = some (n.extended after) := node?_extend_of_added hnew
    refine ⟨hnode, ?_⟩
    rw [outgoing, hnode]
    simp [Node.extended]
  · intro id hid
    rw [node?_eq_none_iff_notMem, mem_nodeIds_extend]
    exact hid
  · intro id
    rw [node?_extend, node?_extend, foldl_effect_filter]
  · intro g hok
    obtain ⟨g', hok', hnodes⟩ := ofNodes_of_nodup (ofNodes_eq_ok_iff.1 ⟨g, hok⟩)
    rw [hok] at hok'
    cases hok'
    exact hnodes

end Graph

end ArtifactResolution
