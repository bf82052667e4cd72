import ArtifactResolution.Proofs.ArtifactCollector.Admission
import ArtifactResolution.Proofs.ArtifactCollector.Stepwise

namespace ArtifactResolution
set_option autoImplicit false

open Callback

theorem SortOrder.nodes_of_starts {order : SortOrder} {done : List Callback}
    {walks : List (Graph × NodeId)} (horder : order ≠ .default)
    (hstarts : starts done = walks.take 1) :
    order.nodes done = walks.head?.elim [] fun walk => walk.1.sort walk.2 order := by
  have hdefault : order.isDefault = false := by simpa [SortOrder.isDefault] using horder
  rw [SortOrder.nodes, hdefault, hstarts]
  cases walks <;> rfl

namespace ArtifactCollector
variable {c : ArtifactCollector} {callback : Callback} {node : NodeId} {set : ArtifactSet}
  {e : CollectorError} {order : SortOrder} {told done : List Callback}

/-- Why a callback is refused that comes after those told. A collection is started only once; if it
sorts its nodes, then sets can be delivered only after the start, and only for the nodes that are
sorted. -/
inductive Refused (order : SortOrder) (told : List Callback) : Callback → CollectorError → Prop
  | alreadyStarted {graph : Graph} {root : NodeId} (hstarts : starts told ≠ []) :
      Refused order told (.start graph root) .alreadyStarted
  | notStarted {callback : Callback} {node : NodeId} {set : ArtifactSet}
      (horder : order ≠ .default) (hdelivery : callback.delivery? = some (node, set))
      (hstarts : starts told = []) : Refused order told callback .notStarted
  | unsortedNode {callback : Callback} {node : NodeId} {set : ArtifactSet} {graph : Graph}
      {root : NodeId} (horder : order ≠ .default)
      (hdelivery : callback.delivery? = some (node, set))
      (hstart : (starts told).head? = some (graph, root)) (hnode : node ∉ graph.sort root order) :
      Refused order told callback (.unsortedNode node)

theorem receive_eq_error_iff :
    (Visitor.receive c callback).2 = .error e ↔ c.accept callback = .error e := by
  rw [receive_eq_settle]
  cases c.accept callback <;> simp [Action.settle]

theorem receive_of_not_isOk (c : ArtifactCollector) (callback : Callback)
    (h : (Visitor.receive c callback).2.isOk = false) : (Visitor.receive c callback).1 = c := by
  rw [receive_eq_settle] at h ⊢
  cases haccept : c.accept callback with
  | ok c' =>
    rw [haccept] at h
    cases h
  | error e => rfl

theorem group_eq_error_iff : c.group node = .error e ↔ c.order ≠ .default ∧
    (c.started = false ∧ e = .notStarted ∨
      c.started ∧ node ∉ c.groups.keys ∧ e = .unsortedNode node) := by
  rw [group, ← Table.get?_eq_none_iff]
  cases hdefault : c.order.isDefault with
  | true =>
    have horder : c.order = .default := by simpa [SortOrder.isDefault] using hdefault
    simp [horder]
  | false =>
    have horder : c.order ≠ .default := by simpa [SortOrder.isDefault] using hdefault
    cases c.started with
    | false => simpa [horder] using eq_comm
    | true =>
      cases c.groups.get? node with
      | none => simpa [horder] using eq_comm
      | some ids => simp

theorem accept_eq_error_iff_of_delivery (h : callback.delivery? = some (node, set)) :
    c.accept callback = .error e ↔ c.group node = .error e := by
  cases callback with
  | start => cases h
  | visitNode source target set =>
    cases h
    rw [accept, map_eq_error_iff, record, map_eq_error_iff]
  | visitFile source dependency set =>
    cases h
    rw [accept, map_eq_error_iff, record, map_eq_error_iff]
  | finish => cases h

theorem start_eq_error_iff {graph : Graph} {root : NodeId} :
    c.start graph root = .error e ↔ c.started ∧ e = .alreadyStarted := by
  rw [start]
  cases c.started with
  | true => simp [eq_comm]
  | false => cases c.order.isDefault <;> simp

theorem Collected.started_iff (hc : c.Collected done) : c.started ↔ starts done ≠ [] := by
  rw [← List.length_pos_iff, hc.starts_eq]
  cases c.started <;> simp

theorem admits_start {walk : Graph × NodeId} (h : callback.start? = some walk) :
    c.admits callback = !c.started := by
  cases callback with
  | start => rfl
  | visitNode => cases h
  | visitFile => cases h
  | finish => cases h

theorem starts_accepted (buildProjects : Bool) (order : SortOrder) (cs : List Callback) :
    let fresh : ArtifactCollector := { buildProjects, order }
    starts (Visitor.accepted fresh cs) = (starts cs).take 1 := by
  intro fresh
  induction cs using List.reverseRecOn with
  | nil => rfl
  | append_singleton cs callback ih =>
    have hstarted : (Visitor.run fresh cs).1.started ↔ starts cs ≠ [] := by
      rw [(Collected.run buildProjects order cs).started_iff, ih]
      simp
    rw [Visitor.accepted_append, Visitor.accepted_singleton, isOk_receive, starts_concat]
    cases hstart : callback.start? with
    | none =>
      rw [Option.toList_none, List.append_nil, ← ih]
      split
      · exact starts_concat_of_none hstart
      · rw [List.append_nil]
    | some walk =>
      rw [admits_start hstart]
      cases hearlier : starts cs with
      | nil =>
        have hfresh : (Visitor.run fresh cs).1.started = false := by
          simpa [hearlier] using hstarted
        rw [hfresh, Bool.not_false, if_pos rfl, starts_concat, ih, hearlier, hstart]
        rfl
      | cons first rest =>
        have hunderway : (Visitor.run fresh cs).1.started = true := by
          simp [hstarted, hearlier]
        rw [hunderway, Bool.not_true, if_neg Bool.false_ne_true, List.append_nil, ih, hearlier]
        rfl

theorem refused_start_iff {graph : Graph} {root : NodeId} :
    Refused order told (.start graph root) e ↔ starts told ≠ [] ∧ e = .alreadyStarted := by
  constructor
  · intro h
    cases h with
    | alreadyStarted hstarts => exact ⟨hstarts, rfl⟩
    | notStarted _ hdelivery => cases hdelivery
    | unsortedNode _ hdelivery => cases hdelivery
  · rintro ⟨hstarts, rfl⟩
    exact .alreadyStarted hstarts

theorem refused_visit_iff (hdelivery : callback.delivery? = some (node, set)) :
    Refused order told callback e ↔ order ≠ .default ∧
      (starts told = [] ∧ e = .notStarted ∨
        starts told ≠ [] ∧
          (node ∉ (starts told).head?.elim [] fun walk => walk.1.sort walk.2 order) ∧
          e = .unsortedNode node) := by
  constructor
  · intro h
    cases h with
    | alreadyStarted => cases hdelivery
    | notStarted horder _ hstarts => exact ⟨horder, .inl ⟨hstarts, rfl⟩⟩
    | unsortedNode horder hdelivery' hstart hnode =>
      cases hdelivery.symm.trans hdelivery'
      refine ⟨horder, .inr ⟨?_, ?_, rfl⟩⟩
      · rintro hnone
        simp [hnone] at hstart
      · rwa [hstart]
  · rintro ⟨horder, ⟨hstarts, rfl⟩ | ⟨hstarts, hnode, rfl⟩⟩
    · exact .notStarted horder hdelivery hstarts
    · obtain ⟨walk, hstart⟩ := Option.ne_none_iff_exists'.1 (mt List.head?_eq_none_iff.1 hstarts)
      rw [hstart] at hnode
      exact .unsortedNode horder hdelivery hstart hnode

theorem not_refused_finish : ¬Refused order told .finish e := by
  intro h
  cases h with
  | notStarted _ hdelivery => cases hdelivery
  | unsortedNode _ hdelivery => cases hdelivery

theorem answer_iff_refused (buildProjects : Bool) (order : SortOrder) (told : List Callback)
    (callback : Callback) (e : CollectorError) :
    let fresh : ArtifactCollector := { buildProjects, order }
    (Visitor.receive (Visitor.run fresh told).1 callback).2 = .error e ↔
      Refused order told callback e := by
  intro fresh
  have hc := Collected.run buildProjects order told
  have hstarts := starts_accepted buildProjects order told
  have hstarted : (Visitor.run fresh told).1.started ↔ starts told ≠ [] := by
    rw [hc.started_iff, hstarts]
    simp
  rw [receive_eq_error_iff]
  cases hdelivery : callback.delivery? with
  | some delivery =>
    obtain ⟨node, set⟩ := delivery
    rw [accept_eq_error_iff_of_delivery hdelivery, group_eq_error_iff, refused_visit_iff hdelivery,
      ← Bool.not_eq_true, hstarted, not_not, order_run, hc.keys_eq, order_run]
    apply and_congr_right
    intro horder
    rw [SortOrder.nodes_of_starts horder hstarts]
  | none =>
    cases callback with
    | start graph root => rw [accept, start_eq_error_iff, refused_start_iff, hstarted]
    | visitNode => cases hdelivery
    | visitFile => cases hdelivery
    | finish => simp [accept, not_refused_finish]

/-- In every state that a collection reaches, a callback is refused exactly for one of the reasons
given, and of all starts the first is the accepted one. A refusal comes before the callback changes
anything. So the refused callbacks can be left out of what is told: the others are answered as
before, and the collection comes to the same state. -/
theorem refuses_exactly (buildProjects : Bool) (order : SortOrder) (told : List Callback) :
    let fresh : ArtifactCollector := { buildProjects, order }
    let reached := (Visitor.run fresh told).1
    (∀ callback e, (Visitor.receive reached callback).2 = .error e ↔
      Refused order told callback e) ∧
    starts (Visitor.accepted fresh told) = (starts told).take 1 ∧
    (∀ callback, Action.perform reached (Action.ofCallback order callback) =
      Visitor.receive reached callback) ∧
    (∀ callback e, Refused order told callback e →
      Action.perform reached (Action.ofCallback order callback) = (reached, .error e)) ∧
    Visitor.run fresh (Visitor.accepted fresh told) =
      (reached, (Visitor.run fresh told).2.filter (·.isOk)) := by
  intro fresh reached
  have hanswer := answer_iff_refused buildProjects order told
  have hperform (callback : Callback) :
      Action.perform reached (Action.ofCallback order callback) =
        Visitor.receive reached callback := by
    rw [← perform_ofCallback, order_run]
  refine ⟨hanswer, starts_accepted buildProjects order told, hperform, ?_, ?_⟩
  · intro callback e hrefused
    have herror := (hanswer callback e).2 hrefused
    have hkept := receive_of_not_isOk reached callback (by rw [herror]; rfl)
    rw [hperform]
    exact Prod.ext hkept herror
  · exact Visitor.run_accepted receive_of_not_isOk fresh told

end ArtifactCollector

end ArtifactResolution
