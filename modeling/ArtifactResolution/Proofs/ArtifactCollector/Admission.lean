import ArtifactResolution.Proofs.ArtifactCollector.Collected

namespace ArtifactResolution.ArtifactCollector
set_option autoImplicit false

variable {c c' : ArtifactCollector} {callback : Callback} {node : NodeId} {set : ArtifactSet}

/-- By default sets are recorded for every node; in any other order only after the start, and only
for the nodes of the order. -/
def admitsNode (c : ArtifactCollector) (node : NodeId) : Bool :=
  c.order.isDefault || c.started && c.groups.contains node

def admits (c : ArtifactCollector) : Callback → Bool
  | .start .. => !c.started
  | .visitNode _ target _ => c.admitsNode target.id
  | .visitFile source _ _ => c.admitsNode source.id
  | .finish => true

theorem admits_of_delivery (h : callback.delivery? = some (node, set)) :
    c.admits callback = c.admitsNode node := by
  cases callback with
  | start => cases h
  | visitNode =>
    cases h
    rfl
  | visitFile =>
    cases h
    rfl
  | finish => cases h

theorem start?_of_admits (hstarted : c.started) (h : c.admits callback) :
    callback.start? = none := by
  cases callback with
  | start =>
    rw [admits, hstarted] at h
    cases h
  | visitNode => rfl
  | visitFile => rfl
  | finish => rfl

theorem isOk_group (c : ArtifactCollector) (node : NodeId) :
    (c.group node).isOk = c.admitsNode node := by
  rw [group, admitsNode]
  cases c.order.isDefault with
  | true => rfl
  | false =>
    cases c.started with
    | false => rfl
    | true =>
      rw [Table.contains_eq_isSome_get?]
      cases c.groups.get? node with
      | none => rfl
      | some ids => rfl

theorem isOk_accept (c : ArtifactCollector) (callback : Callback) :
    (c.accept callback).isOk = c.admits callback := by
  cases callback with
  | start graph root =>
    rw [accept, start, admits]
    cases c.started with
    | true => rfl
    | false => cases c.order.isDefault <;> rfl
  | visitNode source target set => rw [accept, isOk_map, record, isOk_map, isOk_group, admits]
  | visitFile source dependency set => rw [accept, isOk_map, record, isOk_map, isOk_group, admits]
  | finish => rfl

theorem isOk_receive (c : ArtifactCollector) (callback : Callback) :
    (Visitor.receive c callback).2.isOk = c.admits callback := by
  rw [← isOk_accept]
  cases h : c.accept callback with
  | error e =>
    rw [receive_of_refuse h]
    rfl
  | ok c' =>
    rw [receive_of_accept h]
    rfl

theorem admits_congr (horder : c'.order = c.order) (hstarted : c'.started = c.started)
    (hplace : c.order.isDefault ∨ c'.groups.keys = c.groups.keys) : c'.admits = c.admits := by
  have hnode (node : NodeId) : c'.admitsNode node = c.admitsNode node := by
    rw [admitsNode, admitsNode, horder, hstarted]
    rcases hplace with hdefault | hkeys
    · simp [hdefault]
    · have hcontains : c'.groups.contains node = c.groups.contains node := by
        rw [Bool.eq_iff_iff, ← Table.mem_keys_iff, ← Table.mem_keys_iff, hkeys]
      rw [hcontains]
  funext callback
  cases callback with
  | start => exact congrArg not hstarted
  | visitNode source target set => exact hnode target.id
  | visitFile source dependency set => exact hnode source.id
  | finish => rfl

theorem Change.admits_eq (h : c.Change callback c') (hstarted : c.started) :
    c'.started ∧ c'.admits = c.admits := by
  cases h with
  | started hstart =>
    obtain ⟨hfresh, _⟩ := of_start_eq_ok hstart
    rw [hfresh] at hstarted
    cases hstarted
  | visited buildable _ hrecord =>
    obtain ⟨ids, hgroup, rfl⟩ := of_record_eq_ok hrecord
    obtain ⟨_, hplace⟩ := of_group_eq_ok hgroup
    exact ⟨hstarted, admits_congr rfl rfl (hplace.imp id (Table.keys_insert_of_mem _))⟩
  | finished => exact ⟨hstarted, rfl⟩

theorem receive_admits_eq (hstarted : c.started) (callback : Callback) :
    (Visitor.receive c callback).1.started ∧
      (Visitor.receive c callback).1.admits = c.admits := by
  cases h : c.accept callback with
  | error e =>
    rw [receive_of_refuse h]
    exact ⟨hstarted, rfl⟩
  | ok c' =>
    rw [receive_of_accept h]
    exact (Change.of_accept h).admits_eq hstarted

theorem run_admits_eq (hstarted : c.started) (cs : List Callback) :
    (Visitor.run c cs).1.started ∧ (Visitor.run c cs).1.admits = c.admits := by
  induction cs generalizing c with
  | nil => exact ⟨hstarted, rfl⟩
  | cons callback cs ih =>
    obtain ⟨hstarted', hadmits⟩ := receive_admits_eq hstarted callback
    obtain ⟨hlast, hlast'⟩ := ih hstarted'
    exact ⟨hlast, hlast'.trans hadmits⟩

theorem accepted_eq_filter (hstarted : c.started) (cs : List Callback) :
    Visitor.accepted c cs = cs.filter c.admits := by
  -- The sequence grows at its end, where the state still admits what it admitted at first.
  induction cs using List.reverseRecOn with
  | nil => rfl
  | append_singleton cs callback ih =>
    rw [Visitor.accepted_append, Visitor.accepted_singleton, isOk_receive, ih,
      (run_admits_eq hstarted cs).2, List.filter_append, List.filter_singleton]
    cases c.admits callback <;> rfl

end ArtifactResolution.ArtifactCollector
