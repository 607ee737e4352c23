import Astronomer.Agent.DeletionStages

/-!
# What the checkpoint records may be pruned

`BeginDeletion` checks every recorded identity against the boundary of the accepted
assignment before it touches one. The identities that an assignment materializes pass
that check, so what the agent has recorded in a run always does.
-/

namespace Astronomer.Agent

open List Effect
open Delivery (Time)

section

variable {cfg : Config} {now : Time} {a : Assignment} {m : Materialization} {t : Deletion}
  {s : Snapshot} {capabilities : Capabilities} {r r' : Runtime} {i : ObjectIdentity} {p : Parsers}
  {policy : ValidationPolicy} {c : Checkpoint}

/-! ## The identities of a materialization -/

theorem ne_of_hasPrefix {u v w} (h : hasPrefix u v = false) : v ++ w ≠ u := by
  rintro rfl
  have hp : v.toList.isPrefixOf (v ++ w).toList := by
    rw [List.isPrefixOf_iff_prefix, String.toList_append]
    exact prefix_append _ _
  rw [hasPrefix, hp] at h
  cases h

theorem ne_empty_of_validDNSLabel {n} (h : validDNSLabel n) : n ≠ "" := by
  rintro rfl
  revert h
  decide

theorem targetNamespace_of_validate (h : a.validate p = .ok ()) : a.targetNamespace ≠ "" := by
  simp only [Assignment.validate, bind_eq_ok] at h
  obtain ⟨_, -, _, -, _, -, _, -, _, hr, -⟩ := h
  unfold Renderer.validate at hr
  split at hr
  · simp only [bind_eq_ok, require_eq_ok, orError_eq_ok, Bool.and_eq_true] at hr
    obtain ⟨config, hc, _, ⟨htg, -⟩, -⟩ := hr
    split at hc
    · rw [Assignment.targetNamespace, rendererBoundary, hc]
      exact ne_empty_of_validDNSLabel htg
    · cases hc
  · simp only [bind_eq_ok, require_eq_ok, orError_eq_ok, Bool.and_eq_true] at hr
    obtain ⟨config, hc, _, ⟨⟨-, htg⟩, -⟩, -⟩ := hr
    split at hc
    next hn =>
      rw [Assignment.targetNamespace, rendererBoundary, Option.isNone_iff_eq_none.mp hn, hc]
      exact ne_empty_of_validDNSLabel htg
    · cases hc

theorem controlNamespace_ne_empty : a.names.controlNamespace ≠ "" := by
  have hnm : a.names.controlNamespace = "astronomer-delivery-p-" ++ projectHash a.projectID := rfl
  rw [hnm]
  intro h
  have hl := congrArg String.toList h
  rw [String.toList_append] at hl
  simp at hl

theorem clusterRoleBinding_of_mem {x} (h : buildAssignment p capabilities policy a = .ok m)
    (hx : x ∈ m.objects) (hk : x.1.kind = .clusterRoleBinding) :
    x.1 = ⟨.clusterRoleBinding, "", a.names.applier⟩ := by
  obtain ⟨auth, trust, reconciler, hr, hs⟩ := objects_sublist h
  obtain ⟨kind, hrc, hid, -⟩ := reconcilerObject_identity hr
  have hx := hs.subset hx
  simp only [mem_cons, not_mem_nil, or_false] at hx
  rcases hx with rfl | rfl | rfl | rfl | rfl | rfl | rfl | rfl | rfl
  case inr.inr.inr.inr.inr.inr.inl => rfl
  case inr.inr.inr.inr.inr.inr.inr.inl =>
    have hsr : (sourceResource a.source.kind).isSource := isSource_sourceResource
    have hk : sourceResource a.source.kind = .clusterRoleBinding := hk
    rw [hk] at hsr
    cases hsr
  case inr.inr.inr.inr.inr.inr.inr.inr =>
    rw [hid] at hk
    have hk : kind = .clusterRoleBinding := hk
    rw [hk] at hrc
    cases hrc
  all_goals cases hk

theorem validatePruneIdentity_of_built {x} (h : buildAssignment p capabilities policy a = .ok m)
    (hx : x ∈ m.objects) (hk : x.1.kind ≠ .namespaceKind) :
    validatePruneIdentity a.boundary m x.1 = .ok () := by
  obtain ⟨hv, hc, htg, -⟩ := buildAssignment_eq_ok h
  have hcv := covers_of_mem_objects h hx hk
  have hnm : (names a.projectID a.deploymentID).ofDeployment.contains x.1.name := by
    rcases objects_for h x hx with ⟨hns, -⟩ | ⟨-, hof, -⟩
    · exact absurd hns hk
    · exact contains_iff_mem.mpr ((ObjectIdentity.of_iff a.projectID).mp hof)
  simp only [validateAssignment, bind_eq_ok, wrap_eq_ok, require_eq_ok, Bool.and_eq_true] at hv
  obtain ⟨_, hp, _, -, _, -, _, -, _, -, _, ⟨-, hr⟩, -⟩ := hv
  have ht : a.targetNamespace ≠ "" := targetNamespace_of_validate hp
  have ha : a.names.controlNamespace ≠ a.targetNamespace := ne_of_hasPrefix (by simpa using hr)
  have hb := clusterRoleBinding_of_mem h hx
  obtain ⟨⟨kind, ns, name⟩, content⟩ := x
  have hcn : a.names.controlNamespace ≠ "" := controlNamespace_ne_empty
  simp only [validatePruneIdentity, bind_eq_ok, require_eq_ok]
  refine ⟨(), ?_, (), hnm, ?_⟩
  · cases kind with
    | namespaceKind => exact absurd rfl hk
    | clusterRoleBinding => exact hcv
    | _ => rfl
  · cases kind with
    | namespaceKind => exact absurd rfl hk
    | clusterRoleBinding =>
      obtain ⟨-, rfl, rfl⟩ := ObjectIdentity.mk.inj (hb rfl)
      rw [if_pos (by decide), require_eq_ok, Bool.and_eq_true, Bool.and_eq_true]
      exact ⟨⟨hcv, rfl⟩, beq_self_eq_true _⟩
    | role | roleBinding =>
      obtain rfl : ns = a.targetNamespace := beq_iff_eq.mp hcv
      simp [ht, htg]
    | _ =>
      obtain rfl : ns = a.names.controlNamespace := beq_iff_eq.mp hcv
      simp [hcn, hc, htg, ha]

/-! ## The records of a run -/

def Checkpoint.Prunable (c : Checkpoint) : Prop := ∀ x ∈ c.assignments, x.Prunable

theorem acceptAssignment_prunable (h : buildAssignment p capabilities policy a = .ok m) :
    (acceptAssignment a m).Prunable := by
  intro i hi hk
  have hmem : i ∈ m.objects.map Prod.fst :=
    mem_dedup.mp ((perm_insertionSort _ _).mem_iff.mp hi)
  obtain ⟨x, hx, rfl⟩ := mem_map.mp hmem
  show validatePruneIdentity a.boundary m x.1 = .ok ()
  exact validatePruneIdentity_of_built h hx hk

theorem Checkpoint.Prunable.of_validate (h : validateCheckpoint c = .ok ()) : c.Prunable := by
  simp only [validateCheckpoint, bind_eq_ok, require_eq_ok] at h
  obtain ⟨_, -, _, -, h⟩ := h
  intro x hx i hi hk
  have ho := forM_eq_ok h x hx
  simp only [wrap_eq_ok, bind_eq_ok, require_eq_ok] at ho
  obtain ⟨_, -, _, -, _, -, ho⟩ := ho
  have hr := forM_eq_ok ho i hi
  simp only [validateRecorded, bind_eq_ok, require_eq_ok, if_neg hk] at hr
  obtain ⟨_, -, hr⟩ := hr
  exact hr

def Runtime.Prunable (r : Runtime) : Prop := r.checkpoint.Prunable ∧ r.stored.Prunable

theorem AssignmentOutcome.prunable {y} (hb : buildAssignment p capabilities policy a = .ok m)
    (h : AssignmentOutcome cfg a m r y r') (hr : r.Prunable) : r'.Prunable := by
  cases h with
  | regressed _ => exact hr
  | failed _ hbo =>
    rw [Runtime.Prunable, hbo.checkpoint, hbo.stored]
    exact hr
  | accepted =>
    refine ⟨fun x hx => ?_, hr.2⟩
    rcases mem_append.mp hx with hx | hx
    · exact hr.1 x (mem_of_mem_filter hx)
    · obtain rfl := mem_singleton.mp hx
      exact acceptAssignment_prunable hb

theorem DeletionOutcome.prunable {done} (h : DeletionOutcome cfg now t r done r') (hr : r.Prunable)
    : r'.Prunable := by
  cases h with
  | removed _ _ => exact ⟨fun x hx => hr.1 x (mem_of_mem_filter hx), hr.2⟩
  | _ => exact hr

theorem save_stored : (save c r).2.stored = r.stored ∨ (save c r).2.stored = c := by
  unfold save
  split
  · exact .inl rfl
  · split
    · exact .inr rfl
    · exact .inl rfl
    · exact .inr rfl

theorem FinishOutcome.prunable {complete y} (h : FinishOutcome s complete r y r') (hr : r.Prunable)
    : r'.Prunable := by
  have hc : (r.checkpoint.candidate complete s).Prunable := by
    cases complete <;> exact hr.1
  cases h with
  | saved _ hs => exact ⟨hc, (save_eq_ok hs).2 ▸ hc⟩
  | unsaved hs =>
    refine ⟨(checkpoint_of_save hs).symm ▸ hr.1, ?_⟩
    have hst := save_stored (c := r.checkpoint.candidate complete s) (r := r.dropUndesired s)
    rw [hs] at hst
    rcases hst with hst | hst
    · rw [hst]
      exact hr.2
    · rw [hst]
      exact hc

theorem Runtime.Prunable.step {e} (hr : r.Prunable) : (r.step cfg e).Prunable := by
  cases e with
  | finalize id => exact hr
  | restart => exact ⟨hr.2, hr.2⟩
  | snapshot now s capabilities faults saves =>
    refine processSnapshotBody_moves (R := Keeps Runtime.Prunable) (fun a _ m hb r => ?_)
      (fun t _ r => ?_) (fun complete r => ?_) (r.facing faults saves) hr
    · exact processAssignment_outcome.prunable hb
    · obtain ⟨done, r', hrn, ho⟩ := processDeletion_outcome cfg now t r
      rw [hrn]
      exact ho.prunable
    · exact (finishSnapshot_outcome s complete r).prunable

end

end Astronomer.Agent
