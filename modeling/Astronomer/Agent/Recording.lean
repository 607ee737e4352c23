import Astronomer.Agent.DeletionStages

/-!
# Histories that keep the record complete

`removed` is true when everything the deployment has is recorded. A history keeps it so when
an apply that created something is accepted in the same call, when a new assignment reaches
what the ones before it left, and when no restart falls back behind a lost save.
-/

namespace Astronomer.Agent

open List Effect
open Delivery (Time)

section

variable {cfg : Config} {cluster : Cluster} {now : Time} {a : Assignment} {m : Materialization}
  {t : Deletion} {s : Snapshot} {capabilities : Capabilities} {r r' r2 : Runtime}
  {pairs : List (Assignment × Materialization)} {d : String} {os os' : Objects}
  {ids : List ObjectIdentity} {p : Parsers} {policy : ValidationPolicy}

/-! ## A call as one deployment sees it -/

/-- The call passes the deployment by, or it is the iteration for its assignment or for its
tombstone, with nothing around it that concerns the deployment. -/
inductive Handles (cfg : Config) (now : Time) (s : Snapshot) (capabilities : Capabilities)
    (d : String) (r r' : Runtime) : Prop
  | spared (hspares : Spares d r r')
  | assigned {a : Assignment} {m : Materialization} {r1 r2 : Runtime} {y : Except Err Bool}
      (ha : a ∈ s.assignments) (hd : a.deploymentID = d)
      (hbuilt : buildAssignment cfg.parsers capabilities cfg.policy a = .ok m)
      (hbefore : Spares d r r1) (hrun : processAssignment cfg now a m r1 = (y, r2))
      (hafter : Spares d r2 r')
  | deleted {t : Deletion} {r1 r2 : Runtime} {done : Bool} (ht : t ∈ s.deletions)
      (hd : t.deploymentID = d) (hbefore : Spares d r r1)
      (hrun : processDeletion cfg now t r1 = (.ok done, r2)) (hafter : Spares d r2 r')

theorem Handles.of_spares (h : Handles cfg now s capabilities d r r') {r0 : Runtime}
    (hs : Spares d r0 r) : Handles cfg now s capabilities d r0 r' := by
  cases h with
  | spared h => exact .spared (trans_of (Spares d) hs h)
  | assigned ha hd hb hbf hr haf => exact .assigned ha hd hb (trans_of (Spares d) hs hbf) hr haf
  | deleted ht hd hbf hr haf => exact .deleted ht hd (trans_of (Spares d) hs hbf) hr haf

theorem Handles.then_spares (h : Handles cfg now s capabilities d r r') {r3 : Runtime}
    (hs : Spares d r' r3) : Handles cfg now s capabilities d r r3 := by
  cases h with
  | spared h => exact .spared (trans_of (Spares d) h hs)
  | assigned ha hd hb hbf hr haf => exact .assigned ha hd hb hbf hr (trans_of (Spares d) haf hs)
  | deleted ht hd hbf hr haf => exact .deleted ht hd hbf hr (trans_of (Spares d) haf hs)

theorem processAssignments_handles (hd : validUUID d)
    (hb : ∀ q ∈ pairs, buildAssignment cfg.parsers capabilities cfg.policy q.1 = .ok q.2)
    (hv : ∀ q ∈ pairs, q.1 ∈ s.assignments ∧ validUUID q.1.deploymentID)
    (hnd : (pairs.map fun q => q.1.deploymentID).Nodup) :
    Handles cfg now s capabilities d r (processAssignments cfg now pairs r).2 := by
  induction pairs generalizing r with
  | nil => exact .spared (refl_of (Spares d) r)
  | cons q pairs ih =>
    rw [forall_mem_cons] at hb hv
    rw [map_cons, nodup_cons] at hnd
    rcases ho : processAssignment cfg now q.1 q.2 r with ⟨y, r1⟩
    -- a refused assignment ends the loop
    have hrest : (processAssignments cfg now (q :: pairs) r).2 = r1 ∨
        (processAssignments cfg now (q :: pairs) r).2 =
          (processAssignments cfg now pairs r1).2 := by
      rw [processAssignments]
      cases y with
      | error err => exact .inl (by rw [bind_apply_error ho])
      | ok done =>
        rw [bind_apply_ok ho]
        rcases hl : processAssignments cfg now pairs r1 with ⟨err | rest, r2⟩
        · exact .inr (by rw [bind_apply_error hl])
        · exact .inr (by rw [bind_apply_ok hl]; rfl)
    by_cases hq : q.1.deploymentID = d
    · refine .assigned hv.1.1 hq hb.1 (refl_of (Spares d) r) ho ?_
      rcases hrest with hrest | hrest
      · rw [hrest]
        exact refl_of (Spares d) r1
      · rw [hrest]
        refine processAssignments_spares hd (fun q hq => objects_for (hb.2 q hq))
          (fun q hq => (hv.2 q hq).2) (fun q' hq' heq => ?_) r1
        exact hnd.1 (hq.trans heq ▸ mem_map_of_mem hq')
    · have hw := (processAssignment_writes (objects_for hb.1)).of_eq ho
      have hs : Spares d r r1 := ⟨fun o how => hw.own_iff hd hv.1.2 (Ne.symm hq) how,
        (AssignmentOutcome.of_eq ho).accepted_eq_of_ne (Ne.symm hq)⟩
      rcases hrest with hrest | hrest
      · rw [hrest]
        exact .spared hs
      · rw [hrest]
        exact (ih hb.2 hv.2 hnd.2).of_spares hs

theorem processSnapshotBody_handles (hd : validUUID d) :
    Handles cfg now s capabilities d r (processSnapshotBody cfg now s capabilities r).2 := by
  obtain ⟨y, hs, -⟩ | ⟨pairs, hrc⟩ := processSnapshotBody_cases cfg now s capabilities r
  · rw [hs]
    exact .spared (refl_of (Spares d) r)
  obtain ⟨hfs, hb⟩ := materializations_eq_ok hrc.graphs
  obtain ⟨-, hi, hdl⟩ := Snapshot.ids_of_validate (validate_of_validateSnapshot hrc.valid)
  have hha : Handles cfg now s capabilities d r (processAssignments cfg now pairs r).2 := by
    refine processAssignments_handles hd hb (fun q hq => ?_) hrc.nodup
    have hmem : q.1 ∈ s.assignments := hfs ▸ mem_map_of_mem hq
    exact ⟨hmem, hi q.1 hmem⟩
  rcases hass : processAssignments cfg now pairs r with ⟨err | applied, r1⟩
  · rw [hrc.stopped hass]
    rwa [hass] at hha
  by_cases ht : ∃ t ∈ s.deletions, t.deploymentID = d
  · obtain ⟨t, ht, rfl⟩ := ht
    obtain ⟨done, r2, r3, -, hbf, ho, haf⟩ := hrc.tombstone hass ht
    exact .deleted ht rfl hbf ho haf
  · obtain ⟨deleted, r2, hde⟩ := processDeletions_ok cfg now s.deletions r1
    have hsp := (processDeletions_spares hd hdl
      fun t' ht' heq => ht ⟨t', ht', heq.symm⟩).of_eq hde
    rw [hass] at hha
    rw [hrc.finished hass hde]
    exact hha.then_spares (trans_of (Spares d) hsp finishSnapshot_spares)

/-! ## What the calls of an assignment create -/

def Within (ids : List ObjectIdentity) (os os' : Objects) : Prop :=
  ∀ o ∈ os', o.id ∈ ids ∨ ∃ o0 ∈ os, o0.id = o.id

instance : IsPreorder Objects (Within ids) where
  refl _ o ho := .inr ⟨o, ho, rfl⟩
  trans _ _ _ h h' o ho := by
    rcases h' o ho with hid | ⟨o1, ho1, hid1⟩
    · exact .inl hid
    · exact hid1 ▸ h o1 ho1

theorem Within.put {x : Object} (hx : x.1 ∈ ids) : Within ids os (Server.put x.1 x.2 os) := by
  intro o ho
  rcases Server.mem_put.mp ho with rfl | ⟨ho, -⟩
  · exact .inl hx
  · exact .inr ⟨o, ho, rfl⟩

theorem Within.drop {hold i} : Within ids os (Server.drop hold i os) := by
  intro o ho
  obtain ⟨o0, ho0, hid, -⟩ := Shrinks.drop hold i o ho
  exact .inr ⟨o0, ho0, hid⟩

theorem processAssignment_within :
    Moves (Order.Preimage Runtime.kube (Order.Preimage Server.objects
      (Within (m.objects.map Prod.fst)))) (processAssignment cfg now a m) := by
  refine processAssignment_moves (apply_moves fun x hx => ?_)
    (listAll_moves fun k => refl_of (Within _) k.objects)
    fun _ _ _ => Moves.each fun i _ => Server.call_moves fun _ => Within.drop
  refine Moves.bind Moves.require fun _ => Server.call_moves fun os => ?_
  split
  · exact Within.put (mem_map_of_mem hx)
  · exact refl_of (Within _) os

/-! ## The accepted assignment -/

def Labelled (cluster : Cluster) (d : String) (os : Objects) : Prop :=
  ∀ o ∈ os, o.id.Own d → o.content.managedFor d ∧ cluster.served o.id.kind

theorem Labelled.of_writes (h : Labelled cluster d os) (hw : Writes cluster d os os') :
    Labelled cluster d os' := by
  intro o ho how
  rcases hw.inside o ho with ⟨o0, ho0, hid, hl⟩ | ⟨hsr, hns | hf⟩
  · rw [← Content.managedFor_of_labels hl, ← hid]
    exact h o0 ho0 (hid ▸ how)
  · exact absurd hns.1 how.1
  · exact ⟨hf.2.2, hsr⟩

/-- Whatever the deployment has on the cluster is an object of the new assignment again, or
stands within its bounds and goes at once when it is deleted. -/
def InReach (cluster : Cluster) (a : Assignment) (m : Materialization) (os : Objects) : Prop :=
  ∀ o ∈ os, o.id.Own a.deploymentID →
    o.id ∈ m.objects.map Prod.fst ∨ (a.covers o.id ∧ cluster.finalized o.id = false)
deriving Decidable

theorem processAssignment_leaves (hb : buildAssignment p capabilities policy a = .ok m)
    (hl : Labelled cfg.cluster a.deploymentID r.kube.objects)
    (hin : InReach cfg.cluster a m r.kube.objects)
    (h : processAssignment cfg now a m r = (.ok true, r')) :
    ∀ o ∈ r'.kube.objects, o.id.Own a.deploymentID → o.id ∈ m.objects.map Prod.fst := by
  have hwi : Within (m.objects.map Prod.fst) r.kube.objects r'.kube.objects :=
    processAssignment_within.of_eq h
  obtain _ | _ | @⟨k1, k2, k3, xs, stale, -, ha, hls, hp, hpr⟩ := AssignmentOutcome.of_eq h
  obtain ⟨-, hcn, htg, -⟩ := buildAssignment_eq_ok hb
  obtain ⟨-, hst⟩ := mem_of_planPrune hp
  obtain ⟨hs, hli⟩ := listAll_eq_ok hls
  intro o (ho : o ∈ k3.objects) how
  rcases hwi o ho with hmem | ⟨o0, ho0, hid⟩
  · exact hmem
  rw [← hid] at how ⊢
  rcases hin o0 ho0 how with hmem | ⟨hcv, hfn⟩
  · exact hmem
  by_contra hne
  -- it was there before and is not applied again, so it is listed and pruned
  have hf : ∀ x ∈ m.objects, x.1 ≠ o0.id := fun x hx heq => hne (heq ▸ mem_map_of_mem hx)
  obtain ⟨hm, hsr⟩ := hl o0 ho0 how
  have hk1 : o0 ∈ k1.objects := by
    rw [apply_eq_ok ha]
    exact (Server.mem_putAll_of_ne fun x hx heq => hf x hx heq.symm).mpr ho0
  obtain ⟨target, ht, heq, hns⟩ := mem_listTargets hcn htg how.1 hcv
  have hmem := hst _ (hli target ht o0 hk1 heq hns hsr hm) hm hf
  rw [prune_eq_ok hpr] at ho
  refine Server.notMem_of_mem_dropAll ho (fun hh => ?_) (hid ▸ hmem)
  rw [← hid, hfn] at hh
  cases hh

theorem mem_acceptAssignment {i : ObjectIdentity} (h : i ∈ m.objects.map Prod.fst) :
    i ∈ (acceptAssignment a m).objects :=
  (perm_insertionSort _ _).mem_iff.mpr (mem_dedup.mpr h)

/-! ## Histories -/

/-- An apply that created an object of the deployment is accepted in the same call. -/
def AcceptedIfCreated (a : Assignment) (m : Materialization) (r r' : Runtime) : Prop :=
  r'.checkpoint.accepted a.deploymentID = some (acceptAssignment a m) ∨
    ∀ o ∈ r'.kube.objects, o.id.Own a.deploymentID → ∃ o0 ∈ r.kube.objects, o0.id = o.id
deriving Decidable

/-- What an event must not do to the record of the deployment. At a restart the store has
for it what memory has: no save with its assignment was lost. -/
def KeepsRecord (cfg : Config) (d : String) (r : Runtime) : Event → Prop
  | .snapshot now s capabilities faults saves =>
    (∀ t ∈ s.deletions, t.deploymentID = d → t.orphan = false) ∧
      ∀ a ∈ s.assignments, a.deploymentID = d →
        ∀ m, buildAssignment cfg.parsers capabilities cfg.policy a = .ok m →
          InReach cfg.cluster a m r.kube.objects ∧
            AcceptedIfCreated a m r (r.step cfg (.snapshot now s capabilities faults saves))
  | .finalize _ => True
  | .restart => r.stored.accepted d = r.checkpoint.accepted d

instance : ∀ e, Decidable (KeepsRecord cfg d r e)
  | .snapshot .. => inferInstanceAs (Decidable (_ ∧ ∀ a ∈ _, _ → ∀ m, _ = Except.ok m → _ ∧ _))
  | .finalize _ => isTrue trivial
  | .restart => inferInstanceAs (Decidable (_ = _))

structure Kept (cluster : Cluster) (d : String) (r : Runtime) : Prop where
  recorded : Recorded d r
  labelled : Labelled cluster d r.kube.objects

theorem Kept.of_spares (h : Kept cluster d r) (hs : Spares d r r') : Kept cluster d r' := by
  refine ⟨fun o ho how => ?_, fun o ho how => ?_⟩
  · rw [hs.accepted]
    exact h.recorded o ((hs.objects o how).mp ho) how
  · exact h.labelled o ((hs.objects o how).mp ho) how

theorem Recorded.of_ids (h : Recorded d r)
    (hc : r'.checkpoint.accepted d = r.checkpoint.accepted d)
    (ho : ∀ o ∈ r'.kube.objects, o.id.Own d → ∃ o0 ∈ r.kube.objects, o0.id = o.id) :
    Recorded d r' := by
  intro o hmem how
  obtain ⟨o0, ho0, hid⟩ := ho o hmem how
  rw [hc, ← hid]
  exact h o0 ho0 (hid ▸ how)

theorem Kept.assigned {y r3} (hb : buildAssignment p capabilities policy a = .ok m)
    (hin : InReach cfg.cluster a m r.kube.objects) (hac : AcceptedIfCreated a m r r3)
    (hrun : processAssignment cfg now a m r = (y, r')) (haf : Spares a.deploymentID r' r3)
    (h : Kept cfg.cluster a.deploymentID r) : Kept cfg.cluster a.deploymentID r' := by
  have hwi : Within (m.objects.map Prod.fst) r.kube.objects r'.kube.objects :=
    processAssignment_within.of_eq hrun
  refine ⟨?_, h.labelled.of_writes ((processAssignment_writes (objects_for hb)).of_eq hrun)⟩
  cases AssignmentOutcome.of_eq hrun with
  | regressed _ => exact h.recorded
  | failed _ hbo =>
    rcases hac with hac | hold
    · -- the same assignment was accepted before
      intro o ho how
      rw [haf.accepted] at hac
      rcases hwi o ho with hmem | ⟨o0, ho0, hid⟩
      · exact ⟨_, hac, mem_acceptAssignment hmem⟩
      · rw [hbo.checkpoint, ← hid]
        exact h.recorded o0 ho0 (hid ▸ how)
    · refine h.recorded.of_ids (by rw [hbo.checkpoint]) fun o ho how => ?_
      exact hold o ((haf.objects o how).mpr ho) how
  | accepted =>
    intro o ho how
    refine ⟨acceptAssignment a m, Checkpoint.accepted_insert_self, mem_acceptAssignment ?_⟩
    exact processAssignment_leaves hb h.labelled hin hrun o ho how

theorem Kept.deleted {done} (ho : t.orphan = false)
    (hrun : processDeletion cfg now t r = (.ok done, r'))
    (h : Kept cfg.cluster t.deploymentID r) : Kept cfg.cluster t.deploymentID r' := by
  have hsh : Shrinks r.kube.objects r'.kube.objects := (processDeletion_shrinks ho).of_eq hrun
  refine ⟨?_, h.labelled.of_writes (processDeletion_writes.of_eq hrun)⟩
  have hids : ∀ o ∈ r'.kube.objects, o.id.Own t.deploymentID →
      ∃ o0 ∈ r.kube.objects, o0.id = o.id := by
    intro o hmem _
    obtain ⟨o0, ho0, hid, -⟩ := hsh o hmem
    exact ⟨o0, ho0, hid⟩
  cases DeletionOutcome.of_eq hrun with
  | absent | failed | pending => exact h.recorded.of_ids rfl hids
  | removed hx hc =>
    -- all that was recorded is gone, and nothing else was there
    obtain ⟨hs, ha⟩ := processDeletion_eq_true ho hrun
    intro o hmem how
    rw [hs] at hmem
    obtain ⟨x, hx, hi⟩ := h.recorded o hmem how
    exact absurd rfl (ha x hx o.id hi how.1 o hmem)

theorem Kept.step {e} (hd : validUUID d) (hk : KeepsRecord cfg d r e)
    (h : Kept cfg.cluster d r) : Kept cfg.cluster d (r.step cfg e) := by
  cases e with
  | finalize id =>
    exact ⟨fun o ho => h.recorded o (mem_of_mem_filter ho),
      fun o ho => h.labelled o (mem_of_mem_filter ho)⟩
  | restart => exact ⟨h.recorded.of_ids hk fun o ho _ => ⟨o, ho, rfl⟩, h.labelled⟩
  | snapshot now s capabilities faults saves =>
    obtain ⟨hor, has⟩ := hk
    have hh : Handles cfg now s capabilities d (r.facing faults saves)
        (r.step cfg (.snapshot now s capabilities faults saves)) := processSnapshotBody_handles hd
    have hf : Kept cfg.cluster d (r.facing faults saves) := ⟨h.recorded, h.labelled⟩
    cases hh with
    | spared hs => exact hf.of_spares hs
    | @assigned a m r1 r2 y ha hda hb hbf hrun haf =>
      subst hda
      obtain ⟨hin, hac⟩ := has a ha rfl m hb
      refine ((hf.of_spares hbf).assigned hb (fun o ho how => ?_) ?_ hrun haf).of_spares haf
      · exact hin o ((hbf.objects o how).mp ho) how
      · refine hac.imp_right fun hold o ho how => ?_
        obtain ⟨o0, ho0, hid⟩ := hold o ho how
        exact ⟨o0, (hbf.objects o0 (hid ▸ how)).mpr ho0, hid⟩
    | @deleted t r1 r2 done ht hdt hbf hrun haf =>
      subst hdt
      exact ((hf.of_spares hbf).deleted (hor t ht rfl) hrun).of_spares haf

/-- **A deployment reported as removed has nothing left on the cluster**, after every history
that starts without it and keeps its record: each apply that created one of its objects was
accepted in the same call, each new assignment covered what was there, and no restart lost
what had been accepted. -/
theorem removed_nothingLeft (cfg : Config) (now : Time) (s : Snapshot)
    (capabilities : Capabilities) (start : Runtime) (history : List Event)
    (faults saves : List Fault) (t : Deletion) (r2 : Runtime)
    (hstart : NothingLeft t.deploymentID start.kube.objects)
    (hkeeps : RunMeets (Runtime.step cfg) (KeepsRecord cfg t.deploymentID) start history)
    (horphan : t.orphan = false)
    (h : ReportsRemoved cfg now s capabilities
      ((run (Runtime.step cfg) start history).facing faults saves) t r2) :
    NothingLeft t.deploymentID r2.kube.objects := by
  have hd : validUUID t.deploymentID := by
    obtain ⟨hr, -, hsp, -, -⟩ := h
    have hi := Snapshot.ids_of_validate (validate_of_validateSnapshot hr.valid)
    exact hi.2.2 t (hsp ▸ mem_append_right _ mem_cons_self)
  have hkept : Kept cfg.cluster t.deploymentID (run (Runtime.step cfg) start history) :=
    RunMeets.preserves (fun r e hr he => hr.step hd he) hkeeps
      ⟨fun o ho how => absurd how (hstart o ho), fun o ho how => absurd how (hstart o ho)⟩
  exact (h.nothingLeft_iff horphan).mpr hkept.recorded

end

/-! ## Two ends of one deployment -/

namespace OneDeployment

def tombstone : Deletion :=
  { deploymentID := deploymentID, generation := 3, specDigest := digest }

def deleting : Snapshot :=
  { protocolVersion := "2.0", snapshotGeneration := 2, eTag := digest, fullSnapshot := true
    deletions := [tombstone] }

def deletingCall : Event := .snapshot 0 deleting capabilities [] []

/-- The deployment is installed and the agent restarted. Then it is deleted: its reconciler,
once the controller lets go of it, and everything else in the call after that. -/
def removalRun : List Event :=
  [snapshot 1 (assignment 1 .namespaced "team-a"), .restart, deletingCall,
    .finalize ⟨.kustomization, (names projectID deploymentID).controlNamespace,
      (names projectID deploymentID).base⟩, deletingCall]

def halfApplied : Event :=
  .snapshot 0 (snapshotOf 1 (assignment 1 .namespaced "team-a")) capabilities
    [.none, .none, .lost] []

theorem deleting_reports {r : Runtime} (h : r.checkpoint.refuses deleting = false ∧
      (processDeletion cfg 0 tombstone r).1 = .ok true) :
    ReportsRemoved cfg 0 deleting capabilities r tombstone
      (processDeletion cfg 0 tombstone r).2 := by
  have hv : validateSnapshot cfg.parsers capabilities cfg.policy deleting = .ok () := by
    decide +kernel
  have hr : Reaches cfg capabilities deleting [] r := ⟨hv, h.1, rfl, rfl, rfl⟩
  have hsplit : deleting.deletions = [] ++ tombstone :: [] := rfl
  exact .intro hr rfl hsplit rfl (Prod.ext h.2 rfl)

end OneDeployment

open OneDeployment in
/-- Installed, restarted and deleted: `removed`, and nothing is left. -/
theorem removalRun_nothingLeft :
    ((run (Runtime.step cfg) fresh (removalRun.take 2)).kube.objects.any fun o =>
        decide (o.id.Own deploymentID)) = true ∧
      ∃ r2, ReportsRemoved cfg 0 deleting capabilities
          ((run (Runtime.step cfg) fresh removalRun).facing [] []) tombstone r2 ∧
        NothingLeft deploymentID r2.kube.objects := by
  have hr := deleting_reports (r := (run (Runtime.step cfg) fresh removalRun).facing [] [])
    (by decide +kernel)
  exact ⟨by decide +kernel, _, hr, removed_nothingLeft cfg 0 deleting capabilities fresh removalRun
    [] [] tombstone _ (fun _ ho => nomatch ho) (by decide +kernel) rfl hr⟩

open OneDeployment in
/-- The first apply failed half way, the deployment is deleted: `removed`, and its
ServiceAccount is left. -/
theorem halfApplied_left : ∃ r2, ReportsRemoved cfg 0 deleting capabilities
        ((run (Runtime.step cfg) fresh [halfApplied]).facing [] []) tombstone r2 ∧
      ¬ NothingLeft deploymentID r2.kube.objects :=
  ⟨_, deleting_reports (by decide +kernel), by decide +kernel⟩

end Astronomer.Agent
