import Astronomer.Delivery.StatusReports

/-!
# The snapshot header of a report

`Ingest` acknowledges a report's snapshot after the observations and in the same transaction.
So a report whose header is not the one the receipt asks for is rolled back whole.
-/

namespace Astronomer.Delivery

open List

/-- The report passes every check of `Ingest`, is newer than the inventory the cluster last
sent, and differs from it. -/
structure DeliveryStatus.Changed (payload : DeliveryStatus) (senv : StatusEnv) (db : DB)
    (session : Session) : Prop where
  identity : session.clusterID ≠ 0 ∧ session.connectionID ≠ 0 ∧ trimSpace session.sessionID ≠ ""
  valid : payload.validate senv = .ok ()
  cluster : payload.clusterID = session.clusterID
  fenced : fenceDeliveryAgentSession db session.connectionID session.clusterID
    session.sessionID
  newer : ∀ old ∈ db.inventories.find? (·.clusterID == session.clusterID),
    (old.agentSessionID = session.sessionID → old.agentSequence < payload.sessionSequence) ∧
      old.statusDigest ≠ payload.statusDigest

/-- The observation is of the deployment as it is desired now, and newer than what the
session last said of it. -/
def DeploymentStatus.Matches (report : DeploymentStatus) (session : Session)
    (payload : DeliveryStatus) (d : DeploymentRow) : Prop :=
  d.id = report.deploymentID ∧ d.clusterID = session.clusterID ∧
    d.desiredGeneration = report.generation ∧ d.desiredSpecDigest = report.specDigest ∧
    d.precedes session.sessionID payload.sessionSequence
deriving Decidable

def Advanced (db db' : DB) (d : DeploymentRow) (phase : DeploymentPhase) : Prop :=
  ∀ id ∈ d.currentRolloutID, ∀ state ∈ db.stateOf id, ∀ rc ∈ db.clustersOf id,
    rc.clusterID = d.clusterID → statusApplies state rc.assignmentAction →
    advances phase rc.state →
    ∃ rc' ∈ db'.clustersOf id, rc.SameKeys rc' ∧
      rc'.state = advancedState phase rc.assignmentAction

def ObservationsCommitted (senv : StatusEnv) (db : DB) (clock : Clock) (session : Session)
    (payload : DeliveryStatus) : Prop :=
  ∃ db', ingest senv db clock session payload = .ok db' ∧
    ∀ report ∈ payload.deployments, ∀ d ∈ db.deployments, report.Matches session payload d →
      d.observe (report.update senv session payload) ∈ db'.deployments ∧
        Advanced db db' d report.phase

/-- The header is empty, or the one the cluster's receipt asks for, and newer than the last
acknowledgement of the session. -/
def HeaderCurrent (db : DB) (session : Session) (payload : DeliveryStatus) : Prop :=
  payload.snapshotGeneration = 0 ∨
    ∃ r ∈ db.receipts, r.clusterID = session.clusterID ∧
      r.desiredSnapshotGeneration = payload.snapshotGeneration ∧
      r.desiredSnapshotEtag = payload.snapshotETag ∧
      (r.agentSessionID ≠ session.sessionID ∨ r.agentSequence < payload.sessionSequence)
deriving Decidable

def DB.OneTarget (db : DB) : Prop :=
  ∀ d ∈ db.deployments, ∀ d' ∈ db.deployments, d.currentRolloutID.isSome →
    d.currentRolloutID = d'.currentRolloutID → d.targetID = d'.targetID
deriving Decidable

instance (payload : DeliveryStatus) (senv : StatusEnv) (db : DB) (session : Session) :
    Decidable (payload.Changed senv db session) :=
  decidable_of_iff (_ ∧ _ ∧ _ ∧ _ ∧ _)
    ⟨fun ⟨hi, hv, hc, hf, hn⟩ => ⟨hi, hv, hc, hf, hn⟩,
      fun ⟨hi, hv, hc, hf, hn⟩ => ⟨hi, hv, hc, hf, hn⟩⟩

/-! ## The checks -/

section Checks

variable {senv : StatusEnv} {db : DB} {session : Session} {payload : DeliveryStatus}

theorem nodup_of_checkDeploymentStatus {modern seen out} {reports : List DeploymentStatus}
    (h : reports.foldlM (checkDeploymentStatus senv modern) seen = .ok out) :
    (reports.map (·.deploymentID)).Nodup ∧ ∀ report ∈ reports, report.deploymentID ∉ seen := by
  induction reports generalizing seen with
  | nil => simp
  | cons report reports ih =>
    simp only [foldlM_cons, bind_eq_ok, checkDeploymentStatus, require_eq_ok, pure_eq_ok] at h
    obtain ⟨_, ⟨_, -, _, hn, _, -, rfl⟩, hrest⟩ := h
    obtain ⟨hnd, hf⟩ := ih hrest
    refine ⟨nodup_cons.mpr ⟨fun hmem => ?_, hnd⟩, fun report' hmem => ?_⟩
    · obtain ⟨report', hmem', heq⟩ := mem_map.mp hmem
      exact hf report' hmem' (heq ▸ mem_cons_self)
    · rcases mem_cons.mp hmem with rfl | hmem
      · simpa using hn
      · exact fun hsn => hf report' hmem (mem_cons_of_mem _ hsn)

theorem DeliveryStatus.validate_eq_ok {payload : DeliveryStatus}
    (h : payload.validate senv = .ok ()) :
    0 ≤ payload.snapshotGeneration ∧ (payload.deployments.map (·.deploymentID)).Nodup := by
  simp only [DeliveryStatus.validate, bind_eq_ok, require_eq_ok, Bool.and_eq_true,
    decide_eq_true_eq] at h
  obtain ⟨_, -, _, ⟨-, hg⟩, _, -, _, -, _, -, _, -, _, hl, -⟩ := h
  exact ⟨hg, (nodup_of_checkDeploymentStatus hl).1⟩

theorem ingest_of_changed (clock : Clock) (h : payload.Changed senv db session) :
    ∃ inventories, ingest senv db clock session payload =
      ingestChanged senv clock session payload { db with inventories } := by
  obtain ⟨hcl, hc, hss⟩ := h.identity
  have hac : ∃ inventories, acceptDeliveryStatusInventory db session.clusterID
      session.sessionID payload = some ({ db with inventories }, true) := by
    have hnw := h.newer
    simp only [acceptDeliveryStatusInventory]
    cases hold : db.inventories.find? (·.clusterID == session.clusterID) with
    | none => exact ⟨_, rfl⟩
    | some old =>
      obtain ⟨hsq, hdg⟩ := hnw old hold
      dsimp only
      rw [if_neg fun hs => absurd (hsq hs.1) (by omega), if_pos (.inl hdg)]
      exact ⟨_, by rw [beq_self_eq_true]⟩
  obtain ⟨inventories, ha⟩ := hac
  refine ⟨inventories, ?_⟩
  have hi : (session.clusterID != 0 && session.connectionID != 0 &&
      trimSpace session.sessionID != "") = true := by simp [hcl, hc, hss]
  simp only [ingest, hi, h.valid, h.cluster, h.fenced, ha, beq_self_eq_true, require_true]
  rfl

end Checks

/-! ## The loop over the deployments -/

section Loop

variable {senv : StatusEnv} {s : DB} {clock : Clock} {session : Session} {payload : DeliveryStatus}
  {report : DeploymentStatus} {d : DeploymentRow} {id : UUID} {rc : RolloutClusterRow}

theorem core_ingestDeployment {x} :
    (ingestDeployment senv clock session payload s report).core x = s.core x := by
  rcases ingestDeployment_cases report with heq | ⟨_, _, hu, heq⟩ <;> rw [heq]
  rw [advanceFromStatus_frame.core, DB.core_of_updateDeployment hu]

theorem receipts_ingestDeployment :
    (ingestDeployment senv clock session payload s report).receipts = s.receipts := by
  rcases ingestDeployment_cases report with heq | ⟨observed, updated, hu, heq⟩ <;> rw [heq]
  obtain ⟨_, -, -, rfl⟩ := DB.updateDeployment_eq_some.mp hu
  rcases @advanceFromStatus_eq _ clock updated with heq | ⟨_, _, _, _, -, -, -, heq, -⟩ <;> rw [heq]
  · rfl
  · rfl

structure Placed (d : DeploymentRow) (s : DB) : Prop where
  keys : s.Keys
  one : s.OneTarget
  row : d ∈ s.deployments

theorem DB.OneTarget.observed {key u row} {s' : DB} (h : s.OneTarget)
    (hu : updateClusterDeploymentObservedCAS s key u = some (s', row)) :
    s'.OneTarget := by
  obtain ⟨_, -, -, -, -, -, -, -, -, hdp⟩ := observedCAS_eq_some hu
  -- an observation changes neither the rollout nor the target of a row
  have hb : ∀ d' ∈ s'.deployments, ∃ d ∈ s.deployments,
      d.currentRolloutID = d'.currentRolloutID ∧ d.targetID = d'.targetID := by
    intro d' hd'
    rcases hdp d' hd' with hd | ⟨d, hd, -, rfl⟩
    · exact ⟨d', hd, rfl, rfl⟩
    · exact ⟨d, hd, rfl, rfl⟩
  intro d1 h1 d2 h2 hs heq
  obtain ⟨e1, he1, hr1, ht1⟩ := hb d1 h1
  obtain ⟨e2, he2, hr2, ht2⟩ := hb d2 h2
  rw [← ht1, ← ht2]
  exact h e1 he1 e2 he2 (by rw [hr1]; exact hs) (by rw [hr1, hr2, heq])

theorem Placed.advance {key u updated} {s' : DB} (clock : Clock) (hky : s.Keys)
    (ho : s.OneTarget) (hu : updateClusterDeploymentObservedCAS s key u = some (s', updated))
    (hr : d ∈ s'.deployments) :
    Placed d s' ∧ Placed d (advanceFromStatus s' clock updated) := by
  have hky' : s'.Keys := hky.write (.updateDeployment (by intro _ _; exact ⟨rfl, rfl, rfl⟩) hu)
  refine ⟨⟨hky', ho.observed hu, hr⟩,
    DB.Writes.of_advance.keeps (fun _ _ hw hk => hk.write hw) hky', ?_, ?_⟩
  · rw [DB.OneTarget, deployments_advance]
    exact ho.observed hu
  · rw [deployments_advance]
    exact hr

theorem Placed.mem_observed {key u updated} {s' : DB} (h : Placed d s) (hne : key ≠ d.id)
    (hu : updateClusterDeploymentObservedCAS s key u = some (s', updated)) :
    d ∈ s'.deployments := by
  obtain ⟨_, -, -, rfl⟩ := DB.updateDeployment_eq_some.mp hu
  exact mem_updateWhere.mpr ⟨d, h.row, by simp [Ne.symm hne]⟩

theorem Placed.other (h : Placed d s) (hne : report.deploymentID ≠ d.id) :
    Placed d (ingestDeployment senv clock session payload s report) := by
  rcases ingestDeployment_cases report with heq | ⟨s', updated, hu, heq⟩ <;> rw [heq]
  · exact h
  · exact (Placed.advance clock h.keys h.one hu (h.mem_observed hne hu)).2

theorem Placed.other_clusterRow (h : Placed d s) (hne : report.deploymentID ≠ d.id)
    (hid : d.currentRolloutID = some id) (hcl : rc.clusterID = d.clusterID)
    (hrc : rc ∈ s.clustersOf id) :
    rc ∈ (ingestDeployment senv clock session payload s report).clustersOf id := by
  rcases ingestDeployment_cases report with heq | ⟨s', updated, hu, heq⟩ <;> rw [heq]
  · exact hrc
  have hr := h.mem_observed hne hu
  obtain ⟨hs', -⟩ := Placed.advance clock h.keys h.one hu hr
  obtain ⟨old, -, hk, -, -, hup, -, hrs, -⟩ := observedCAS_eq_some hu
  obtain ⟨hmem, hrl⟩ := mem_filter.mp hrc
  rcases @advanceFromStatus_eq s' clock updated with
    heq' | ⟨d2, rolloutID, r, _, hd2, hid2, -, heq', -⟩ <;> rw [heq']
  · rw [DB.clustersOf, hrs]
    exact hrc
  · refine mem_filter.mpr ⟨mem_updateWhere.mpr ⟨rc, hrs ▸ hmem, ?_⟩, hrl⟩
    rw [if_neg]
    intro hp
    simp only [Bool.and_eq_true, beq_iff_eq] at hp
    obtain ⟨⟨⟨hrl2, hcl2⟩, -⟩, -⟩ := hp
    -- the row advanced for would be of the same target and cluster as `d`, hence `d`
    have hs : rolloutID = id := hrl2.symm.trans (beq_iff_eq.mp hrl)
    have hd₂mem := mem_of_find?_eq_some hd2
    have htg : d.targetID = d2.targetID :=
      hs'.one d hr d2 hd₂mem (by rw [hid]; rfl) (by rw [hid, hid2, hs])
    have hd : d = d2 := hs'.keys.eq_of_pair hr hd₂mem htg (hcl ▸ hcl2)
    have hd₂id : d2.id = updated.id := by simpa using find?_some hd2
    rw [← hd, hup] at hd₂id
    exact hne (hk.symm.trans hd₂id.symm)

theorem Placed.own (h : Placed d s) (hmt : report.Matches session payload d) :
    Placed (d.observe (report.update senv session payload))
        (ingestDeployment senv clock session payload s report) ∧
      Advanced s (ingestDeployment senv clock session payload s report) d report.phase := by
  obtain ⟨hid, hcl, hg, hdg, hp⟩ := hmt
  have hgt : getClusterDeploymentForDeliveryStatus s report.deploymentID session.clusterID =
      some d :=
    find?_of_nodup_map h.keys.deployments h.row (by simp [hid, hcl]) fun d' hd' => by
      simp only [Bool.and_eq_true, beq_iff_eq] at hd'
      rw [hd'.1, hid]
  have hf : s.deployments.find? (fun d => d.id == report.deploymentID &&
      d.desiredGeneration == report.generation && d.desiredSpecDigest == report.specDigest &&
      d.precedes session.sessionID payload.sessionSequence) = some d :=
    find?_of_nodup_map h.keys.deployments h.row (by simp [hid, hg, hdg, hp])
      fun d' hd' => by
        simp only [Bool.and_eq_true, beq_iff_eq] at hd'
        rw [hd'.1.1.1, hid]
  obtain ⟨s', hu⟩ : ∃ s', updateClusterDeploymentObservedCAS s report.deploymentID
      (report.update senv session payload) =
        some (s', d.observe (report.update senv session payload)) :=
    ⟨_, DB.updateDeployment_eq_some.mpr ⟨d, hf, rfl, rfl⟩⟩
  have heq : ingestDeployment senv clock session payload s report =
      advanceFromStatus s' clock (d.observe (report.update senv session payload)) := by
    simp only [ingestDeployment, hgt]
    rw [if_neg (by simp [hg, hdg]), hu]
  rw [heq]
  obtain ⟨_, -, -, -, -, -, hrw, hrs, hcr, -⟩ := observedCAS_eq_some hu
  obtain ⟨hs', hpc⟩ := Placed.advance clock h.keys h.one hu hrw
  refine ⟨hpc, fun id hrl state hst rc hrc hc hap ha => ?_⟩
  have hup : s'.deployments.find? (·.id == (d.observe (report.update senv session payload)).id) =
        some (d.observe (report.update senv session payload)) :=
    find?_of_nodup_map hs'.keys.deployments hrw (by simp) fun d' hd' => by simpa using hd'
  obtain ⟨r, hr, rfl⟩ : ∃ r, s'.rollout id = some r ∧ r.state = state := by
    have : s'.stateOf id = some state := by
      rw [DB.stateOf_eq_core, hcr, ← DB.stateOf_eq_core]
      exact hst
    exact Option.map_eq_some_iff.mp this
  obtain ⟨hmem, hfl⟩ := mem_filter.mp hrc
  refine ⟨{ rc.advance clock.dbNow report.phase report.storedErrorCode with
      updatedAt := clock.dbNow }, mem_filter.mpr ⟨?_, hfl⟩, ⟨rfl, rfl, rfl⟩, rfl⟩
  rw [rolloutClusters_advance hup hrl hr hg hdg, hrs]
  refine mem_updateWhere.mpr ⟨rc, hmem, ?_⟩
  rw [if_pos]
  · rfl
  · have hrt : (rc.rolloutID == id) := hfl
    simp only [hrt, Bool.true_and, Bool.and_eq_true, beq_iff_eq]
    exact ⟨⟨hc, hap⟩, ha⟩

theorem foldl_commits (hnd : (payload.deployments.map (·.deploymentID)).Nodup)
    (hrp : report ∈ payload.deployments) (h : Placed d s)
    (hmt : report.Matches session payload d) :
    let s' := payload.deployments.foldl (ingestDeployment senv clock session payload) s
    d.observe (report.update senv session payload) ∈ s'.deployments ∧
      Advanced s s' d report.phase := by
  intro s'
  obtain ⟨before, after, hsp⟩ := append_of_mem hrp
  rw [hsp, map_append, map_cons, nodup_append, nodup_cons] at hnd
  obtain ⟨-, ⟨haf, -⟩, hbf⟩ := hnd
  have hne : ∀ other ∈ before, other.deploymentID ≠ d.id := fun other hmem heq =>
    hbf _ (mem_map_of_mem hmem) _ mem_cons_self (heq.trans hmt.1)
  have hne' : ∀ other ∈ after, other.deploymentID ≠ d.id := fun other hmem heq =>
    haf (mem_map.mpr ⟨other, hmem, heq.trans hmt.1⟩)
  have hs' : s' = after.foldl (ingestDeployment senv clock session payload)
      (ingestDeployment senv clock session payload
        (before.foldl (ingestDeployment senv clock session payload) s) report) := by
    show payload.deployments.foldl _ s = _
    rw [hsp, foldl_append, foldl_cons]
  have hf : Placed d (before.foldl (ingestDeployment senv clock session payload) s) :=
    foldl_keeps (fun _ other hmem hs => hs.other (hne other hmem)) h
  obtain ⟨how, had⟩ := @Placed.own senv _ clock session payload report d hf hmt
  have hl : Placed (d.observe (report.update senv session payload)) s' := by
    rw [hs']
    exact foldl_keeps (fun _ other hmem hs => hs.other (hne' other hmem)) how
  refine ⟨hl.row, fun id hid state hst rc hrc hcl hap ha => ?_⟩
  have hrc1 : rc ∈ (before.foldl (ingestDeployment senv clock session payload) s).clustersOf id :=
    (foldl_keeps (P := fun s => Placed d s ∧ rc ∈ s.clustersOf id)
      (fun _ other hmem hs => ⟨hs.1.other (hne other hmem),
        hs.1.other_clusterRow (hne other hmem) hid hcl hs.2⟩) ⟨h, hrc⟩).2
  have hst1 : (before.foldl (ingestDeployment senv clock session payload) s).stateOf id =
      some state := by
    refine foldl_keeps (P := fun s => s.stateOf id = some state) (fun s1 other _ hs => ?_) hst
    rw [DB.stateOf_eq_core, core_ingestDeployment, ← DB.stateOf_eq_core, hs]
  obtain ⟨rc', hrc', hsm, hmv⟩ := had id hid state hst1 rc hrc1 hcl hap ha
  refine ⟨rc', ?_, hsm, hmv⟩
  rw [hs']
  exact (foldl_keeps (P := fun s => Placed (d.observe (report.update senv session payload)) s ∧
      rc' ∈ s.clustersOf id)
    (fun _ other hmem hs => ⟨hs.1.other (hne' other hmem),
      hs.1.other_clusterRow (hne' other hmem) hid (hsm.cluster.trans hcl) hs.2⟩)
    ⟨how, hrc'⟩).2

end Loop

/-! ## The acknowledgement -/

section Acknowledge

variable {senv : StatusEnv} {s : DB} {clock : Clock} {session : Session} {payload : DeliveryStatus}

theorem exists_ingestChanged_iff (hgn : 0 ≤ payload.snapshotGeneration) :
    (∃ db', ingestChanged senv clock session payload s = .ok db') ↔
      HeaderCurrent s session payload := by
  have hrc : (payload.deployments.foldl (ingestDeployment senv clock session payload) s).receipts =
      s.receipts :=
    foldl_keeps (P := fun s' => s'.receipts = s.receipts)
      (fun _ _ _ hs => receipts_ingestDeployment.trans hs) rfl
  simp only [ingestChanged]
  split
  next hps =>
    simp only [orError_eq_ok, acknowledgeDeliveryAssignmentSnapshot, updateReturning,
      Option.map_map,
      Option.map_eq_some_iff, hrc]
    constructor
    · rintro ⟨_, r, hr, -⟩
      have hp := find?_some hr
      simp only [Bool.and_eq_true, beq_iff_eq, Bool.or_eq_true, bne_iff_ne, decide_eq_true_eq] at hp
      obtain ⟨⟨⟨hc, hg⟩, he⟩, hn⟩ := hp
      exact .inr ⟨r, mem_of_find?_eq_some hr, hc, hg, he, hn⟩
    · rintro (hz | ⟨r, hr, hc, hg, he, hn⟩)
      · omega
      · obtain ⟨r', hr'⟩ : ∃ r', s.receipts.find? (fun r => r.clusterID == session.clusterID &&
            r.desiredSnapshotGeneration == payload.snapshotGeneration &&
            r.desiredSnapshotEtag == payload.snapshotETag &&
            (r.agentSessionID != session.sessionID ||
              decide (r.agentSequence < payload.sessionSequence))) = some r' :=
          Option.isSome_iff_exists.mp (find?_isSome.mpr ⟨r, hr, by simpa [hc, hg, he] using hn⟩)
        exact ⟨_, r', hr', rfl⟩
  next hps => exact ⟨fun _ => .inl (by omega), fun _ => ⟨_, rfl⟩⟩

theorem ingestChanged_eq_ok {db'} (h : ingestChanged senv clock session payload s = .ok db') :
    ∃ receipts, db' =
      { payload.deployments.foldl (ingestDeployment senv clock session payload) s with
        receipts } := by
  simp only [ingestChanged] at h
  split at h
  · simp only [orError_eq_ok, acknowledgeDeliveryAssignmentSnapshot, Option.map_eq_some_iff] at h
    obtain ⟨_, -, rfl⟩ := h
    exact ⟨_, rfl⟩
  · cases h
    exact ⟨_, rfl⟩

end Acknowledge

/-- **A report commits its observations exactly with a current header.** -/
theorem observations_committed_iff {senv : StatusEnv} {db : DB} {clock : Clock} {session : Session}
    {payload : DeliveryStatus} (hkeys : db.Keys) (hone : db.OneTarget)
    (hchanged : payload.Changed senv db session) :
    ObservationsCommitted senv db clock session payload ↔ HeaderCurrent db session payload := by
  obtain ⟨inventories, hig⟩ := ingest_of_changed clock hchanged
  obtain ⟨hg, hnd⟩ := DeliveryStatus.validate_eq_ok hchanged.valid
  have hi : (∃ db', ingestChanged senv clock session payload { db with inventories } = .ok db') ↔
      HeaderCurrent db session payload := exists_ingestChanged_iff hg
  constructor
  · rintro ⟨db', hok, -⟩
    exact hi.mp ⟨db', hig ▸ hok⟩
  · intro hh
    obtain ⟨db', hok⟩ := hi.mpr hh
    refine ⟨db', hig.trans hok, fun report hrp d hd hmt => ?_⟩
    obtain ⟨receipts, rfl⟩ := ingestChanged_eq_ok hok
    have hpc : Placed d { db with inventories } :=
      ⟨⟨⟨hkeys.connections, hkeys.deployments⟩, hkeys.pairs, hkeys.clusterRows⟩, hone, hd⟩
    exact foldl_commits hnd hrp hpc hmt

/-! ## On one cluster -/

namespace OneCluster

def awaiting : DB :=
  { (run (World.step env senv) (inserted firstPlan) released).db with
    inventories := [⟨7, "", "", "s", 1, 1⟩]
    receipts := [⟨7, 2, digest, 1, digest, "s", 1, "", none⟩] }

def applyFailed (snapshotGeneration : Int) : DeliveryStatus :=
  { clusterID := 7, sessionSequence := 2, statusDigest := digest, snapshotGeneration
    snapshotETag := digest, inventory := "", modern := true
    deployments := [{ deploymentID := 207, generation := 1, specDigest := digest, phase := .failed
                      errorCode := "local_apply_failed", observedAt := 14 }] }

end OneCluster

open OneCluster in
/-- With the header of the snapshot the receipt asks for, the failure reaches the deployment
and the rollout's cluster. -/
theorem applyFailed_committed : HeaderCurrent awaiting ⟨7, 9, "s"⟩ (applyFailed 2) ∧
      ObservationsCommitted senv awaiting ⟨14, 14⟩ ⟨7, 9, "s"⟩ (applyFailed 2) :=
  ⟨by decide +kernel,
    (observations_committed_iff ⟨⟨by decide +kernel, by decide +kernel⟩, by decide +kernel,
      by decide +kernel⟩ (by decide +kernel) (by decide +kernel)).mpr (by decide +kernel)⟩

open OneCluster in
/-- With the header of the snapshot the agent completed before, the report is rejected and the
deployment stays as it was, although the report is as good as the other. -/
theorem applyFailed_rejected : (applyFailed 1).Changed senv awaiting ⟨7, 9, "s"⟩ ∧
      (∃ report ∈ (applyFailed 1).deployments, ∃ d ∈ awaiting.deployments,
        report.Matches ⟨7, 9, "s"⟩ (applyFailed 1) d) ∧
      ¬ ObservationsCommitted senv awaiting ⟨14, 14⟩ ⟨7, 9, "s"⟩ (applyFailed 1) := by
  refine ⟨by decide +kernel, by decide +kernel, ?_⟩
  rintro ⟨db', hok, -⟩
  have hr : (ingest senv awaiting ⟨14, 14⟩ ⟨7, 9, "s"⟩ (applyFailed 1)).isOk = false := by
    decide +kernel
  rw [hok] at hr
  cases hr

end Astronomer.Delivery
