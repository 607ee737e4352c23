import Astronomer.Delivery.EventEffects

/-!
# Reports that reach a rollout

A report writes the deployment, whatever state its rollout is in, and the rollout's cluster
only while the rollout is progressing. So a report of `ready` that arrives during a pause is
lost to the cluster: the same report is not looked at again.
-/

namespace Astronomer.Delivery

open List

variable {id : UUID} {d updated : DeploymentRow} {rc' : RolloutClusterRow} {session : Session}
  {payload : DeliveryStatus} {report : DeploymentStatus}

/-- The deployment of the cluster is the rollout's and records that its desired generation
and digest are ready. -/
def DB.RecordsReady (db : DB) (plan : FrozenRollout) (rc : RolloutClusterRow) : Prop :=
  rc.assignmentAction = .apply ∧
    ∃ d ∈ db.deployment plan.targetID rc.clusterID,
      d.currentRolloutID = some plan.id ∧ d.phase = .ready ∧
        d.observedGeneration = d.desiredGeneration ∧ d.observedSpecDigest = d.desiredSpecDigest
deriving Decidable

def StatusKept (plan : FrozenRollout) (db : DB) : Prop :=
  ∀ rc ∈ db.clustersOf plan.id, db.RecordsReady plan rc → isApplyActive rc.state = false
deriving Decidable

def NeverTimedOut (plan : FrozenRollout) (w w' : World) : Prop :=
  ∀ rc ∈ w.db.clustersOf plan.id, ∀ rc' ∈ w'.db.clustersOf plan.id, rc'.id = rc.id →
    rc.state ≠ .timedOut → rc'.state = .timedOut → ¬ w.db.RecordsReady plan rc
deriving Decidable

def DeploymentStatus.ReadyFor (report : DeploymentStatus) (plan : FrozenRollout)
    (d : DeploymentRow) : Prop :=
  report.phase = .ready ∧ d.id = report.deploymentID ∧ d.currentRolloutID = some plan.id ∧
    d.desiredGeneration = report.generation ∧ d.desiredSpecDigest = report.specDigest
deriving Decidable

def DB.WaitsFor (db : DB) (plan : FrozenRollout) (d : DeploymentRow) : Prop :=
  ∃ rc ∈ db.clustersOf plan.id, rc.clusterID = d.clusterID ∧ rc.assignmentAction = .apply ∧
    isApplyActive rc.state
deriving Decidable

/-- A report that a deployment of the rollout is ready finds the rollout progressing, or not
waiting for it. -/
def StatusHeard (plan : FrozenRollout) (w : World) : Event → Prop
  | .ingest _ _ payload =>
    ∀ report ∈ payload.deployments, ∀ d ∈ w.db.deployments, report.ReadyFor plan d →
      w.db.stateOf plan.id = some .progressing ∨ ¬ w.db.WaitsFor plan d
  | _ => True

instance (plan : FrozenRollout) (w : World) (e : Event) : Decidable (StatusHeard plan w e) := by
  apply @Event.casesOn (fun e => Decidable (StatusHeard plan w e)) e <;> intros <;>
    dsimp only [StatusHeard] <;> infer_instance

/-! ## One report -/

section Report

variable {plan : FrozenRollout} {db s s' : DB} {clock : Clock}

def OwnTarget (plan : FrozenRollout) (db : DB) : Prop :=
  ∀ d ∈ db.deployments, d.currentRolloutID = some plan.id → d.targetID = plan.targetID

theorem observedCAS_eq_some {key row} {u : ObservedUpdate}
    (h : updateClusterDeploymentObservedCAS s key u = some (s', row)) :
    ∃ old ∈ s.deployments, old.id = key ∧ old.desiredGeneration = u.generation ∧
      old.desiredSpecDigest = u.specDigest ∧ row = old.observe u ∧ row ∈ s'.deployments ∧
      s'.rolloutClusters = s.rolloutClusters ∧ (∀ x, s'.core x = s.core x) ∧
      ∀ d' ∈ s'.deployments, d' ∈ s.deployments ∨ ∃ d ∈ s.deployments, d.id = key ∧
        d' = d.observe u := by
  obtain ⟨old, hold, hr, hs'⟩ := DB.updateDeployment_eq_some.mp h
  have hmem := mem_of_find?_eq_some hold
  have hp := find?_some hold
  have hcr : ∀ x, s'.core x = s.core x := fun _ => DB.core_of_updateDeployment h
  subst hs'
  refine ⟨old, hmem, ?_, ?_, ?_, hr, mem_updateWhere.mpr ⟨old, hmem, ?_⟩, rfl, hcr,
    fun d' hd' => ?_⟩
  · simp only [Bool.and_eq_true, beq_iff_eq] at hp
    exact hp.1.1.1
  · simp only [Bool.and_eq_true, beq_iff_eq] at hp
    exact hp.1.1.2
  · simp only [Bool.and_eq_true, beq_iff_eq] at hp
    exact hp.1.2
  · rw [if_pos hp, hr]
  · obtain ⟨d, hd, rfl⟩ := mem_updateWhere.mp hd'
    split
    next hpd =>
      simp only [Bool.and_eq_true, beq_iff_eq] at hpd
      exact .inr ⟨d, hd, hpd.1.1.1, rfl⟩
    · exact .inl hd

theorem mem_clustersOf_advance (h : rc' ∈ (advanceFromStatus s clock updated).clustersOf id) :
    ∃ rc ∈ s.clustersOf id, rc.SameKeys rc' ∧ rc'.assignmentAction = rc.assignmentAction ∧
      (rc' = rc ∨ rc'.state = advancedState updated.phase rc.assignmentAction ∧
        ∃ d r, s.deployments.find? (·.id == updated.id) = some d ∧
          d.currentRolloutID = some id ∧ s.rollout id = some r ∧ rc.clusterID = d.clusterID ∧
          statusApplies r.state rc.assignmentAction ∧
          advances updated.phase rc.state) := by
  rcases @advanceFromStatus_eq s clock updated with heq | ⟨d, rolloutID, r, _, hd, hid, hr, heq, -⟩
  · rw [heq] at h
    exact ⟨rc', h, ⟨rfl, rfl, rfl⟩, rfl, .inl rfl⟩
  · rw [heq] at h
    obtain ⟨rc, hrc, rfl⟩ := mem_clustersOf_updateClusterRows (by intro; rfl) h
    refine ⟨rc, hrc, ?_⟩
    split
    next hp =>
      simp only [Bool.and_eq_true, beq_iff_eq] at hp
      obtain ⟨⟨⟨hrl, hcl⟩, hap⟩, ha⟩ := hp
      have hs : rolloutID = id := by
        rw [← hrl]
        exact beq_iff_eq.mp (mem_filter.mp hrc).2
      subst hs
      exact ⟨⟨rfl, rfl, rfl⟩, rfl, .inr ⟨rfl, d, r, hd, hid, hr, hcl, hap, ha⟩⟩
    · exact ⟨⟨rfl, rfl, rfl⟩, rfl, .inl rfl⟩

theorem rolloutClusters_advance {r : RolloutRow}
    (hd : s.deployments.find? (·.id == updated.id) = some d)
    (hid : d.currentRolloutID = some id) (hr : s.rollout id = some r)
    (hg : d.desiredGeneration = updated.observedGeneration)
    (hdg : d.desiredSpecDigest = updated.observedSpecDigest) :
    (advanceFromStatus s clock updated).rolloutClusters = updateWhere
        (fun rc => rc.rolloutID == id && rc.clusterID == d.clusterID &&
          statusApplies r.state rc.assignmentAction && advances updated.phase rc.state)
        (fun rc => { rc.advance clock.dbNow updated.phase updated.lastErrorCode with
          updatedAt := clock.dbNow }) s.rolloutClusters := by
  simp only [advanceFromStatus, advanceDeliveryRolloutClusterFromStatus, hd, hid, hr,
    Option.bind_eq_bind, Option.bind_some, hg, hdg, and_self, if_true]
  split
  · -- no row met the condition
    rename_i hn
    rw [Option.map_eq_none_iff, find?_eq_none] at hn
    rw [updateWhere_of_forall_not fun rc hrc => by simpa using hn rc hrc]
  next hs =>
    obtain ⟨_, -, heq⟩ := Option.map_eq_some_iff.mp hs
    cases heq
    rfl

theorem advanceFromStatus_ready {r : RolloutRow}
    (hd : s.deployments.find? (·.id == updated.id) = some d)
    (hid : d.currentRolloutID = some plan.id) (hr : s.rollout plan.id = some r)
    (hs : r.state = .progressing) (hph : updated.phase = .ready)
    (hg : d.desiredGeneration = updated.observedGeneration)
    (hdg : d.desiredSpecDigest = updated.observedSpecDigest)
    (h : rc' ∈ (advanceFromStatus s clock updated).clustersOf plan.id)
    (hcl : rc'.clusterID = d.clusterID) (han : rc'.assignmentAction = .apply) :
    isApplyActive rc'.state = false := by
  -- a row of the cluster that is waited for meets the condition of the update
  have hm : ∀ rc ∈ s.clustersOf plan.id, rc.clusterID = d.clusterID →
      rc.assignmentAction = .apply → isApplyActive rc.state →
      (rc.rolloutID == plan.id && rc.clusterID == d.clusterID &&
        statusApplies r.state rc.assignmentAction && advances updated.phase rc.state) := by
    intro rc hrc hc ha hac
    have had : advances .ready rc.state := by
      cases hst : rc.state <;> rw [hst] at hac <;> first | rfl | cases hac
    rw [(mem_filter.mp hrc).2, hc, ha, hs, hph, had]
    simp [statusApplies]
  obtain ⟨hmem, hrl⟩ := mem_filter.mp h
  rw [rolloutClusters_advance hd hid hr hg hdg] at hmem
  obtain ⟨rc, hrc, rfl⟩ := mem_updateWhere.mp hmem
  split at hcl
  next hp =>
    rw [if_pos hp] at han ⊢
    have ha : rc.assignmentAction = .apply := han
    show isApplyActive (advancedState updated.phase rc.assignmentAction) = false
    rw [hph, ha]
    rfl
  next hp =>
    rw [if_neg hp] at han hrl ⊢
    by_contra hac
    rw [Bool.not_eq_false] at hac
    exact hp (hm rc (mem_filter.mpr ⟨hrc, hrl⟩) hcl han hac)

theorem deployments_advance :
    (advanceFromStatus s clock updated).deployments = s.deployments := by
  rcases @advanceFromStatus_eq s clock updated with heq | ⟨_, _, _, _, -, -, -, heq, -⟩ <;> rw [heq]
  rfl

theorem DB.Writes.of_advance :
    DB.Writes s (advanceFromStatus s clock updated) := by
  rcases @advanceFromStatus_eq s clock updated with heq | ⟨_, _, _, _, -, -, -, heq, -⟩
  · rw [heq]
  · rw [heq]
    exact .createRolloutEvent (.updateClusterRows .refl (by intro; exact ⟨rfl, rfl, rfl⟩))

structure Reporting (plan : FrozenRollout) (db s : DB) : Prop where
  keys : s.Keys
  state : s.stateOf plan.id = db.stateOf plan.id
  own : OwnTarget plan s
  desired : ∀ d ∈ s.deployments, ∃ d0 ∈ db.deployments, d0.id = d.id ∧
    d0.currentRolloutID = d.currentRolloutID ∧ d0.desiredGeneration = d.desiredGeneration ∧
    d0.desiredSpecDigest = d.desiredSpecDigest ∧ d0.clusterID = d.clusterID
  waits : db.stateOf plan.id ≠ some .progressing → ∀ d, s.WaitsFor plan d → db.WaitsFor plan d

theorem Reporting.observed {key u row} (h : Reporting plan db s)
    (hu : updateClusterDeploymentObservedCAS s key u = some (s', row)) :
    Reporting plan db s' := by
  obtain ⟨_, -, -, -, -, -, -, hrs, hcr, hdp⟩ := observedCAS_eq_some hu
  refine ⟨h.keys.write (.updateDeployment (by intro _ _; exact ⟨rfl, rfl, rfl⟩) hu), ?_,
    fun d' hd' how => ?_, fun d' hd' => ?_, fun hnot d hw => ?_⟩
  · rw [DB.stateOf_eq_core, hcr, ← DB.stateOf_eq_core, h.state]
  · rcases hdp d' hd' with hd | ⟨d, hd, -, rfl⟩
    · exact h.own d' hd how
    · exact h.own d hd how
  · rcases hdp d' hd' with hd | ⟨d, hd, -, rfl⟩
    · exact h.desired d' hd
    · exact h.desired d hd
  · rw [DB.WaitsFor, DB.clustersOf, hrs] at hw
    exact h.waits hnot d hw

theorem Reporting.advance (h : Reporting plan db s) :
    Reporting plan db (advanceFromStatus s clock updated) := by
  refine ⟨DB.Writes.of_advance.keeps (fun _ _ hw hk => hk.write hw) h.keys, ?_, ?_, ?_,
    fun hnot d hwt => h.waits hnot d ?_⟩
  · rw [DB.stateOf_eq_core, advanceFromStatus_frame.core, ← DB.stateOf_eq_core, h.state]
  · rw [OwnTarget, deployments_advance]
    exact h.own
  · rw [deployments_advance]
    exact h.desired
  · obtain ⟨rc', hrc', hcl, han, ha⟩ := hwt
    obtain ⟨rc, hrc, hs, hkp, heq | ⟨-, d', r, -, -, hr, -, hap, -⟩⟩ := mem_clustersOf_advance hrc'
    · exact ⟨rc, hrc, by rw [← hs.cluster, hcl], by rw [← hkp, han], by rw [← heq, ha]⟩
    · -- an apply is advanced on a progressing rollout only
      exfalso
      rw [← hkp, han] at hap
      refine hnot ?_
      rw [← h.state, DB.stateOf, hr, Option.map_some]
      cases hst : r.state <;> rw [hst] at hap <;> first | rfl | cases hap

theorem Reporting.deployment_eq (h : Reporting plan db s) {t c} (hd : d ∈ s.deployments)
    (ht : d.targetID = t) (hc : d.clusterID = c) :
    s.deployment t c = some d := by
  subst ht hc
  exact h.keys.deployment_eq hd

theorem Reporting.kept_ingestDeployment {senv} (h : Reporting plan db s) (hkp : StatusKept plan s)
    (hh : ∀ d ∈ db.deployments, report.ReadyFor plan d →
      db.stateOf plan.id = some .progressing ∨ ¬ db.WaitsFor plan d) :
    StatusKept plan (ingestDeployment senv clock session payload s report) := by
  rcases ingestDeployment_cases report with heq | ⟨observed, updated, hu, heq⟩ <;> rw [heq]
  · exact hkp
  · have ho : Reporting plan db observed := h.observed hu
    obtain ⟨old, hold, hk, hg, hdg, hrw, hmem, hrs, -, hdp⟩ := observedCAS_eq_some hu
    rintro rc' hrc' ⟨han, d', hd', how, hph, hrd⟩
    rw [DB.deployment, deployments_advance] at hd'
    have hd'mem := mem_of_find?_eq_some hd'
    obtain ⟨hd't, hd'c⟩ := DB.key_of_deployment hd'
    obtain ⟨rc, hrc, hs, hac, hmv⟩ := mem_clustersOf_advance hrc'
    by_cases hid : d'.id = updated.id
    · -- the row of this observation
      have heq : d' = updated := ho.keys.eq_of_id hd'mem hmem hid
      subst heq
      have hf : observed.deployments.find? (·.id == d'.id) = some d' :=
        find?_of_nodup_map ho.keys.deployments hmem (by simp) fun r hr => by simpa using hr
      by_cases hpr : db.stateOf plan.id = some .progressing
      · obtain ⟨r, hr, hst⟩ : ∃ r, observed.rollout plan.id = some r ∧ r.state = .progressing := by
          rw [← ho.state, DB.stateOf, Option.map_eq_some_iff] at hpr
          exact hpr
        exact advanceFromStatus_ready hf how hr hst hph hrd.1.symm hrd.2.symm hrc' hd'c.symm han
      · by_contra ha
        rw [Bool.not_eq_false] at ha
        have hrw' : (rc.SameKeys rc' ∧ rc' = rc) := by
          rcases hmv with heq | ⟨-, d, r, -, -, hr, -, hap, -⟩
          · exact ⟨hs, heq⟩
          · exfalso
            rw [← hac, han] at hap
            refine hpr ?_
            rw [← ho.state, DB.stateOf, hr, Option.map_some]
            cases hst : r.state <;> rw [hst] at hap <;> first | rfl | cases hap
        obtain ⟨-, rfl⟩ := hrw'
        have hw : db.WaitsFor plan d' := ho.waits hpr d' ⟨rc', hrc, hd'c.symm, han, ha⟩
        obtain ⟨d0, hd0, hid0, how0, hg0, hdg0, hcl0⟩ := ho.desired d' hmem
        have hfr : report.ReadyFor plan d0 := by
          rw [hrw] at hid0 how0 hg0 hdg0 hph how
          exact ⟨hph, hid0.trans hk, how0.trans how, hg0.trans hg, hdg0.trans hdg⟩
        rcases hh d0 hd0 hfr with hp | hnot
        · exact hpr hp
        · refine hnot ?_
          rw [DB.WaitsFor, hcl0]
          exact hw
    · -- another row: it is as it was, and so is its cluster
      have hd's : d' ∈ s.deployments := by
        rcases hdp d' hd'mem with hd | ⟨d, -, hdk, rfl⟩
        · exact hd
        · exfalso
          refine hid ?_
          rw [hrw]
          exact hdk.trans hk.symm
      rcases hmv with rfl | ⟨-, d, r, hf, hdw, -, hdc, -⟩
      · rw [DB.clustersOf, hrs] at hrc
        exact hkp rc' hrc ⟨han, d', h.deployment_eq hd's hd't hd'c, how, hph, hrd⟩
      · exfalso
        have hdm := mem_of_find?_eq_some hf
        have hdd : d.id = updated.id := by simpa using find?_some hf
        have heq : d' = d := ho.keys.eq_of_pair hd'mem hdm
          (hd't.trans (ho.own d hdm hdw).symm) (by rw [hd'c, hs.cluster, hdc])
        exact hid (heq ▸ hdd)

theorem Reporting.kept_refreshDeployment (h : Reporting plan db s) (hk : StatusKept plan s) :
    StatusKept plan (refreshDeployment session payload s report) := by
  simp only [refreshDeployment]
  split
  · exact hk
  next current hc =>
    split
    · exact hk
    next hs =>
      split
      · exact hk
      next refreshed _ hu =>
        obtain ⟨_, -, -, -, -, -, -, hrs, -, hdp⟩ := observedCAS_eq_some hu
        simp only [not_or, not_not, ne_eq] at hs
        obtain ⟨hg, hdg, ho, hod, -⟩ := hs
        rintro rc hrc ⟨han, d', hd', how, hph, hr⟩
        rw [DB.clustersOf, hrs] at hrc
        obtain ⟨hd't, hd'c⟩ := DB.key_of_deployment hd'
        rcases hdp d' (mem_of_find?_eq_some hd') with hd | ⟨d, hd, hdk, rfl⟩
        · exact hk rc hrc ⟨han, d', h.deployment_eq hd hd't hd'c, how, hph, hr⟩
        · have hcu := mem_of_find?_eq_some hc
          have hcr : current.id = report.deploymentID := by
            have := find?_some hc
            simp only [Bool.and_eq_true, beq_iff_eq] at this
            exact this.1
          have heq : d = current := h.keys.eq_of_id hd hcu (hdk.trans hcr.symm)
          subst heq
          exact hk rc hrc ⟨han, d, h.deployment_eq hd hd't hd'c, how, hph,
            ho.trans hg.symm, hod.trans hdg.symm⟩

theorem Reporting.ingestDeployment {senv} (h : Reporting plan db s) :
    Reporting plan db (ingestDeployment senv clock session payload s report) := by
  rcases ingestDeployment_cases report with heq | ⟨_, _, hu, heq⟩ <;> rw [heq]
  · exact h
  · exact (h.observed hu).advance

theorem Reporting.refreshDeployment (h : Reporting plan db s) :
    Reporting plan db (refreshDeployment session payload s report) := by
  simp only [Delivery.refreshDeployment]
  split
  · exact h
  · split
    · exact h
    · split
      · exact h
      next hu => exact h.observed hu

theorem StatusKept.ingest {senv db'} (hky : db.Keys) (how : OwnTarget plan db)
    (hk : StatusKept plan db)
    (hh : ∀ report ∈ payload.deployments, ∀ d ∈ db.deployments, report.ReadyFor plan d →
      db.stateOf plan.id = some .progressing ∨ ¬ db.WaitsFor plan d)
    (hok : ingest senv db clock session payload = .ok db') :
    OwnTarget plan db' ∧ StatusKept plan db' := by
  have hsr : Reporting plan db db :=
    ⟨hky, rfl, how, fun d hd => ⟨d, hd, rfl, rfl, rfl, rfl, rfl⟩, fun _ _ hw => hw⟩
  have he : Reporting plan db db' ∧ StatusKept plan db' :=
    ingest_induct (P := fun s => Reporting plan db s ∧ StatusKept plan s)
      (fun s inventories hs => ⟨⟨⟨⟨hs.1.keys.connections, hs.1.keys.deployments⟩, hs.1.keys.pairs,
        hs.1.keys.clusterRows⟩, hs.1.state, hs.1.own, hs.1.desired, hs.1.waits⟩, hs.2⟩)
      (fun s receipts hs => ⟨⟨⟨⟨hs.1.keys.connections, hs.1.keys.deployments⟩, hs.1.keys.pairs,
        hs.1.keys.clusterRows⟩, hs.1.state, hs.1.own, hs.1.desired, hs.1.waits⟩, hs.2⟩)
      (fun s report hmem hs => ⟨hs.1.ingestDeployment,
        hs.1.kept_ingestDeployment hs.2 (hh report hmem)⟩)
      (fun s report _ hs => ⟨hs.1.refreshDeployment, hs.1.kept_refreshDeployment hs.2⟩)
      ⟨hsr, hk⟩ hok
  exact ⟨he.1.own, he.2⟩

theorem ingest_clusterRows {senv} {db' : DB} {R : RolloutClusterRow → RolloutClusterRow → Prop}
    (hrf : ∀ rc, R rc rc) (had : ∀ rc rc' rc'' phase, R rc rc' → rc'.SameKeys rc'' →
      rc''.assignmentAction = rc'.assignmentAction → advances phase rc'.state →
      rc''.state = advancedState phase rc'.assignmentAction → R rc rc'')
    (hok : ingest senv db clock session payload = .ok db') :
    ∀ rc' ∈ db'.clustersOf id, ∃ rc ∈ db.clustersOf id, R rc rc' := by
  refine ingest_keeps (P := fun s => ∀ rc' ∈ s.clustersOf id, ∃ rc ∈ db.clustersOf id, R rc rc')
    (fun _ _ hs => hs) (fun _ _ hs => hs) (fun s s' u row d _ hs hu rc' hrc' => ?_)
    (fun s updated hs rc'' hrc'' => ?_) (fun rc hrc => ⟨rc, hrc, hrf rc⟩) hok
  · obtain ⟨_, -, -, -, -, -, -, hrs, -⟩ := observedCAS_eq_some hu
    rw [DB.clustersOf, hrs] at hrc'
    exact hs rc' hrc'
  · obtain ⟨rc', hrc', hsm, han, hmv⟩ := mem_clustersOf_advance hrc''
    obtain ⟨rc, hrc, hr⟩ := hs rc' hrc'
    refine ⟨rc, hrc, ?_⟩
    rcases hmv with rfl | ⟨hst, _, _, -, -, -, -, -, ha⟩
    · exact hr
    · exact had rc rc' rc'' _ hr hsm han ha hst

theorem ingest_timedOut {senv} {db' : DB} (hok : ingest senv db clock session payload = .ok db') :
    ∀ rc' ∈ db'.clustersOf id, ∃ rc ∈ db.clustersOf id, rc.SameKeys rc' ∧
      (rc'.state = .timedOut → rc.state = .timedOut) := by
  refine ingest_clusterRows (R := fun rc rc' => rc.SameKeys rc' ∧
    (rc'.state = .timedOut → rc.state = .timedOut)) (fun rc => ⟨⟨rfl, rfl, rfl⟩, fun h => h⟩) ?_ hok
  intro rc rc' rc'' phase hr hs _ _ hst
  refine ⟨hr.1.trans hs, fun ht => absurd (hst.symm.trans ht) ?_⟩
  cases phase <;> cases rc'.assignmentAction <;> decide

end Report

/-! ## The system -/

section System

variable {env : Env} {senv : StatusEnv} {plan : FrozenRollout} {w : World} {e : Event} {db' : DB}

structure World.Heard (env : Env) (plan : FrozenRollout) (w : World) : Prop where
  staffed : w.Staffed env plan
  integrity : w.Integrity
  own : OwnTarget plan w.db
  kept : StatusKept plan w.db

theorem World.Staffed.lawful {runtime decidedAt} {j : Job} {decision : Decision}
    (h : w.Staffed env plan) (hj : j ∈ w.jobs) (hid : j.claimed.id = plan.id)
    (hsg : j.stage = .decided runtime decision decidedAt) :
    j.claimed.frozenPlan = plan ∧
      ∃ input clusters, input.snapshot.plan = plan ∧ decision.Lawful env input clusters := by
  obtain ⟨hp, hd⟩ := h.jobs j hj hid
  obtain ⟨approvals, windows, -, he⟩ := hd _ _ _ hsg
  obtain ⟨input, clusters, hsn, -, -, -, -, hl⟩ := evaluateClaimed_lawful hp he
  exact ⟨hp, input, clusters, by rw [hsn]; rfl, hl⟩

theorem DB.RecordsReady.of_deployment {db db' : DB} {rc : RolloutClusterRow}
    (h : db'.RecordsReady plan rc') (han : rc'.assignmentAction = rc.assignmentAction)
    (hcl : rc'.clusterID = rc.clusterID)
    (hdp : db'.deployment plan.targetID rc.clusterID = db.deployment plan.targetID rc.clusterID) :
    db.RecordsReady plan rc := by
  obtain ⟨ha, d, hd, hrest⟩ := h
  rw [hcl, hdp] at hd
  exact ⟨han ▸ ha, d, hd, hrest⟩

theorem World.Heard.decision {other : FrozenRollout} {decision : Decision} (h : w.Heard env plan)
    (hky : db'.Keys) (hot : other.id = plan.id → other = plan ∧
      ∃ input clusters, decision.Lawful env input clusters)
    (hef : DecisionEffect other decision w.db db') :
    OwnTarget plan db' ∧ StatusKept plan db' := by
  refine ⟨fun d hd how => ?_, fun rc' hrc' hrd => ?_⟩
  · have hf := hky.deployment_eq hd
    by_cases hrl : ∃ release ∈ decision.releases,
        d.targetID = other.targetID ∧ d.clusterID = release.clusterID
    · obtain ⟨release, hmem, ht, hc⟩ := hrl
      obtain ⟨row, hr, hw⟩ := hef.released release hmem
      rw [ht, hc, hr] at hf
      cases hf
      have hid : other.id = plan.id := Option.some.inj (hw.owner.symm.trans how)
      rw [ht, (hot hid).1]
    · have hs := hef.others d.targetID d.clusterID fun release hmem heq =>
        hrl ⟨release, hmem, heq⟩
      rw [hs] at hf
      exact h.own d (mem_of_find?_eq_some hf) how
  · obtain ⟨rc, hrc, hk, hmv⟩ := hef.rows plan.id rc' hrc'
    by_cases hrl : ∃ release ∈ decision.releases,
        plan.targetID = other.targetID ∧ rc'.clusterID = release.clusterID
    · -- the cluster was released: its row is pending, or another rollout's
      obtain ⟨release, hmem, ht, hc⟩ := hrl
      obtain ⟨row, hr, hw⟩ := hef.released release hmem
      obtain ⟨-, d, hd, -, hph, -⟩ := hrd
      rw [ht, hc, hr] at hd
      cases hd
      rw [hw.phase] at hph
      cases hph
    · have hs := hef.others plan.targetID rc'.clusterID fun release hmem heq =>
        hrl ⟨release, hmem, heq⟩
      rcases hmv with rfl | ⟨hid, hse | ⟨release, hmem, hc, -⟩⟩
      · exact h.kept rc' hrc (hrd.of_deployment rfl rfl hs)
      · obtain ⟨-, _, _, hl⟩ := hot hid.symm
        obtain ⟨-, hst | hst | ⟨-, hst⟩⟩ := hse.of_lawful hl <;> rw [hst] <;> rfl
      · obtain ⟨rfl, -⟩ := hot hid.symm
        exact absurd ⟨release, hmem, rfl, by rw [hk.cluster, hc]⟩ hrl

theorem World.Heard.step (h : w.Heard env plan) (he : NoOtherWriter e) (hh : StatusHeard plan w e) :
    (w.step env senv e).Heard env plan := by
  have hky : (w.step env senv e).db.Keys := World.keys_step h.integrity.keys
  have hrest : OwnTarget plan (w.step env senv e).db ∧ StatusKept plan (w.step env senv e).db := by
    cases @World.effect_step env senv plan w e h.integrity h.staffed.isSome he with
    | quiet hq =>
      refine ⟨by rw [OwnTarget, hq.deployments]; exact h.own, fun rc' hrc' hr => ?_⟩
      obtain ⟨rc, hrc, hk, rfl | hst⟩ := hq.rows rc' hrc'
      · refine h.kept rc' hrc (hr.of_deployment rfl rfl ?_)
        rw [DB.deployment, hq.deployments]
        rfl
      · rw [hst]
        rfl
    | decision hj hsg hid _ hef =>
      refine h.decision hky (fun hs => ?_) hef
      obtain ⟨hp, input, clusters, -, hl⟩ := h.staffed.lawful hj (hid.symm.trans hs) hsg
      exact ⟨hp, input, clusters, hl⟩
    | report hok => exact StatusKept.ingest h.integrity.keys h.own h.kept hh hok
  exact ⟨h.staffed.step, h.integrity.step, hrest.1, hrest.2⟩

theorem World.Heard.neverTimedOut (h : w.Heard env plan) (he : NoOtherWriter e) :
    NeverTimedOut plan w (w.step env senv e) := by
  intro rc hrc rc' hrc' hid hnot ht hr
  -- the row before the event, by its key
  have hbf : ∀ rc0 ∈ w.db.clustersOf plan.id, rc0.SameKeys rc' → rc0 = rc := fun rc0 hrc0 hk =>
    inj_on_of_nodup_map h.integrity.keys.clusterRows (mem_filter.mp hrc0).1
      (mem_filter.mp hrc).1 (hk.id.symm.trans hid)
  cases @World.effect_step env senv plan w e h.integrity h.staffed.isSome he with
  | quiet hq =>
    obtain ⟨rc0, hrc0, hk, rfl | hst⟩ := hq.rows rc' hrc'
    · exact hnot (hbf rc' hrc0 hk ▸ ht)
    · rw [hst] at ht
      cases ht
  | decision hj hsg hp _ hef =>
    obtain ⟨rc0, hrc0, hk, hmv⟩ := hef.rows plan.id rc' hrc'
    have heq := hbf rc0 hrc0 hk
    subst heq
    rcases hmv with rfl | ⟨hs, hmv⟩
    · exact hnot ht
    · obtain ⟨-, _, _, -, hl⟩ := h.staffed.lawful hj (hp.symm.trans hs.symm) hsg
      rcases hmv with hse | ⟨release, hmem, -, hst, -⟩
      · obtain ⟨-, hst | hst | ⟨ha, -⟩⟩ := hse.of_lawful hl
        · rw [hst] at ht
          cases ht
        · rw [hst] at ht
          cases ht
        · rw [h.kept _ hrc hr] at ha
          cases ha
      · rw [hst, (hl.release hmem).1] at ht
        cases han : release.action <;> rw [han] at ht <;> cases ht
  | report hok =>
    obtain ⟨rc0, hrc0, hk, hi⟩ := ingest_timedOut hok rc' hrc'
    exact hnot (hbf rc0 hrc0 hk ▸ hi ht)

theorem World.Heard.of_insert {db now newID} (senv : StatusEnv)
    (hi : insertRollout env w.db now newID plan = .ok db) (hn : w.Unseen plan.id)
    (hw : w.Integrity) (hf : ∀ d ∈ w.db.deployments, d.currentRolloutID ≠ some plan.id) :
    World.Heard env plan { w with db } := by
  have hstep : World.Integrity { w with db } := by
    rw [← @World.step_create env senv w plan db now newID hi]
    exact hw.step
  refine ⟨.of_insert hi hn.jobs, hstep, ?_, ?_⟩
  · intro d hd how
    refine absurd how (hf d ?_)
    obtain ⟨-, -, -, -, hr⟩ := insertRollout_eq_ok hi
    obtain ⟨_, _, _, _, _, rfl⟩ := recompute_eq_some hr
    exact hd
  · intro rc hrc _
    rw [show DB.clustersOf _ plan.id = _ from clustersOf_insertRollout hi hn] at hrc
    obtain ⟨c, -, rfl⟩ := mem_map.mp hrc
    rfl

end System

/-- **No report is lost.** Along every run in which the reports of `ready` are heard, no
cluster whose deployment records `ready` is still waited for, and none times out. -/
theorem status_kept_of_heard {env : Env} {senv : StatusEnv} {plan : FrozenRollout} {w : World}
    {db : DB} {now : Time} {newID : UUID → UUID} {es : List Event}
    (hins : insertRollout env w.db now newID plan = .ok db) (hnew : w.Unseen plan.id)
    (hw : w.Integrity) (hfree : ∀ d ∈ w.db.deployments, d.currentRolloutID ≠ some plan.id)
    (hone : ∀ e ∈ es, NoOtherWriter e)
    (hmeets : RunMeets (World.step env senv) (StatusHeard plan) { w with db } es) :
    RunMeets (World.step env senv) (fun w e => StatusKept plan (w.step env senv e).db ∧
        NeverTimedOut plan w (w.step env senv e)) { w with db } es :=
  RunMeets.of_invariant (P := World.Heard env plan) (fun _ _ h hok => h.step hok.1 hok.2)
    (fun w e h hok => by
      have hn : (w.step env senv e).Heard env plan := h.step hok.1 hok.2
      exact ⟨hn.kept, h.neverTimedOut hok.1⟩)
    (hmeets.and_mem hone) (.of_insert senv hins hnew hw hfree)

/-! ## On one cluster -/

namespace OneCluster

def heardRun : List Event :=
  released ++ [status 1 1 .ready 14, .act ⟨15, 15⟩ (action 4 .pause),
    .act ⟨16, 16⟩ (action 5 .resume)]

def deafRun : List Event :=
  released ++ [.act ⟨14, 14⟩ (action 4 .pause), status 1 1 .ready 15,
    .act ⟨16, 16⟩ (action 5 .resume)] ++ pass 17 ++ [status 2 1 .ready 18]

end OneCluster

open OneCluster in
/-- The cluster is ready, and the run keeps its reports. -/
theorem heardRun_kept :
    ((run (World.step env senv) (inserted firstPlan) heardRun).db.clustersOf 1).map (·.state) =
        [.ready] ∧
      RunMeets (World.step env senv) (fun w e => StatusKept firstPlan (w.step env senv e).db ∧
          NeverTimedOut firstPlan w (w.step env senv e)) (inserted firstPlan) heardRun :=
  ⟨by decide +kernel, @status_kept_of_heard env senv firstPlan world _ 10 (· + 100) _ (by rfl)
      unseen integrity (by simp [world]) (by decide) (by decide +kernel)⟩

open OneCluster in
/-- The resumed rollout is progressing and has heard a second report of the session. The
deployment is recorded ready, the cluster is waited for, and the next pass after the
deadline times it out. -/
theorem deafRun_timesOut : let resumed := run (World.step env senv) (inserted firstPlan) deafRun
    let final := run (World.step env senv) resumed (pass 1013)
    resumed.db.stateOf 1 = some .progressing ∧
      (resumed.db.inventories.map (·.agentSequence)) = [2] ∧
      (resumed.db.clustersOf 1).map (·.state) = [.released] ∧
      ¬ StatusKept firstPlan resumed.db ∧
      (final.db.clustersOf 1).map (·.state) = [.timedOut] ∧
      ¬ NeverTimedOut firstPlan resumed final := by
  decide +kernel

end Astronomer.Delivery
