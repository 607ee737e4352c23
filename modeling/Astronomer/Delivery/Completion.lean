import Astronomer.Delivery.Rollback
import Astronomer.Delivery.StatusReports
import Astronomer.Delivery.Budgets

/-!
# What success says about the deployments

A rollout succeeds on its own cluster rows and does not look at the deployments again. So
every cluster is asked for the version the plan froze, or another rollout released it since.
-/

namespace Astronomer.Delivery

open List

def DB.targetOf (db : DB) (id : UUID) : Option UUID := (db.rollout id).map (·.targetID)

def RolloutEventRow.Releases (e : RolloutEventRow) (id clusterID : UUID) : Prop :=
  e.eventType = .clusterReleased ∧ e.rolloutID = id ∧ e.clusterID = some clusterID

def DB.Overtaken (db : DB) (plan : FrozenRollout) (clusterID : UUID) : Prop :=
  ∃ before e after, db.rolloutEvents = before ++ e :: after ∧
    (∃ other, other ≠ plan.id ∧ e.Releases other clusterID ∧
      db.targetOf other = some plan.targetID) ∧
    ∀ e' ∈ after, ¬ e'.Releases plan.id clusterID

def DB.Deploys (db : DB) (plan : FrozenRollout) (planned : PlannedCluster) : Prop :=
  ∃ d, db.deployment plan.targetID planned.clusterID = some d ∧
    d.desiredSpecDigest = (plan.desiredFor planned).specDigest

instance (db : DB) (plan : FrozenRollout) (planned : PlannedCluster) :
    Decidable (db.Deploys plan planned) :=
  decidable_of_iff (∃ d ∈ db.deployment plan.targetID planned.clusterID,
    d.desiredSpecDigest = (plan.desiredFor planned).specDigest) Iff.rfl

def SuccessDeployed (plan : FrozenRollout) (w w' : World) : Prop :=
  w'.db.stateOf plan.id = some .succeeded → w.db.stateOf plan.id ≠ some .succeeded →
    ∀ planned ∈ plan.clusters,
      w'.db.Deploys plan planned ∨ w'.db.Overtaken plan planned.clusterID

/-! ## The scheduler -/

section Scheduler

variable {env : Env} {input : EvaluateInput} {clusters : List ClusterRuntime} {d : Decision}

theorem not_failed_of_counters {states s} (h : (deriveRolloutCounters states).failed = 0)
    (hs : s ∈ states) :
    s ≠ .failed ∧ s ≠ .timedOut := by
  have hz : (states.foldl RolloutCounters.count {}).failed = 0 := h
  rw [failed_foldl_count, Nat.add_eq_zero_iff, countP_eq_zero] at hz
  have hnot := hz.2 s hs
  constructor
  · rintro rfl
    simp at hnot
  · rintro rfl
    simp at hnot

theorem evaluate_succeeded {t : RolloutTransition} (hok : evaluate env input = .ok d)
    (ht : d.rolloutTransition = some t) (hto : t.toState = .succeeded) :
    d.Idle ∧ ∀ planned ∈ input.snapshot.plan.clusters,
      ∃ c ∈ input.snapshot.clusters, c.clusterID = planned.clusterID ∧
        (c.state = .ready ∨ c.state = .skipped) := by
  obtain ⟨-, -, hmem, hid⟩ := (evaluate_legal hok).moves t ht
  obtain ⟨clusters, d0, hpl, hr, hsa, hmv, -⟩ := evaluate_eq_ok hok
  rw [hmv] at ht
  have hm := FrozenRollout.members_of_validate hpl
  have hpc := RuntimePlaced.of_validate hm hr
  have hlw := evaluateState_lawful rfl ⟨rfl, rfl⟩ hsa
  refine ⟨hid, fun planned hp => ?_⟩
  cases hst : input.snapshot.state <;> simp [hst, hto, rolloutTransitions] at hmem <;>
    simp only [Decision.Lawful, evaluateState, hst] at hlw hsa
  case queued =>
    have hot := (hlw.2 t ht).2.2
    simp [hto] at hot
  case progressing =>
    cases evaluateProgressing_progress rfl hsa with
    | settle hl =>
      rw [(settle_kept hl).1] at ht
      cases ht
    | wait _ => cases ht
    | release _ _ _ _ _ _ _ hok =>
      rw [(releaseCohort_spends hm hpc rfl ⟨rfl, rfl⟩ hok).1] at ht
      cases ht
    | move _ hdone hs =>
      rw [setRolloutTransition_eq_ok hs] at ht
      cases ht
      obtain ⟨hfl, active, hac, ha⟩ := hdone hto
      obtain ⟨cohort, hch, hidx⟩ := FrozenRollout.cohort_of_validate hpl hp
      obtain ⟨i, hi⟩ := getElem?_of_mem hch
      have hlt : planned.cohort < active.index := by
        rw [activeCohortFrom_index hac ha, ← hidx, FrozenRollout.cohort_index_of_validate hpl hi]
        exact (List.getElem?_eq_some_iff.mp hi).1
      obtain ⟨_, ⟨c, _, hat, hc, -⟩, -⟩ := activeCohort_done hpl hac planned hp hlt
      obtain ⟨hnf, hnt⟩ := not_failed_of_counters hfl
        (mem_map_of_mem (mem_of_getElem? hat))
      refine ⟨c, (validateRuntime_perm hm hr).mem_iff.mp (mem_of_getElem? hat),
        hpc.named planned hp c hat, ?_⟩
      rcases hc with ⟨hrd, -⟩ | ⟨hf | htm | hsk, -⟩
      · exact .inl hrd
      · exact absurd hf hnf
      · exact absurd htm hnt
      · exact .inr hsk

end Scheduler

/-! ## Rows -/

section Rows

variable {plan : FrozenRollout} {db db' : DB} {clusterID : UUID}

theorem DB.targetOf_eq_core {id} : db.targetOf id = (db.core id).map (·.targetID) := by
  rw [DB.targetOf, DB.core, Option.map_map]
  rfl

theorem DB.Overtaken.append (h : db.Overtaken plan clusterID) {new}
    (hl : db'.rolloutEvents = db.rolloutEvents ++ new)
    (hn : ∀ e ∈ new, ¬ e.Releases plan.id clusterID)
    (ht : ∀ id target, db.targetOf id = some target → db'.targetOf id = some target) :
    db'.Overtaken plan clusterID := by
  obtain ⟨before, e, after, heq, ⟨other, hne, hrl, htg⟩, haf⟩ := h
  refine ⟨before, e, after ++ new, by rw [hl, heq]; simp, ⟨other, hne, hrl, ht _ _ htg⟩,
    fun e' he' => ?_⟩
  rcases mem_append.mp he' with he' | he'
  · exact haf e' he'
  · exact hn e' he'

def RolloutClusterState.inFlight : RolloutClusterState → Bool
  | .released | .acknowledged | .reconciling | .ready | .rollingBack | .readyPrevious => true
  | _ => false

theorem inFlight_of_advances {phase} {s : RolloutClusterState} (h : advances phase s) :
    s.inFlight := by
  cases phase <;> cases s <;> first | rfl | cases h

def RolloutClusterRow.Applies (rc : RolloutClusterRow) : Prop :=
  rc.state ≠ .skipped ∧
    (isApplyActive rc.state ∨ rc.state = .ready → rc.assignmentAction = .apply)

theorem RolloutClusterRow.Applies.advance {phase} {rc rc' : RolloutClusterRow} (h : rc.Applies)
    (han : rc'.assignmentAction = rc.assignmentAction) (ha : advances phase rc.state)
    (hst : rc'.state = advancedState phase rc.assignmentAction) : rc'.Applies := by
  rw [RolloutClusterRow.Applies, hst, han]
  cases hac : rc.assignmentAction
  · exact ⟨by cases phase <;> decide, fun _ => rfl⟩
  · -- on the way back: only a phase that tells nothing leads to an active state, and only from
    -- `released`, where the row was not on its way back
    refine ⟨by cases phase <;> decide, fun hb => ?_⟩
    have hr : rc.state = .released := by
      cases phase <;> first | simpa [advances] using ha | simp [advancedState, isApplyActive] at hb
    rw [← hac]
    exact h.2 (.inl (by rw [hr]; rfl))

structure RowsCovered (plan : FrozenRollout) (db : DB) : Prop where
  one : ∀ rc ∈ db.clustersOf plan.id, ∀ rc' ∈ db.clustersOf plan.id,
    rc.clusterID = rc'.clusterID → rc = rc'
  applies : ∀ rc ∈ db.clustersOf plan.id, rc.Applies
  deployed : ∀ rc ∈ db.clustersOf plan.id, rc.assignmentAction = .apply →
    rc.state.inFlight →
    (∃ planned ∈ plan.clusters, planned.clusterID = rc.clusterID ∧ db.Deploys plan planned) ∨
      db.Overtaken plan rc.clusterID

theorem RowsCovered.one_of_keys (h : RowsCovered plan db) (hky' : db'.Keys)
    (hrs : ∀ rc' ∈ db'.clustersOf plan.id, ∃ rc ∈ db.clustersOf plan.id, rc.SameKeys rc') :
    ∀ rc ∈ db'.clustersOf plan.id, ∀ rc' ∈ db'.clustersOf plan.id,
      rc.clusterID = rc'.clusterID → rc = rc' := by
  intro rc1 h1 rc2 h2 hcl
  obtain ⟨old1, hold1, hs1⟩ := hrs rc1 h1
  obtain ⟨old2, hold2, hs2⟩ := hrs rc2 h2
  have heq : old1 = old2 := h.one old1 hold1 old2 hold2 (by rw [← hs1.cluster, ← hs2.cluster, hcl])
  refine inj_on_of_nodup_map hky'.clusterRows (mem_filter.mp h1).1
    (mem_filter.mp h2).1 ?_
  rw [hs1.id, hs2.id, heq]

theorem ingest_specDigest {senv clock session payload target} {d : DeploymentRow}
    (hd : db.deployment target clusterID = some d)
    (hok : ingest senv db clock session payload = .ok db') :
    ∃ d', db'.deployment target clusterID = some d' ∧
      d'.desiredSpecDigest = d.desiredSpecDigest := by
  refine ingest_keeps (P := fun s => ∃ d', s.deployment target clusterID = some d' ∧
      d'.desiredSpecDigest = d.desiredSpecDigest) (fun _ _ hs => hs) (fun _ _ hs => hs)
    (fun s s' u row report _ hs hu => ?_) (fun s updated hs => ?_) ⟨d, hd, rfl⟩ hok
  · obtain ⟨d', hd', hdg⟩ := hs
    obtain ⟨_, -, -, rfl⟩ := DB.updateDeployment_eq_some.mp hu
    have hn := @deployment_updateWhere s (fun d => d.id == report.deploymentID &&
      d.desiredGeneration == u.generation && d.desiredSpecDigest == u.specDigest &&
      d.precedes u.sessionID u.sequence) (·.observe u)
      (fun d => ⟨rfl, rfl⟩) target clusterID
    rw [hd', Option.map_some] at hn
    refine ⟨_, hn, ?_⟩
    split
    · exact hdg
    · exact hdg
  · rw [DB.deployment, deployments_advance]
    exact hs

theorem Decision.Lawful.action_eq {env input clusters} {d : Decision} {release release' : Release}
    (h : d.Lawful env input clusters) (hr : release ∈ d.releases) (hr' : release' ∈ d.releases) :
    release.action = release'.action := by
  have han : ∀ {release : Release}, release ∈ d.releases →
      (input.snapshot.state = .progressing ∧ release.action = .apply) ∨
        (input.snapshot.state = .rollingBack ∧ release.action = .rollback) := by
    intro release hr
    cases hst : input.snapshot.state <;> simp only [Decision.Lawful, hst] at h
    case progressing =>
      obtain ⟨_, -, _, _, -, -, -, hn⟩ := h.releases release hr
      exact .inl ⟨rfl, (newRelease_eq_ok hn).2.1⟩
    case rollingBack =>
      obtain ⟨_, -, _, _, -, -, -, hn⟩ := h.releases release hr
      exact .inr ⟨rfl, (newRelease_eq_ok hn).2.1⟩
    all_goals
      rw [h.1.releases] at hr
      cases hr
  rcases han hr with ⟨hst, ha⟩ | ⟨hst, ha⟩ <;>
    rcases han hr' with ⟨hst', ha'⟩ | ⟨hst', ha'⟩ <;> simp_all

section

variable (h : RowsCovered plan db)
  (ht : ∀ id target, db.targetOf id = some target → db'.targetOf id = some target)

include h ht

theorem RowsCovered.keep {new} {rc rc' : RolloutClusterRow}
    (hrc : rc ∈ db.clustersOf plan.id) (hs : rc.SameKeys rc')
    (han : rc'.assignmentAction = rc.assignmentAction) (ha : rc'.assignmentAction = .apply)
    (hf : rc.state.inFlight)
    (hdp : ∀ d, db.deployment plan.targetID rc.clusterID = some d →
      ∃ d', db'.deployment plan.targetID rc.clusterID = some d' ∧
        d'.desiredSpecDigest = d.desiredSpecDigest)
    (hl : db'.rolloutEvents = db.rolloutEvents ++ new)
    (hn : ∀ e ∈ new, ¬ e.Releases plan.id rc.clusterID) :
    (∃ planned ∈ plan.clusters, planned.clusterID = rc'.clusterID ∧ db'.Deploys plan planned) ∨
      db'.Overtaken plan rc'.clusterID := by
  rw [hs.cluster]
  rcases h.deployed rc hrc (han ▸ ha) hf with ⟨planned, hp, hid, d, hd, hdg⟩ | ho
  · rw [hid] at hd
    obtain ⟨d', hd', hs'⟩ := hdp d hd
    exact .inl ⟨planned, hp, hid, d', by rw [hid]; exact hd', hs'.trans hdg⟩
  · exact .inr (ho.append hl hn ht)

variable (hky' : db'.Keys)

include hky'

theorem RowsCovered.quiet (hq : QuietEffect plan.id db db') : RowsCovered plan db' := by
  refine ⟨h.one_of_keys hky' fun rc' hrc' => ?_, fun rc' hrc' => ?_, fun rc' hrc' ha hf => ?_⟩
  · obtain ⟨rc, hrc, hs, -⟩ := hq.rows rc' hrc'
    exact ⟨rc, hrc, hs⟩
  · obtain ⟨rc, hrc, -, rfl | hst⟩ := hq.rows rc' hrc'
    · exact h.applies rc' hrc
    · rw [RolloutClusterRow.Applies, hst]
      exact ⟨by decide, fun hb => by simp [isApplyActive] at hb⟩
  · obtain ⟨rc, hrc, hs, rfl | hst⟩ := hq.rows rc' hrc'
    · obtain ⟨new, hl, hn⟩ := hq.log
      refine h.keep ht hrc hs rfl ha hf (fun d hd => ⟨d, ?_, rfl⟩) hl
        fun e he hrl => hn e he hrl.1
      rw [DB.deployment, hq.deployments]
      exact hd
    · rw [hst] at hf
      cases hf

theorem RowsCovered.report {senv clock session payload}
    (hok : ingest senv db clock session payload = .ok db') : RowsCovered plan db' := by
  have hrs : ∀ rc' ∈ db'.clustersOf plan.id, ∃ rc ∈ db.clustersOf plan.id, rc.SameKeys rc' ∧
      rc'.assignmentAction = rc.assignmentAction ∧ (rc.Applies → rc'.Applies) ∧
      (rc' = rc ∨ rc.state.inFlight) := by
    refine ingest_clusterRows (R := fun rc rc' => rc.SameKeys rc' ∧
      rc'.assignmentAction = rc.assignmentAction ∧ (rc.Applies → rc'.Applies) ∧
      (rc' = rc ∨ rc.state.inFlight))
      (fun rc => ⟨⟨rfl, rfl, rfl⟩, rfl, fun h => h, .inl rfl⟩) ?_ hok
    intro rc rc' rc'' phase ⟨hky, han, hap, hf⟩ hs han' had hst
    refine ⟨hky.trans hs, han'.trans han, fun hrc => ?_, .inr ?_⟩
    · exact (hap hrc).advance han' had hst
    · rcases hf with rfl | hf
      · exact inFlight_of_advances had
      · exact hf
  obtain ⟨new, hl, hn⟩ := (ingest_frame hok).events
  refine ⟨h.one_of_keys hky' fun rc' hrc' => ?_, fun rc' hrc' => ?_, fun rc' hrc' ha hf => ?_⟩
  · obtain ⟨rc, hrc, hs, -⟩ := hrs rc' hrc'
    exact ⟨rc, hrc, hs⟩
  · obtain ⟨rc, hrc, -, -, hap, -⟩ := hrs rc' hrc'
    exact hap (h.applies rc hrc)
  · obtain ⟨rc, hrc, hs, han, -, hmv⟩ := hrs rc' hrc'
    have hw : rc.state.inFlight := by
      rcases hmv with rfl | hw
      · exact hf
      · exact hw
    refine h.keep ht hrc hs han ha hw (fun d hd => ingest_specDigest hd hok) hl fun e he hrl => ?_
    have hty := hn e he
    rw [StatusLog, hrl.1] at hty
    cases hty

theorem RowsCovered.other {decision} {other : FrozenRollout} (hne : other.id ≠ plan.id)
    (htg : db'.targetOf other.id = some other.targetID)
    (hef : DecisionEffect other decision db db') : RowsCovered plan db' := by
  have hrs : ∀ rc' ∈ db'.clustersOf plan.id, rc' ∈ db.clustersOf plan.id := by
    intro rc' hrc'
    obtain ⟨rc, hrc, -, rfl | ⟨hid, -⟩⟩ := hef.rows plan.id rc' hrc'
    · exact hrc
    · exact absurd hid.symm hne
  obtain ⟨new, hl, hn, hr⟩ := hef.log
  refine ⟨h.one_of_keys hky' fun rc' hrc' => ⟨rc', hrs rc' hrc', rfl, rfl, rfl⟩,
    fun rc' hrc' => h.applies rc' (hrs rc' hrc'), fun rc' hrc' ha hf => ?_⟩
  by_cases hrl : ∃ release ∈ decision.releases,
      plan.targetID = other.targetID ∧ rc'.clusterID = release.clusterID
  · obtain ⟨release, hmem, hto, hc⟩ := hrl
    obtain ⟨e, he, hty, hcl⟩ := hr release hmem
    obtain ⟨before, after, rfl⟩ := append_of_mem he
    refine .inr ⟨db.rolloutEvents ++ before, e, after, by rw [hl, append_assoc],
      ⟨other.id, hne, ⟨hty, (hn e he).1, by rw [hcl, hc]⟩, by rw [htg, hto]⟩,
      fun e' he' how => hne ?_⟩
    rw [← (hn e' (by simp [he'])).1, how.2.1]
  · refine h.keep ht (hrs rc' hrc') ⟨rfl, rfl, rfl⟩ rfl ha hf (fun d hd => ⟨d, ?_, rfl⟩) hl
      fun e he how => hne ((hn e he).1.symm.trans how.2.1)
    rw [hef.others _ _ fun release hmem heq => hrl ⟨release, hmem, heq⟩]
    exact hd

theorem RowsCovered.own {env clusters} {input : EvaluateInput} {decision : Decision}
    (hpl : input.snapshot.plan = plan) (hl : decision.Lawful env input clusters)
    (hef : DecisionEffect plan decision db db') : RowsCovered plan db' := by
  have ho := h.one_of_keys hky' fun rc' hrc' => by
    obtain ⟨rc, hrc, hs, -⟩ := hef.rows plan.id rc' hrc'
    exact ⟨rc, hrc, hs⟩
  refine ⟨ho, fun rc' hrc' => ?_, fun rc' hrc' ha hf => ?_⟩
  · obtain ⟨rc, hrc, -, rfl | ⟨-, hse | ⟨release, hmem, -, hst, hac⟩⟩⟩ := hef.rows plan.id rc' hrc'
    · exact h.applies rc' hrc
    · rw [RolloutClusterRow.Applies]
      obtain ⟨-, hst | hst | ⟨-, hst⟩⟩ := hse.of_lawful hl <;> rw [hst] <;>
        exact ⟨by decide, fun hb => by simp [isApplyActive] at hb⟩
    · rw [RolloutClusterRow.Applies, hst, hac, (hl.release hmem).1]
      cases release.action
      · exact ⟨by decide, fun _ => rfl⟩
      · exact ⟨by decide, fun hb => by simp [AssignmentAction.releaseState, isApplyActive] at hb⟩
  · by_cases hrl : ∃ release ∈ decision.releases, release.clusterID = rc'.clusterID
    · -- the released row is the only row of its cluster, so the release was an apply
      obtain ⟨release, hmem, hc⟩ := hrl
      obtain ⟨rc1, hrc1, hc1, release1, hmem1, -, hac1⟩ := hef.moved release hmem
      obtain rfl : rc1 = rc' := ho rc1 hrc1 rc' hrc' (hc1.trans hc)
      obtain ⟨row, hr, hw⟩ := hef.released release hmem
      obtain ⟨release2, hmem2, hc2, hdg⟩ := hw.version
      have hac2 : release2.action = .apply := by
        rw [hl.action_eq hmem2 hmem1, ← hac1]
        exact ha
      obtain ⟨-, planned, hp, hpd, hv⟩ := hl.release hmem2
      have hrw : row.clusterID = release.clusterID := (DB.key_of_deployment hr).2
      rw [hpl] at hp hv
      have hpc : planned.clusterID = release.clusterID := by rw [hpd, hc2, hrw]
      refine .inl ⟨planned, hp, hpc.trans hc, row, by rw [hpc]; exact hr, ?_⟩
      rw [hdg, hv hac2]
    · obtain ⟨rc, hrc, hs, hmv⟩ := hef.rows plan.id rc' hrc'
      obtain ⟨new, hlg, hn, -⟩ := hef.log
      have hk : rc' = rc := by
        rcases hmv with heq | ⟨-, hse | ⟨release, hmem, hc, -⟩⟩
        · exact heq
        · exfalso
          obtain ⟨-, hst | hst | ⟨-, hst⟩⟩ := hse.of_lawful hl <;> rw [hst] at hf <;> cases hf
        · exact absurd ⟨release, hmem, by rw [hc, hs.cluster]⟩ hrl
      subst hk
      refine h.keep ht hrc ⟨rfl, rfl, rfl⟩ rfl ha hf (fun d hd => ⟨d, ?_, rfl⟩) hlg
        fun e he how => ?_
      · rw [hef.others _ _ fun release hmem heq => hrl ⟨release, hmem, heq.2.symm⟩]
        exact hd
      · obtain ⟨release, hmem, hcl⟩ := (hn e he).2 how.1
        rw [how.2.2, Option.some.injEq] at hcl
        exact hrl ⟨release, hmem, hcl.symm⟩

end

end Rows

/-! ## The system -/

section System

variable {env : Env} {senv : StatusEnv} {plan : FrozenRollout} {w : World} {e : Event} {db' : DB}

structure World.Completing (env : Env) (plan : FrozenRollout) (w : World) : Prop where
  staffed : w.Staffed env plan
  integrity : w.Integrity
  members : plan.Members
  covered : RowsCovered plan w.db
  coherent : w.Coherent (DB.clustersOf · plan.id) Reflects plan.id

theorem World.targetOf_step {id target} (h : w.db.targetOf id = some target) :
    (w.step env senv e).db.targetOf id = some target := by
  rw [DB.targetOf_eq_core, Option.map_eq_some_iff] at h
  obtain ⟨r, hr, rfl⟩ := h
  obtain ⟨r', hr', hf⟩ := @World.frozen_step env senv w e id r hr
  have htg := congrArg RolloutRow.targetID hf
  rw [DB.targetOf_eq_core, hr', Option.map_some]
  exact congrArg some htg

theorem World.Completing.step (h : w.Completing env plan) (he : NoOtherWriter e) :
    (w.step env senv e).Completing env plan := by
  have hky : (w.step env senv e).db.Keys := World.keys_step h.integrity.keys
  have ht : ∀ id target, w.db.targetOf id = some target →
      (w.step env senv e).db.targetOf id = some target := fun _ _ => World.targetOf_step
  refine ⟨h.staffed.step, h.integrity.step, h.members, ?_,
    h.coherent.step reflects_runtimeRows (World.agesTo_clustersOf_step h.staffed.isSome)⟩
  cases @World.effect_step env senv plan w e h.integrity h.staffed.isSome he with
  | quiet hq => exact h.covered.quiet ht hky hq
  | report hok => exact h.covered.report ht hky hok
  | @decision _ _ _ j _ _ _ hj hsg hid htg hef =>
    by_cases how : j.claimed.id = plan.id
    · obtain ⟨hp, input, clusters, hin, hl⟩ := h.staffed.lawful hj how hsg
      rw [hp] at hef
      exact h.covered.own ht hky hin hl hef
    · refine h.covered.other ht hky (hid ▸ how) (World.targetOf_step ?_) hef
      obtain ⟨r, hr, hf⟩ := (h.integrity.jobs j hj).claimed
      have hs := congrArg RolloutRow.targetID hf
      rw [DB.targetOf_eq_core, hid, hr, Option.map_some, htg]
      exact congrArg some hs

theorem evaluateClaimed_succeeded {owner rows approvals windows now} {claimed : RolloutRow}
    {d : Decision} {t : RolloutTransition} (hpl : claimed.frozenPlan = plan)
    (h : evaluateClaimed env claimed owner rows approvals windows now = .ok d)
    (ht : d.rolloutTransition = some t) (hto : t.toState = .succeeded) :
    d.Idle ∧ ∀ planned ∈ plan.clusters, ∃ row ∈ rows, row.row.clusterID = planned.clusterID ∧
      (row.row.state = .ready ∨ row.row.state = .skipped) := by
  simp only [evaluateClaimed, bind_eq_ok] at h
  obtain ⟨plan', hd, maintenance, -, he⟩ := h
  obtain rfl : plan' = plan := (decodeFrozenPlan_eq_ok hd).trans hpl
  obtain ⟨hi, ha⟩ := evaluate_succeeded he ht hto
  refine ⟨hi, fun planned hp => ?_⟩
  obtain ⟨c, hc, hid, hst⟩ := ha planned hp
  obtain ⟨row, hr, rfl⟩ := mem_map.mp hc
  exact ⟨row, hr, hid, hst⟩

theorem World.Commits.ready_of_succeeded (hct : w.Commits env senv e db')
    (h : w.Completing env plan) (hnot : w.db.stateOf plan.id ≠ some .succeeded)
    (hy : db'.stateOf plan.id = some .succeeded) {planned : PlannedCluster}
    (hp : planned ∈ plan.clusters) :
    ∃ rc ∈ db'.clustersOf plan.id, rc.clusterID = planned.clusterID ∧ rc.state = .ready := by
  have hmv : db'.core plan.id ≠ w.db.core plan.id := fun heq => hnot (by
    rw [DB.stateOf_eq_core, ← heq, ← DB.stateOf_eq_core, hy])
  obtain ⟨r, hr, -⟩ := h.staffed.row
  cases hct with
  | create hin =>
    refine absurd ?_ hmv
    rw [insertRollout_core hin, if_neg]
    intro hid
    obtain ⟨-, hn, -⟩ := insertRollout_eq_ok hin
    have hs := h.staffed.isSome
    rw [hid, hn] at hs
    cases hs
  | claim hcm =>
    exfalso
    have hcr := @claimDeliveryRollout_core _ _ plan.id _ _ _ _ _ hcm
    rw [hr] at hcr
    rw [DB.stateOf_eq_core, hcr] at hy
    rw [DB.stateOf_eq_core, hr] at hnot
    split at hy <;> exact hnot hy
  | @apply i dbNow newID replica owner claimed runtime decision now db' hj hap =>
    have hmem := mem_of_getElem? hj
    have hcr := applyDecision_core (x := plan.id) hap
    by_cases hid : claimed.id = plan.id
    · rw [if_pos hid.symm, hr, Option.map_some] at hcr
      obtain ⟨hpl, hdc⟩ := h.staffed.jobs _ hmem hid
      obtain ⟨approvals, windows, -, he⟩ := hdc _ _ _ rfl
      cases hm : decision.rolloutTransition with
      | none =>
        exfalso
        simp only [hm] at hcr
        rw [DB.stateOf_eq_core, hcr] at hy
        rw [DB.stateOf_eq_core, hr] at hnot
        exact hnot hy
      | some t =>
        simp only [hm] at hcr
        rw [DB.stateOf_eq_core, hcr] at hy
        have hto : t.toState = .succeeded := Option.some.inj hy
        obtain ⟨hi, hal⟩ := evaluateClaimed_succeeded hpl he hm hto
        obtain ⟨locked, _, _, _, hlk, -, hg, -⟩ := applyDecision_eq_ok hap
        -- the generation is re-read under the lock, so the loaded rows are the rows there are
        have hrs : Reflects (w.db.clustersOf plan.id) runtime.rows := by
          refine (h.coherent.jobs _ hmem hid runtime rfl).2 ?_
          show runtime.generation = w.db.generation plan.id
          rw [← hid]
          exact (DB.generation_of_rollout hlk ▸ hg).symm
        obtain ⟨row, hrw, hc, hst⟩ := hal planned hp
        have hrc := hrs row hrw
        refine ⟨row.row, ?_, hc, hst.resolve_right (h.covered.applies _ hrc).1⟩
        rw [DB.clustersOf, (@applyDecision_idle _ _ _ plan.id _ _ hi hap).1]
        exact hrc
    · rw [if_neg (Ne.symm hid)] at hcr
      exact absurd hcr hmv
  | @act clock request _ hac =>
    exfalso
    have hcr := @act_core _ _ plan.id _ _ hac
    split at hcr
    · rw [hr, Option.map_some] at hcr
      rw [DB.stateOf_eq_core, hcr] at hy
      have hto : (actionTransition request.action).2 = .succeeded := Option.some.inj hy
      cases ha : request.action <;> rw [ha] at hto <;> cases hto
    · exact hmv hcr
  | @approve clock request _ har =>
    exfalso
    have hcr := @approve_core _ _ plan.id _ _ har
    split at hcr
    · rw [hr, Option.map_some] at hcr
      rw [DB.stateOf_eq_core, hcr] at hy
      have hto : request.decision.toState = .succeeded := Option.some.inj hy
      cases hd : request.decision <;> rw [hd] at hto <;> cases hto
    · exact hmv hcr
  | ingest hig => exact absurd ((ingest_frame hig).core _) hmv
  | connection => exact absurd (writeConnection_around.core _) hmv
  | dropConnection => exact absurd (dropConnection_around.core _) hmv
  | labels => exact absurd (writeLabels_around.core _) hmv
  | writeDeployment => exact absurd ((writeDeploymentRow_frame (P := fun _ => True)).core _) hmv

theorem World.Completing.successDeployed (h : w.Completing env plan) (he : NoOtherWriter e) :
    SuccessDeployed plan w (w.step env senv e) := by
  intro hy hnot planned hp
  have hr : (w.step env senv e).db.stateOf plan.id = some .succeeded →
      ∃ rc ∈ (w.step env senv e).db.clustersOf plan.id, rc.clusterID = planned.clusterID ∧
        rc.state = .ready := by
    refine World.step_db_induct (P := fun db' => db'.stateOf plan.id = some .succeeded →
      ∃ rc ∈ db'.clustersOf plan.id, rc.clusterID = planned.clusterID ∧ rc.state = .ready)
      (fun hy => absurd hy hnot) fun db' hc hy => hc.ready_of_succeeded h hnot hy hp
  obtain ⟨rc, hrc, hc, hst⟩ := hr hy
  have hn : (w.step env senv e).Completing env plan := h.step he
  have ha : rc.assignmentAction = .apply := (hn.covered.applies rc hrc).2 (.inr hst)
  rw [← hc]
  rcases hn.covered.deployed rc hrc ha (by rw [hst]; rfl) with ⟨planned', hp', hid, hd⟩ | ho
  · obtain rfl : planned' = planned :=
      inj_on_of_nodup_map h.members.nodup hp' hp (hid.trans hc)
    exact .inl hd
  · exact .inr ho

theorem World.Completing.of_insert {db now newID} (senv : StatusEnv)
    (hi : insertRollout env w.db now newID plan = .ok db) (hn : w.Unseen plan.id)
    (hw : w.Integrity) : World.Completing env plan { w with db } := by
  obtain ⟨hv, -⟩ := insertRollout_eq_ok hi
  have hm := FrozenRollout.members_of_validate hv
  have hrs := clustersOf_insertRollout hi hn
  have hsr : ∀ rc ∈ db.clustersOf plan.id, rc.assignmentAction = .apply ∧ rc.state = .pending := by
    intro rc hrc
    rw [hrs] at hrc
    obtain ⟨c, -, rfl⟩ := mem_map.mp hrc
    exact ⟨rfl, rfl⟩
  refine ⟨.of_insert hi hn.jobs, ?_, hm, ⟨fun rc hrc rc' hrc' heq => ?_, fun rc hrc => ?_,
    fun rc hrc _ hf => ?_⟩, ?_⟩
  · rw [← @World.step_create env senv w plan db now newID hi]
    exact hw.step
  · have hrc1 : rc ∈ db.clustersOf plan.id := hrc
    have hrc2 : rc' ∈ db.clustersOf plan.id := hrc'
    rw [hrs] at hrc1 hrc2
    obtain ⟨c, hc, rfl⟩ := mem_map.mp hrc1
    obtain ⟨c', hc', rfl⟩ := mem_map.mp hrc2
    rw [inj_on_of_nodup_map hm.nodup hc hc' heq]
  · rw [RolloutClusterRow.Applies, (hsr rc hrc).2]
    exact ⟨by decide, fun _ => (hsr rc hrc).1⟩
  · rw [(hsr rc hrc).2] at hf
    cases hf
  · refine ⟨fun j hj hid => absurd hid (hn.jobs j hj), fun j hj hid => absurd hid (hn.jobs j hj),
      fun replica c hc => ?_⟩
    rw [hn.caches replica] at hc
    cases hc

end System

/-- **Success means deployed.** Along every run, with any number of rollouts of any targets at
work, a rollout enters `succeeded` only with every cluster of its plan asked for the version
the plan froze, or released since by another rollout of the target. -/
theorem success_deployed_or_overtaken {env : Env} {senv : StatusEnv} {plan : FrozenRollout}
    {w : World} {db : DB} {now : Time} {newID : UUID → UUID} {es : List Event}
    (hins : insertRollout env w.db now newID plan = .ok db) (hnew : w.Unseen plan.id)
    (hw : w.Integrity) (hone : ∀ e ∈ es, NoOtherWriter e) :
    RunMeets (World.step env senv) (fun w e => SuccessDeployed plan w (w.step env senv e))
      { w with db } es :=
  RunMeets.of_invariant (P := World.Completing env plan) (fun _ _ h he => h.step he)
    (fun _ _ h he => h.successDeployed he) (.of_forall hone) (.of_insert senv hins hnew hw)

/-! ## Two rollouts of one cluster -/

namespace OneCluster

def olderDigest : Digest :=
  "sha256:1111111111111111111111111111111111111111111111111111111111111111"

def olderPlan : FrozenRollout :=
  { firstPlan with id := 2, desired := { version 3 with specDigest := olderDigest }, createdAt := 5
                   deadline := 1005 }

def overlapping : World :=
  run (World.step env senv)
    { world with db := commitOr world.db (insertRollout env world.db 5 (· + 300) olderPlan) }
    (passOf 2 6 ++ passOf 2 7)

def completedRun : List Event := released ++ [status 1 1 .ready 14] ++ pass 15

def overtakenRun : List Event :=
  released ++ [status 1 1 .ready 14, .restart 0] ++ passOf 2 15 ++ pass 16

end OneCluster

open OneCluster in
/-- Alone on its cluster, the rollout succeeds deployed. -/
theorem completedRun_deployed :
    (run (World.step env senv) (inserted firstPlan) completedRun).db.stateOf 1 = some .succeeded ∧
      RunMeets (World.step env senv)
        (fun w e => SuccessDeployed firstPlan w (w.step env senv e)) (inserted firstPlan)
        completedRun :=
  ⟨by decide +kernel,
    @success_deployed_or_overtaken env senv firstPlan world _ 10 (· + 100) _ (by rfl)
      unseen integrity (by decide)⟩

open OneCluster in
/-- The newer rollout succeeds on its ready row while the cluster is asked for the version of
the older one. No rollout created later than it has released anything. -/
theorem overtakenRun_succeeds : let start : World := { overlapping with
        db := commitOr overlapping.db (insertRollout env overlapping.db 10 (· + 100) firstPlan) }
    let final := run (World.step env senv) start overtakenRun
    final.db.stateOf 1 = some .succeeded ∧
      (∀ planned ∈ firstPlan.clusters, ¬ final.db.Deploys firstPlan planned) ∧
      ∀ e ∈ final.db.rolloutEvents, e.eventType = .clusterReleased →
        ∀ r ∈ final.db.rollout e.rolloutID, r.frozenPlan.createdAt ≤ firstPlan.createdAt := by
  decide +kernel

end Astronomer.Delivery
