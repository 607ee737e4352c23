import Astronomer.Delivery.Generations
import Astronomer.Delivery.Integrity

/-!
# What one event does to the rows of a rollout

The commit of a decision moves cluster rows of its own rollout, only those of the clusters it
names, and overwrites exactly the deployments of the clusters it releases.
-/

namespace Astronomer.Delivery

open List

variable {id : UUID}

def RowSettled (d : Decision) (rc rc' : RolloutClusterRow) : Prop :=
  rc'.assignmentAction = rc.assignmentAction ∧ ∃ t ∈ d.clusterTransitions, rc'.state = t.toState ∧
    (t.fromState = rc.state ∨ ∃ t' ∈ d.clusterTransitions, t.fromState = t'.toState)

def RowReleased (d : Decision) (rc rc' : RolloutClusterRow) : Prop :=
  ∃ release ∈ d.releases, release.clusterID = rc.clusterID ∧ rc'.state = release.toState ∧
    rc'.assignmentAction = release.action

structure Written (plan : FrozenRollout) (d : Decision) (row : DeploymentRow) : Prop where
  owner : row.currentRolloutID = some plan.id
  phase : row.phase = .pending
  version : ∃ release ∈ d.releases, release.clusterID = row.clusterID ∧
    row.desiredSpecDigest = release.version.specDigest

def LogOf (id : UUID) (d : Decision) (e : RolloutEventRow) : Prop :=
  e.rolloutID = id ∧ (e.eventType = .clusterReleased →
    ∃ release ∈ d.releases, e.clusterID = some release.clusterID)

structure DecisionEffect (plan : FrozenRollout) (d : Decision) (db db' : DB) : Prop where
  rows : ∀ id, ∀ rc' ∈ db'.clustersOf id, ∃ rc ∈ db.clustersOf id, rc.SameKeys rc' ∧
    (rc' = rc ∨ id = plan.id ∧ (RowSettled d rc rc' ∨ RowReleased d rc rc'))
  others : ∀ t c, (∀ release ∈ d.releases, ¬ (t = plan.targetID ∧ c = release.clusterID)) →
    db'.deployment t c = db.deployment t c
  released : ∀ release ∈ d.releases, ∃ row,
    db'.deployment plan.targetID release.clusterID = some row ∧ Written plan d row
  moved : ∀ release ∈ d.releases, ∃ rc' ∈ db'.clustersOf plan.id,
    rc'.clusterID = release.clusterID ∧ ∃ release' ∈ d.releases,
      rc'.state = release'.toState ∧ rc'.assignmentAction = release'.action
  log : ∃ new, db'.rolloutEvents = db.rolloutEvents ++ new ∧ (∀ e ∈ new, LogOf plan.id d e) ∧
    ∀ release ∈ d.releases, ∃ e ∈ new,
      e.eventType = .clusterReleased ∧ e.clusterID = some release.clusterID

section Commit

variable {db db' s s' : DB} {w : Work} {now : Time} {newID : UUID → UUID}

def Work.Holds (w : Work) (db : DB) : Prop := ∀ row ∈ w.loaded.rows, row.CopyOf db w.claimed.id

theorem RolloutClusterRow.SameKeys.trans {c} {a b : RolloutClusterRow} (h : a.SameKeys b)
    (h' : b.SameKeys c) : a.SameKeys c :=
  ⟨h'.id.trans h.id, h'.rollout.trans h.rollout, h'.cluster.trans h.cluster⟩

theorem Work.Holds.key (h : w.Holds db) (hky : (db.rolloutClusters.map (·.id)).Nodup) {clusterID}
    {row : RuntimeRow} {rc : RolloutClusterRow} (hr : w.rowFor clusterID = some row)
    (hrc : rc ∈ db.clustersOf id) (hid : rc.id = row.row.id) :
    id = w.claimed.id ∧ rc.clusterID = clusterID := by
  have hcl : row.row.clusterID = clusterID := by simpa using find?_some hr
  obtain ⟨rc0, hrc0, hid0, hcl0⟩ := h row (mem_of_find?_eq_some hr)
  obtain ⟨hin, hrl⟩ := mem_filter.mp hrc
  obtain ⟨hin0, hrl0⟩ := mem_filter.mp hrc0
  have heq : rc = rc0 := inj_on_of_nodup_map hky hin hin0 (hid.trans hid0.symm)
  rw [beq_iff_eq] at hrl hrl0
  exact ⟨by rw [← hrl, heq, hrl0], by rw [heq, hcl0, hcl]⟩

structure Settling (w : Work) (db s : DB) : Prop where
  rows : ∀ id, ∀ rc' ∈ s.clustersOf id, ∃ rc ∈ db.clustersOf id, rc.SameKeys rc' ∧
    (rc' = rc ∨ id = w.claimed.id ∧ RowSettled w.decision rc rc')
  deployments : s.deployments = db.deployments
  log : ∃ new, s.rolloutEvents = db.rolloutEvents ++ new ∧
    ∀ e ∈ new, LogOf w.claimed.id w.decision e

theorem log_append {e} {db s s' : DB} {P : RolloutEventRow → Prop}
    (h : ∃ new, s.rolloutEvents = db.rolloutEvents ++ new ∧ ∀ e ∈ new, P e)
    (hs' : s'.rolloutEvents = s.rolloutEvents ++ [e]) (he : P e) :
    ∃ new, s'.rolloutEvents = db.rolloutEvents ++ new ∧ ∀ e ∈ new, P e := by
  obtain ⟨new, hn, ha⟩ := h
  refine ⟨new ++ [e], by rw [hs', hn, append_assoc], fun e' he' => ?_⟩
  rcases mem_append.mp he' with he' | he'
  · exact ha e' he'
  · rw [mem_singleton.mp he']
    exact he

theorem Settling.transition {t} (h : Settling w db s) (hh : w.Holds db) (hky : db.Keys)
    (ht : t ∈ w.decision.clusterTransitions) (hok : applyClusterTransition w now s t = .ok s') :
    Settling w db s' := by
  obtain ⟨row, _, e, hr, -, rfl, hid, hty⟩ := applyClusterTransition_eq_ok hok
  have hl : LogOf w.claimed.id w.decision e :=
    ⟨hid, fun hrl => by rw [hty] at hrl; cases hrl⟩
  refine ⟨fun id rc'' hrc'' => ?_, h.deployments, log_append h.log rfl hl⟩
  obtain ⟨rc', hrc', rfl⟩ := mem_clustersOf_updateClusterRows (by intro; rfl) hrc''
  obtain ⟨rc, hrc, hs, hmv⟩ := h.rows id rc' hrc'
  refine ⟨rc, hrc, ?_⟩
  split
  next hc =>
    simp only [DB.clusterCAS, Bool.and_eq_true, beq_iff_eq] at hc
    obtain ⟨⟨⟨hk, hf⟩, -⟩, -⟩ := hc
    obtain ⟨rfl, -⟩ := hh.key hky.clusterRows hr hrc (hs.id.symm.trans hk)
    refine ⟨⟨hs.id, hs.rollout, hs.cluster⟩, .inr ⟨rfl, ?_, t, ht, rfl, ?_⟩⟩
    · show rc'.assignmentAction = rc.assignmentAction
      rcases hmv with rfl | ⟨-, han, -⟩
      · rfl
      · exact han
    · rcases hmv with rfl | ⟨-, -, t', ht', hto, -⟩
      · exact .inl hf.symm
      · exact .inr ⟨t', ht', hf.symm.trans hto⟩
  · exact ⟨hs, hmv⟩

structure Releasing (w : Work) (plan : FrozenRollout) (db s : DB) : Prop where
  rows : ∀ id, ∀ rc' ∈ s.clustersOf id, ∃ rc ∈ db.clustersOf id, rc.SameKeys rc' ∧
    (rc' = rc ∨ id = w.claimed.id ∧ (RowSettled w.decision rc rc' ∨ RowReleased w.decision rc rc'))
  others : ∀ t c, (∀ release ∈ w.decision.releases,
      ¬ (t = plan.targetID ∧ c = release.clusterID)) → s.deployment t c = db.deployment t c
  log : ∃ new, s.rolloutEvents = db.rolloutEvents ++ new ∧
    ∀ e ∈ new, LogOf w.claimed.id w.decision e

theorem Settling.releasing {plan} (h : Settling w db s) :
    Releasing w plan db s := by
  refine ⟨fun id rc' hrc' => ?_, fun t c _ => ?_, h.log⟩
  · obtain ⟨rc, hrc, hs, hmv⟩ := h.rows id rc' hrc'
    exact ⟨rc, hrc, hs, hmv.imp_right fun hm => ⟨hm.1, .inl hm.2⟩⟩
  · rw [DB.deployment, h.deployments]
    rfl

theorem Releasing.release {plan release} (h : Releasing w plan db s) (hh : w.Holds db)
    (hky : db.Keys) (hmem : release ∈ w.decision.releases)
    (hok : applyRelease w now plan newID s release = .ok s') : Releasing w plan db s' := by
  obtain ⟨row, planned, deployed, _, _, e, hr, -, -, hup, -, rfl, hid, hcl, -⟩ :=
    applyRelease_eq_ok hok
  obtain ⟨hct, he⟩ := upsert_clusterRows hup
  refine ⟨fun id rc'' hrc'' => ?_, fun t c hn => ?_, ?_⟩
  · obtain ⟨rc', hrc', rfl⟩ := mem_clustersOf_updateClusterRows (by intro; rfl) hrc''
    rw [DB.clustersOf, hct] at hrc'
    obtain ⟨rc, hrc, hs, hmv⟩ := h.rows id rc' hrc'
    refine ⟨rc, hrc, ?_⟩
    split
    next hc =>
      simp only [DB.clusterCAS, Bool.and_eq_true, beq_iff_eq] at hc
      obtain ⟨rfl, hk⟩ := hh.key hky.clusterRows hr hrc (hs.id.symm.trans hc.1.1.1)
      exact ⟨⟨hs.id, hs.rollout, hs.cluster⟩, .inr ⟨rfl, .inr ⟨release, hmem, hk.symm, rfl, rfl⟩⟩⟩
    · exact ⟨hs, hmv⟩
  · have hot := deployment_upsert_of_ne (t := t) (c := c) (hn release hmem) hup
    exact hot.trans (h.others t c hn)
  · refine log_append h.log (e := e) ?_ ⟨hid, fun _ => ⟨release, hmem, hcl⟩⟩
    show deployed.rolloutEvents ++ [e] = _
    rw [he]

def Released (w : Work) (plan : FrozenRollout) (db : DB) (release : Release) (s : DB) : Prop :=
  (∃ row, s.deployment plan.targetID release.clusterID = some row ∧ Written plan w.decision row) ∧
    ∃ new, s.rolloutEvents = db.rolloutEvents ++ new ∧ ∃ e ∈ new,
      e.eventType = .clusterReleased ∧ e.clusterID = some release.clusterID

theorem released_of_applyRelease {plan release} (h : Releasing w plan db s)
    (hmem : release ∈ w.decision.releases) (hok : applyRelease w now plan newID s release = .ok s')
    : Released w plan db release s' := by
  obtain ⟨_, planned, deployed, row, _, e, -, -, -, hup, -, rfl, -, hcl, hty, -⟩ :=
    applyRelease_eq_ok hok
  obtain ⟨new, hn, -⟩ := h.log
  refine ⟨⟨row, deployment_upsert hup, ?_⟩, new ++ [e], ?_, e, by simp, hty, hcl⟩
  · have hk : row.clusterID = release.clusterID := (DB.key_of_deployment (deployment_upsert hup)).2
    rcases upsertClusterDeploymentDesired_eq_some hup with ⟨-, -, rfl, -⟩ | ⟨_, -, -, rfl, -⟩
    · exact ⟨rfl, rfl, release, hmem, hk.symm, rfl⟩
    · exact ⟨rfl, rfl, release, hmem, hk.symm, rfl⟩
  · show deployed.rolloutEvents ++ [e] = _
    rw [(upsert_clusterRows hup).2, hn, append_assoc]

theorem Released.applyRelease {plan release other} (h : Released w plan db release s)
    (hmem : other ∈ w.decision.releases) (hok : applyRelease w now plan newID s other = .ok s') :
    Released w plan db release s' := by
  obtain ⟨⟨row, hr, hw⟩, new, hn, e, he, hev⟩ := h
  obtain ⟨_, planned, deployed, row', _, e', -, -, -, hup, -, rfl, -⟩ := applyRelease_eq_ok hok
  refine ⟨?_, new ++ [e'], ?_, e, mem_append_left _ he, hev⟩
  · by_cases hs : release.clusterID = other.clusterID
    · have hk : row'.clusterID = other.clusterID := (DB.key_of_deployment (deployment_upsert hup)).2
      refine ⟨row', by rw [hs]; exact deployment_upsert hup, ?_⟩
      rcases upsertClusterDeploymentDesired_eq_some hup with ⟨-, -, rfl, -⟩ | ⟨_, -, -, rfl, -⟩
      · exact ⟨rfl, rfl, other, hmem, hk.symm, rfl⟩
      · exact ⟨rfl, rfl, other, hmem, hk.symm, rfl⟩
    · refine ⟨row, ?_, hw⟩
      have hot := deployment_upsert_of_ne (t := plan.targetID) (c := release.clusterID)
        (fun heq => hs heq.2) hup
      exact hot.trans hr
  · show deployed.rolloutEvents ++ [e'] = _
    rw [(upsert_clusterRows hup).2, hn, append_assoc]

def Moved (w : Work) (release : Release) (s : DB) : Prop :=
  ∃ rc' ∈ s.clustersOf w.claimed.id, rc'.clusterID = release.clusterID ∧
    ∃ release' ∈ w.decision.releases,
      rc'.state = release'.toState ∧ rc'.assignmentAction = release'.action

theorem moved_of_applyRelease {plan release} (h : Releasing w plan db s) (hh : w.Holds db)
    (hky : db.Keys) (hmem : release ∈ w.decision.releases)
    (hok : applyRelease w now plan newID s release = .ok s') : Moved w release s' := by
  obtain ⟨row, planned, deployed, _, rc, e, hr, -, -, hup, hf, rfl, -⟩ := applyRelease_eq_ok hok
  have hc := find?_some hf
  have hrc := mem_of_find?_eq_some hf
  have hrc' : rc ∈ s.clustersOf rc.rolloutID :=
    mem_filter.mpr ⟨(upsert_clusterRows hup).1 ▸ hrc, beq_self_eq_true _⟩
  have hid : rc.id = row.row.id := by
    simp only [DB.clusterCAS, Bool.and_eq_true, beq_iff_eq] at hc
    exact hc.1.1.1
  -- the copy the worker holds says whose row it is
  obtain ⟨rc0, hrc0, hs, -⟩ := h.rows _ rc hrc'
  obtain ⟨hrl, hcl⟩ := hh.key hky.clusterRows hr hrc0 (hs.id.symm.trans hid)
  refine ⟨{ rc.release now release.toState release.action release.deadline with updatedAt := now },
    mem_filter.mpr ⟨mem_updateWhere.mpr ⟨rc, hrc, by rw [if_pos hc]⟩, ?_⟩,
    hs.cluster.trans hcl, release, hmem, rfl, rfl⟩
  exact beq_iff_eq.mpr hrl

theorem Moved.applyRelease {plan release other} (h : Moved w release s)
    (hmem : other ∈ w.decision.releases) (hok : applyRelease w now plan newID s other = .ok s') :
    Moved w release s' := by
  obtain ⟨rc, hrc, hcl, release', hmem', hmv⟩ := h
  obtain ⟨row, planned, deployed, _, _, e, -, -, -, hup, -, rfl, -⟩ := applyRelease_eq_ok hok
  obtain ⟨hin, hrl⟩ := mem_filter.mp hrc
  by_cases hc : deployed.clusterCAS now row.row.id other.fromState other.expectedFence w.owner
      w.claimed.fencingGeneration rc
  · refine ⟨{ rc.release now other.toState other.action other.deadline with updatedAt := now },
      mem_filter.mpr ⟨mem_updateWhere.mpr ⟨rc, ?_, by rw [if_pos hc]⟩, hrl⟩, hcl,
      other, hmem, rfl, rfl⟩
    exact (upsert_clusterRows hup).1 ▸ hin
  · refine ⟨rc, mem_filter.mpr ⟨mem_updateWhere.mpr ⟨rc, ?_, by rw [if_neg hc]⟩, hrl⟩,
      hcl, release', hmem', hmv⟩
    exact (upsert_clusterRows hup).1 ▸ hin

theorem recountAfter_tables {d} (h : recountAfter d s id = .ok s') :
    s'.rolloutClusters = s.rolloutClusters ∧ s'.deployments = s.deployments ∧
      s'.rolloutEvents = s.rolloutEvents := by
  simp only [recountAfter] at h
  split at h
  · cases h
    exact ⟨rfl, rfl, rfl⟩
  · rw [orError_eq_ok] at h
    obtain ⟨_, _, _, _, _, rfl⟩ := recompute_eq_some h
    exact ⟨rfl, rfl, rfl⟩

theorem applyDecision_effect (hh : w.Holds db) (hky : db.Keys)
    (h : applyDecision w now newID db = .ok db') :
    w.claimed.frozenPlan.id = w.claimed.id ∧ w.claimed.frozenPlan.targetID = w.claimed.targetID ∧
      DecisionEffect w.claimed.frozenPlan w.decision db db' := by
  obtain ⟨hid, htg⟩ := decodeFrozenPlan_of_applyDecision h
  obtain ⟨_, settled, released, counted, -, -, -, -, hst, hrls, hc, hf⟩ := applyDecision_eq_ok h
  have h1 : Settling w db settled := by
    refine foldlM_invariant (P := Settling w db)
      (fun s s' t ht hs ho => hs.transition hh hky ht ho) hst ⟨?_, rfl, [], ?_, ?_⟩
    · exact fun id rc hrc => ⟨rc, hrc, ⟨rfl, rfl, rfl⟩, .inl rfl⟩
    · simp
    · simp
  have hstep : ∀ s s' release, release ∈ w.decision.releases →
      Releasing w w.claimed.frozenPlan db s →
      applyRelease w now w.claimed.frozenPlan newID s release = .ok s' →
      Releasing w w.claimed.frozenPlan db s' :=
    fun s s' release hmem hs ho => hs.release hh hky hmem ho
  have h2 : Releasing w w.claimed.frozenPlan db released := foldlM_invariant hstep hrls h1.releasing
  have h3 : ∀ release ∈ w.decision.releases, Released w w.claimed.frozenPlan db release released :=
    foldlM_forall_mem hstep (fun s s' release hmem hs ho => released_of_applyRelease hs hmem ho)
      (fun s s' release other hmem hr ho => hr.applyRelease hmem ho) hrls h1.releasing
  have h4 : ∀ release ∈ w.decision.releases, Moved w release released := foldlM_forall_mem hstep
      (fun s s' release hmem hs ho => moved_of_applyRelease hs hh hky hmem ho)
      (fun s s' release other hmem hr ho => hr.applyRelease hmem ho) hrls h1.releasing
  -- what follows the releases writes rollout rows, and an event of the rollout
  obtain ⟨hrs, hdp, hlg⟩ := recountAfter_tables hc
  obtain ⟨last, hdb, hl⟩ : ∃ last, (db'.rolloutClusters = counted.rolloutClusters ∧
      db'.deployments = counted.deployments ∧
      db'.rolloutEvents = counted.rolloutEvents ++ last) ∧
      ∀ e ∈ last, LogOf w.claimed.id w.decision e := by
    rcases finishDecision_eq_ok hf with rfl | ⟨e, hty, he, rfl⟩
    · exact ⟨[], ⟨rfl, rfl, by simp [finishTables, DB.updateRollouts]⟩, by simp⟩
    · refine ⟨[e], ⟨rfl, rfl, rfl⟩, fun e' he' => ?_⟩
      rw [mem_singleton.mp he']
      exact ⟨he, fun hrl => by rw [hty] at hrl; cases hrl⟩
  obtain ⟨hrs', hdp', hlg'⟩ := hdb
  have hd : ∀ t c, db'.deployment t c = released.deployment t c := fun t c => by
    rw [DB.deployment, hdp', hdp]
    rfl
  refine ⟨hid, htg, ⟨fun id rc' hrc' => ?_, fun t c hn => ?_, fun release hmem => ?_,
    fun release hmem => ?_, ?_⟩⟩
  · rw [DB.clustersOf, hrs', hrs] at hrc'
    rw [hid]
    exact h2.rows id rc' hrc'
  · rw [hd]
    exact h2.others t c hn
  · rw [hd]
    exact (h3 release hmem).1
  · rw [DB.clustersOf, hrs', hrs, hid]
    exact h4 release hmem
  · obtain ⟨new, hnw, ha⟩ := h2.log
    refine ⟨new ++ last, by rw [hlg', hlg, hnw, append_assoc], fun e he => ?_,
      fun release hmem => ?_⟩
    · rw [hid]
      rcases mem_append.mp he with he | he
      · exact ha e he
      · exact hl e he
    · obtain ⟨-, new', hnw', e, he, hev⟩ := h3 release hmem
      have hsm : new' = new := append_cancel_left (hnw'.symm.trans hnw)
      exact ⟨e, mem_append_left _ (hsm ▸ he), hev⟩

end Commit

/-! ## Events -/

/-- An event that neither decides nor reports, seen from one rollout: it leaves the
deployments, and at most puts clusters back to `pending`. -/
structure QuietEffect (id : UUID) (db db' : DB) : Prop where
  rows : ∀ rc' ∈ db'.clustersOf id, ∃ rc ∈ db.clustersOf id, rc.SameKeys rc' ∧
    (rc' = rc ∨ rc'.state = .pending)
  deployments : db'.deployments = db.deployments
  log : ∃ new, db'.rolloutEvents = db.rolloutEvents ++ new ∧
    ∀ e ∈ new, e.eventType ≠ .clusterReleased

inductive World.Effect (senv : StatusEnv) (plan : FrozenRollout) (w : World) (db' : DB) :
    Event → Prop
  | quiet {e : Event} : QuietEffect plan.id w.db db' → World.Effect senv plan w db' e
  | decision {i : Nat} {now : Time} {newID : UUID → UUID} {j : Job} {runtime : LoadedRuntime}
      {decision : Decision} {decidedAt : Time} :
      j ∈ w.jobs → j.stage = .decided runtime decision decidedAt →
      j.claimed.frozenPlan.id = j.claimed.id →
      j.claimed.frozenPlan.targetID = j.claimed.targetID →
      DecisionEffect j.claimed.frozenPlan decision w.db db' →
      World.Effect senv plan w db' (.apply i now newID)
  | report {clock : Clock} {session : Session} {payload : DeliveryStatus} :
      ingest senv w.db clock session payload = .ok db' →
      World.Effect senv plan w db' (.ingest clock session payload)

def NoOtherWriter : Event → Prop
  | .writeDeployment _ => False
  | _ => True

instance (e : Event) : Decidable (NoOtherWriter e) := by
  apply @Event.casesOn (fun e => Decidable (NoOtherWriter e)) e <;> intros <;>
    dsimp only [NoOtherWriter] <;> infer_instance

section Events

variable {env : Env} {senv : StatusEnv} {plan : FrozenRollout} {w : World} {e : Event} {db' : DB}

theorem QuietEffect.of_eq {db db' : DB} (hrs : db'.clustersOf id = db.clustersOf id)
    (hdp : db'.deployments = db.deployments) (new : List RolloutEventRow)
    (hl : db'.rolloutEvents = db.rolloutEvents ++ new)
    (hn : ∀ e ∈ new, e.eventType ≠ .clusterReleased) : QuietEffect id db db' :=
  ⟨fun rc hrc => ⟨rc, hrs ▸ hrc, ⟨rfl, rfl, rfl⟩, .inl rfl⟩, hdp, new, hl, hn⟩

theorem QuietEffect.of_around {db db'} (h : DB.Around db db') : QuietEffect id db db' :=
  .of_eq (by rw [DB.clustersOf, h.clusterRows]; rfl) h.deployments [] (by simp [h.events]) (by simp)

theorem insertRollout_tables {other now newID} {db db' : DB} (hr : (db.rollout id).isSome)
    (h : insertRollout env db now newID other = .ok db') :
    db'.clustersOf id = db.clustersOf id ∧ db'.deployments = db.deployments ∧
      db'.rolloutEvents = db.rolloutEvents := by
  obtain ⟨-, hn, -, -, hrc⟩ := insertRollout_eq_ok h
  have hne : other.id ≠ id := by
    rintro rfl
    rw [hn] at hr
    cases hr
  obtain ⟨_, _, _, _, _, rfl⟩ := recompute_eq_some hrc
  refine ⟨?_, rfl, rfl⟩
  simp only [DB.clustersOf, DB.updateRollouts, filter_append, filter_toRow_of_ne hne,
    append_nil]

theorem quiet_act {db db' clock request} (h : act db clock request = .ok db') :
    QuietEffect id db db' := by
  obtain ⟨_, e, -, -, -, -, rfl, hty⟩ := act_eq_ok h
  have hl : ∀ e' ∈ [e], e'.eventType ≠ .clusterReleased := by
    intro e' he'
    rw [mem_singleton.mp he', hty]
    decide
  simp only [resetTables]
  split
  · refine ⟨fun rc' hrc' => ?_, rfl, [e], rfl, hl⟩
    obtain ⟨rc, hrc, rfl⟩ := mem_clustersOf_updateClusterRows (by intro; rfl) hrc'
    refine ⟨rc, hrc, ?_⟩
    split
    · exact ⟨⟨rfl, rfl, rfl⟩, .inr rfl⟩
    · exact ⟨⟨rfl, rfl, rfl⟩, .inl rfl⟩
  · exact .of_eq rfl rfl [e] rfl hl

theorem quiet_approve {db db' clock request} (h : approve db clock request = .ok db') :
    QuietEffect id db db' := by
  obtain ⟨_, e, -, -, -, rfl, hty⟩ := approve_eq_ok h
  have hl : ∀ e' ∈ [e], e'.eventType ≠ .clusterReleased := by
    intro e' he'
    rw [mem_singleton.mp he', hty]
    decide
  simp only [approvalTables]
  split <;> exact .of_eq rfl rfl [e] rfl hl

theorem World.Commits.effect (h : w.Commits env senv e db') (hw : w.Integrity)
    (hr : (w.db.rollout plan.id).isSome) (he : NoOtherWriter e) : w.Effect senv plan db' e := by
  cases h with
  | create h =>
    obtain ⟨hrs, hdp, hl⟩ := insertRollout_tables hr h
    exact .quiet (.of_eq hrs hdp [] (by simp [hl]) (by simp))
  | claim h =>
    obtain ⟨_, -, -, -, -, rfl⟩ := claimDeliveryRollout_eq_some h
    exact .quiet (.of_eq rfl rfl [] (by simp [DB.updateRollouts]) (by simp))
  | apply hj h =>
    have hmem := mem_of_getElem? hj
    have hc := fun hh => applyDecision_effect hh hw.keys h
    obtain ⟨hid, htg, hef⟩ := hc ((hw.jobs _ hmem).rows _ rfl)
    exact .decision hmem rfl hid htg hef
  | act h => exact .quiet (quiet_act h)
  | approve h => exact .quiet (quiet_approve h)
  | ingest h => exact .report h
  | connection => exact .quiet (.of_around writeConnection_around)
  | dropConnection => exact .quiet (.of_around dropConnection_around)
  | labels => exact .quiet (.of_around writeLabels_around)
  | writeDeployment => exact he.elim

theorem World.effect_step (hw : w.Integrity) (hr : (w.db.rollout plan.id).isSome)
    (he : NoOtherWriter e) : w.Effect senv plan (w.step env senv e).db e :=
  World.step_db_induct (P := fun db' => w.Effect senv plan db' e)
    (.quiet (.of_eq rfl rfl [] (by simp) (by simp))) fun _ h => h.effect hw hr he

end Events

/-! ## Decisions as the scheduler makes them -/

section Lawful

variable {env : Env} {input : EvaluateInput} {clusters : List ClusterRuntime} {d : Decision}

theorem Decision.Lawful.settles (h : d.Lawful env input clusters) {t : ClusterTransition}
    (ht : t ∈ d.clusterTransitions) :
    t.fromState = .pending ∧ t.toState = .blocked ∨ t.fromState = .blocked ∧ t.toState = .pending ∨
      isApplyActive t.fromState ∧ t.toState = .timedOut := by
  cases hst : input.snapshot.state <;> simp only [Decision.Lawful, hst] at h
  case progressing =>
    obtain ⟨cluster, -, -, hf, -, hs⟩ := h.transitions t ht
    rw [hf]
    exact hs.imp_right (Or.imp_right fun h => ⟨h.1, h.2.2⟩)
  case rollingBack =>
    rw [h.transitions] at ht
    cases ht
  all_goals
    rw [h.1.transitions] at ht
    cases ht

theorem Decision.Lawful.release (h : d.Lawful env input clusters) {release : Release}
    (hr : release ∈ d.releases) :
    release.toState = release.action.releaseState ∧
      ∃ planned ∈ input.snapshot.plan.clusters, planned.clusterID = release.clusterID ∧
        (release.action = .apply → release.version = input.snapshot.plan.desiredFor planned) := by
  cases hst : input.snapshot.state <;> simp only [Decision.Lawful, hst] at h
  case progressing =>
    obtain ⟨planned, hmem, cluster, v, -, -, hv, hn⟩ := h.releases release hr
    obtain ⟨hcl, han, hvs, -, hto, -⟩ := newRelease_eq_ok hn
    exact ⟨by rw [hto, han], planned, hmem, hcl.symm, fun _ => hvs.trans hv⟩
  case rollingBack =>
    obtain ⟨planned, hmem, cluster, v, -, -, -, hn⟩ := h.releases release hr
    obtain ⟨hcl, han, -, -, hto, -⟩ := newRelease_eq_ok hn
    refine ⟨by rw [hto, han], planned, hmem, hcl.symm, fun ha => ?_⟩
    rw [han] at ha
    cases ha
  all_goals
    rw [h.1.releases] at hr
    cases hr

theorem RowSettled.of_lawful {rc rc' : RolloutClusterRow} (hl : d.Lawful env input clusters)
    (h : RowSettled d rc rc') :
    rc'.assignmentAction = rc.assignmentAction ∧ (rc'.state = .blocked ∨ rc'.state = .pending ∨
        isApplyActive rc.state ∧ rc'.state = .timedOut) := by
  obtain ⟨han, t, ht, hst, hf⟩ := h
  refine ⟨han, ?_⟩
  rw [hst]
  rcases hl.settles ht with ⟨-, hto⟩ | ⟨-, hto⟩ | ⟨ha, hto⟩
  · exact .inl hto
  · exact .inr (.inl hto)
  · rcases hf with hf | ⟨t', ht', hf⟩
    · exact .inr (.inr ⟨hf ▸ ha, hto⟩)
    · -- no transition leads to an active state
      exfalso
      rw [hf] at ha
      rcases hl.settles ht' with ⟨-, hto'⟩ | ⟨-, hto'⟩ | ⟨-, hto'⟩ <;> rw [hto'] at ha <;> cases ha

end Lawful

end Astronomer.Delivery
