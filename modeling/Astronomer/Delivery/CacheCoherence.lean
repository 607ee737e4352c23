import Astronomer.Delivery.Generations

/-!
# Cached runtimes

A replica schedules on its cached runtime as long as the rollout's `runtime_generation` is
the cached one. The triggers look at the rollouts a deployment row NAMES, and at connections
and labels only in some states; the view joins deployments by target and cluster. So the
cache is right along runs whose changes of the runtime are all reported to the rollout.
-/

namespace Astronomer.Delivery

open List

def FrozenRollout.hasCluster (plan : FrozenRollout) (clusterID : UUID) : Bool :=
  plan.clusters.any (·.clusterID == clusterID)

def FrozenRollout.watches (plan : FrozenRollout) (targetID clusterID : UUID) : Prop :=
  targetID = plan.targetID ∧ plan.hasCluster clusterID
deriving Decidable

def DB.hears (db : DB) (plan : FrozenRollout) : Prop :=
  (db.rollout plan.id).any (fun r => bumpedByClusterChange r.state) = true
deriving Decidable

def Job.releases (j : Job) : List Release :=
  match j.stage with
  | .decided _ decision _ => decision.releases
  | _ => []

def CacheCoherent (plan : FrozenRollout) (w : World) : Prop :=
  ∀ replica c r, (w.caches replica).entry plan.id = some c → w.db.rollout plan.id = some r →
    c.generation = r.runtimeGeneration → c.rows = w.db.runtimeRows plan.id

/-- A decision that is committed is the one `Evaluate` makes on the rows as they stand, with
approvals on record. -/
def DecisionCurrent (env : Env) (plan : FrozenRollout) (w : World) : Event → Prop
  | .apply i dbNow newID =>
    ∀ replica owner claimed runtime decision now db',
      w.jobs[i]? = some ⟨replica, owner, claimed, .decided runtime decision now⟩ →
      claimed.id = plan.id →
      applyDecision ⟨owner, claimed, runtime, decision, now⟩ dbNow newID w.db = .ok db' →
      ∃ approvals windows, (∀ a ∈ approvals, a ∈ w.db.approvalsOf plan.id) ∧
        evaluateClaimed env claimed owner (w.db.runtimeRows plan.id) approvals windows now =
          .ok decision
  | _ => True

/-- The event changes nothing of the rollout's runtime behind its back: connections and
labels of its clusters change in a state in which the rollout hears of it, and a
deployment of its target and clusters is written only while its row names the rollout. -/
def RuntimeReported (plan : FrozenRollout) (w : World) : Event → Prop
  | .connection row =>
    plan.hasCluster ((w.db.connections.find? (·.id == row.id)).elim row.clusterID
      (·.clusterID)) → w.db.hears plan
  | .dropConnection id =>
    ∀ old ∈ w.db.connections.find? (·.id == id), plan.hasCluster old.clusterID →
      w.db.hears plan
  | .labels clusterID _ => plan.hasCluster clusterID → w.db.hears plan
  | .ingest _ _ payload =>
    ∀ d ∈ w.db.deployments, d.id ∈ payload.deployments.map (·.deploymentID) →
      plan.watches d.targetID d.clusterID → d.currentRolloutID = some plan.id
  | .writeDeployment row =>
    plan.watches row.targetID row.clusterID →
      plan.id ∈ deploymentRollouts (w.db.deployment row.targetID row.clusterID) (some row)
  | .apply i _ _ =>
    ∀ j ∈ w.jobs[i]?, j.claimed.id ≠ plan.id → ∀ release ∈ j.releases,
      plan.watches j.claimed.targetID release.clusterID →
        ∃ d ∈ w.db.deployment j.claimed.targetID release.clusterID,
          d.currentRolloutID = some plan.id
  | _ => True

instance (plan : FrozenRollout) (w : World) (e : Event) : Decidable (RuntimeReported plan w e) := by
  apply @Event.casesOn (fun e => Decidable (RuntimeReported plan w e)) e <;> intros <;>
    dsimp only [RuntimeReported] <;> infer_instance

/-! ## The view -/

section View

variable {plan : FrozenRollout} {db db' : DB}

def plannedRows (plan : FrozenRollout) (db : DB) : List RuntimeRow :=
  match db.rollout plan.id with
  | none => []
  | some r =>
    ((((db.clustersOf plan.id).filter fun rc => plan.hasCluster rc.clusterID).filterMap
      (runtimeRow db { r with targetID := plan.targetID })).insertionSort runtimeOrder).take
        (maxRolloutClusters + 1)

structure Fits (plan : FrozenRollout) (db : DB) : Prop where
  row : ∃ r, db.rollout plan.id = some r ∧ r.targetID = plan.targetID
  clusters : ∀ rc ∈ db.clustersOf plan.id, plan.hasCluster rc.clusterID

theorem Fits.isSome (h : Fits plan db) : (db.rollout plan.id).isSome := by
  obtain ⟨r, hr, -⟩ := h.row
  simp [hr]

theorem Fits.plannedRows_eq (h : Fits plan db) : plannedRows plan db = db.runtimeRows plan.id := by
  obtain ⟨r, hr, htg⟩ := h.row
  have hrw : ({ r with targetID := plan.targetID } : RolloutRow) = r := by rw [← htg]
  rw [plannedRows, DB.runtimeRows, listDeliveryRolloutRuntime, hr]
  simp only [hrw]
  rw [filter_eq_self.mpr h.clusters]

theorem plannedRows_congr (hg : (db'.rollout plan.id).map (·.runtimeGeneration) =
      (db.rollout plan.id).map (·.runtimeGeneration))
    (hrs : db'.clustersOf plan.id = db.clustersOf plan.id)
    (hj : ∀ rc ∈ db.clustersOf plan.id, plan.hasCluster rc.clusterID →
      db'.clusters.find? (·.id == rc.clusterID) = db.clusters.find? (·.id == rc.clusterID) ∧
      db'.isConnected rc.clusterID = db.isConnected rc.clusterID ∧
      db'.deployment plan.targetID rc.clusterID = db.deployment plan.targetID rc.clusterID) :
    plannedRows plan db' = plannedRows plan db := by
  rw [plannedRows, plannedRows, hrs]
  cases hr : db.rollout plan.id with
  | none =>
    rw [hr, Option.map_none, Option.map_eq_none_iff] at hg
    rw [hg]
  | some r =>
    rw [hr, Option.map_some, Option.map_eq_some_iff] at hg
    obtain ⟨r', hr', hg⟩ := hg
    rw [hr']
    simp only
    congr 2
    refine filterMap_congr fun rc hrc => ?_
    obtain ⟨hmem, hh⟩ := mem_filter.mp hrc
    obtain ⟨hcl, hc, hd⟩ := hj rc hmem hh
    simp only [runtimeRow, hcl, hc, hd, hg]

theorem plannedRows_viewOf : ViewOf plan.id plan.watches (plannedRows plan) := by
  intro db db' h
  refine plannedRows_congr ?_ h.clusterRows fun rc _ hh => ?_
  · have hg := congrArg (Option.map Prod.snd) h.row
    simpa [Option.map_map, Function.comp_def] using hg
  · refine ⟨by rw [h.clusters], ?_, h.deployments _ _ ⟨rfl, hh⟩⟩
    rw [DB.isConnected, DB.isConnected, h.connections]

/-! ## Changes of one cluster -/

theorem Fits.agesTo_bumpForCluster (h : Fits plan db) {connections clusterID}
    {clusters : List ClusterRow} (hc : ∀ c, c ≠ clusterID →
      clusters.find? (·.id == c) = db.clusters.find? (·.id == c))
    (hcc : ∀ c, c ≠ clusterID →
      ({ db with clusters, connections } : DB).isConnected c = db.isConnected c)
    (hh : plan.hasCluster clusterID → db.hears plan) :
    DB.AgesTo (plannedRows plan) plan.id db
      (({ db with clusters, connections } : DB).bumpForCluster clusterID) := by
  by_cases hmem : ∃ rc ∈ db.clustersOf plan.id, rc.clusterID = clusterID
  · -- a cluster of the rollout: the trigger moves the generation
    obtain ⟨rc, hrc, rfl⟩ := hmem
    obtain ⟨r, hr, -⟩ := h.row
    have hst : bumpedByClusterChange r.state := by
      have := hh (h.clusters rc hrc)
      rw [DB.hears, hr] at this
      simpa using this
    obtain ⟨hmem, hid⟩ := mem_filter.mp hrc
    rw [beq_iff_eq] at hid
    have hay : db.rolloutClusters.any
        (fun rc' => rc'.rolloutID == r.id && rc'.clusterID == rc.clusterID) = true := by
      rw [any_eq_true]
      exact ⟨rc, hmem, by simp [hid, DB.id_of_rollout hr]⟩
    refine .inl ?_
    have hrw : ({ db with clusters, connections } : DB).rollout plan.id = some r := hr
    show db.generation plan.id < DB.generation _ plan.id
    rw [DB.bumpForCluster, generation_updateRollouts (by intro; rfl), hrw,
      DB.generation_of_rollout hr]
    simp only [Option.elim_some, hst, hay, Bool.and_true, if_true]
    omega
  · -- no cluster of the rollout: the view does not read it
    have hs : DB.AgesTo (plannedRows plan) plan.id db { db with clusters, connections } := by
      refine .inr ⟨rfl, plannedRows_congr rfl rfl fun rc hrc _ => ?_⟩
      have hne : rc.clusterID ≠ clusterID := fun heq => hmem ⟨rc, hrc, heq⟩
      exact ⟨hc _ hne, hcc _ hne, rfl⟩
    exact hs.trans plannedRows_viewOf.agesTo_bump

theorem Fits.agesTo_writeConnection (h : Fits plan db) (hky : db.PrimaryKeys) {row : ConnectionRow}
    (hh : plan.hasCluster ((db.connections.find? (·.id == row.id)).elim row.clusterID
      (·.clusterID)) → db.hears plan) :
    DB.AgesTo (plannedRows plan) plan.id db (writeConnection db row) := by
  simp only [writeConnection]
  split
  next hn =>
    rw [hn, Option.elim_none] at hh
    refine h.agesTo_bumpForCluster (fun _ _ => rfl) (fun c hc => ?_) hh
    have hot : (row.clusterID == c) = false := beq_eq_false_iff_ne.mpr hc.symm
    simp [DB.isConnected, any_append, hot]
  next old hold =>
    rw [hold, Option.elim_some] at hh
    refine h.agesTo_bumpForCluster (fun _ _ => rfl) (fun c hc => ?_) hh
    refine any_updateWhere fun c' hc' hp => ?_
    -- the key names `old`, which is of the trigger's cluster
    have heq : c' = old := by
      refine inj_on_of_nodup_map hky.connections hc' (mem_of_find?_eq_some hold) ?_
      have hid := find?_some hold
      rw [beq_iff_eq] at hp hid
      rw [hp, hid]
    have hot : (old.clusterID == c) = false := beq_eq_false_iff_ne.mpr hc.symm
    simp [heq, hot]

theorem Fits.agesTo_dropConnection (h : Fits plan db) (hky : db.PrimaryKeys) {id}
    (hh : ∀ old ∈ db.connections.find? (·.id == id), plan.hasCluster old.clusterID →
      db.hears plan) :
    DB.AgesTo (plannedRows plan) plan.id db (dropConnection db id) := by
  simp only [dropConnection]
  split
  · exact .refl
  next old hold =>
    refine h.agesTo_bumpForCluster (fun _ _ => rfl) (fun c hc => ?_) (hh old hold)
    simp only [DB.isConnected]
    rw [any_filter, Bool.eq_iff_iff, any_eq_true, any_eq_true]
    have hk : ∀ c' ∈ db.connections, c'.clusterID = c → (c'.id != id) := by
      intro c' hc' hcl
      rw [bne_iff_ne]
      rintro rfl
      have hid := find?_some hold
      rw [beq_iff_eq] at hid
      have heq : c' = old := inj_on_of_nodup_map hky.connections hc'
        (mem_of_find?_eq_some hold) hid.symm
      exact hc (by rw [← hcl, heq])
    constructor
    · rintro ⟨c', hc', hq⟩
      rw [Bool.and_eq_true] at hq
      exact ⟨c', hc', hq.2⟩
    · rintro ⟨c', hc', hq⟩
      refine ⟨c', hc', ?_⟩
      have hcl : c'.clusterID = c := by
        simp only [Bool.and_eq_true, beq_iff_eq] at hq
        exact hq.1.1
      rw [Bool.and_eq_true]
      exact ⟨hk c' hc' hcl, hq⟩

theorem Fits.agesTo_writeLabels (h : Fits plan db) {clusterID labels}
    (hh : plan.hasCluster clusterID → db.hears plan) :
    DB.AgesTo (plannedRows plan) plan.id db (writeLabels db clusterID labels) := by
  simp only [writeLabels]
  split
  · exact .refl
  · split
    · exact .refl
    · refine h.agesTo_bumpForCluster (fun c hc => ?_) (fun _ _ => rfl) hh
      rw [find?_updateWhere (by intro; rfl)]
      cases hf : db.clusters.find? (·.id == c) with
      | none => rfl
      | some row => grind

end View

/-! ## The system -/

section System

variable {env : Env} {senv : StatusEnv} {plan : FrozenRollout} {w : World} {e : Event} {db : DB}

theorem Fits.step (h : Fits plan w.db) : Fits plan (w.step env senv e).db := by
  obtain ⟨r, hr, htg⟩ := h.row
  obtain ⟨core, hcr, hf⟩ := @World.frozen_step env senv w e _ _ (DB.core_of_rollout hr)
  obtain ⟨r', hr', rfl⟩ := Option.map_eq_some_iff.mp hcr
  have hs := congrArg RolloutRow.targetID hf
  refine ⟨⟨r', hr', hs.trans htg⟩, fun rc hrc => ?_⟩
  obtain ⟨rc0, hrc0, -, hcl⟩ :=
    DB.exists_of_clusterKeys (World.step_writes.clusterKeys h.isSome) hrc
  exact hcl ▸ h.clusters rc0 hrc0

structure World.Cached (env : Env) (plan : FrozenRollout) (w : World) : Prop
    extends World.Staffed env plan w where
  fits : Fits plan w.db
  keys : w.db.PrimaryKeys
  coherent : w.Coherent (plannedRows plan) (fun v rows => rows = v) plan.id

theorem World.Commits.agesTo_plannedRows {db'} (hc : w.Commits env senv e db')
    (h : w.Cached env plan) (hrp : RuntimeReported plan w e) :
    DB.AgesTo (plannedRows plan) plan.id w.db db' := by
  have hr := h.fits.isSome
  cases hc with
  | create hi => exact plannedRows_viewOf.agesTo_insertRollout hr hi
  | claim hcm => exact plannedRows_viewOf.agesTo_claim hcm
  | @apply _ _ _ _ _ claimed _ _ _ _ hj ha =>
    have htg : claimed.frozenPlan.targetID = claimed.targetID :=
      (decodeFrozenPlan_of_applyDecision ha).2
    refine plannedRows_viewOf.agesTo_applyDecision hr (fun release hmem hw => ?_) ha
    by_cases hid : claimed.id = plan.id
    · have hp := (h.jobs _ (mem_of_getElem? hj) hid).1
      exact .inl (congrArg FrozenRollout.id hp)
    · -- another rollout's releases reach this one through the rows they overwrite
      rw [show Work.claimed _ = claimed from rfl, htg] at hw ⊢
      exact .inr (hrp _ hj hid release hmem hw)
  | act hac => exact plannedRows_viewOf.agesTo_act hr hac
  | approve har => exact plannedRows_viewOf.agesTo_approve har
  | ingest hig =>
    refine (plannedRows_viewOf.follows_ingest hr ⟨hrp, fun d hd d' hd' _ heq => ?_⟩ hig).ages
    exact inj_on_of_nodup_map h.keys.deployments hd hd' heq
  | connection => exact h.fits.agesTo_writeConnection h.keys hrp
  | dropConnection => exact h.fits.agesTo_dropConnection h.keys hrp
  | labels => exact h.fits.agesTo_writeLabels hrp
  | writeDeployment => exact plannedRows_viewOf.agesTo_writeDeploymentRow hr hrp

theorem World.Cached.step (h : w.Cached env plan) (hrp : RuntimeReported plan w e) :
    (w.step env senv e).Cached env plan := by
  refine ⟨h.toStaffed.step, h.fits.step,
    World.step_writes.keeps (fun _ _ hw hk => hk.write hw) h.keys,
    h.coherent.step h.fits.plannedRows_eq.symm ?_⟩
  exact World.step_db_induct (P := DB.AgesTo (plannedRows plan) plan.id w.db) .refl
    fun _ hc => hc.agesTo_plannedRows h hrp

theorem World.Cached.cacheCoherent (h : w.Cached env plan) : CacheCoherent plan w := by
  intro replica c r hc hr hg
  rw [← h.fits.plannedRows_eq]
  refine (h.coherent.caches replica c hc).2 ?_
  show c.generation = w.db.generation plan.id
  rw [DB.generation_of_rollout hr, hg]

theorem World.Cached.decisionCurrent (h : w.Cached env plan) : DecisionCurrent env plan w e := by
  cases e with
  | apply i dbNow newID =>
    intro replica owner claimed runtime decision now db' hj hid ha
    have hmem := mem_of_getElem? hj
    obtain ⟨approvals, windows, hs, he⟩ := (h.jobs _ hmem hid).2 _ _ _ rfl
    obtain ⟨locked, _, _, _, hlk, -, hg, -⟩ := applyDecision_eq_ok ha
    -- the fence of the commit: the rows were loaded at the generation the row still has
    have hrs : runtime.rows = plannedRows plan w.db := by
      refine (h.coherent.jobs _ hmem hid runtime rfl).2 ?_
      show runtime.generation = w.db.generation plan.id
      rw [← hid]
      exact (DB.generation_of_rollout hlk ▸ hg).symm
    refine ⟨approvals, windows, hs, ?_⟩
    rw [← h.fits.plannedRows_eq, ← hrs]
    exact he
  | _ => trivial

theorem Fits.of_insert {now newID} (hi : insertRollout env w.db now newID plan = .ok db)
    (hn : w.Unseen plan.id) :
    Fits plan db := by
  have hrw : db.core plan.id = some plan.toRow.core := by simp [insertRollout_core hi]
  refine ⟨?_, fun rc hrc => ?_⟩
  · obtain ⟨r, hr, hcr⟩ := Option.map_eq_some_iff.mp hrw
    exact ⟨r, hr, congrArg RolloutRow.targetID hcr⟩
  · rw [clustersOf_insertRollout hi hn] at hrc
    obtain ⟨c, hc, rfl⟩ := mem_map.mp hrc
    rw [FrozenRollout.hasCluster, any_eq_true]
    exact ⟨c, hc, by simp [PlannedCluster.toRow]⟩

theorem World.Cached.of_insert {now newID} (hi : insertRollout env w.db now newID plan = .ok db)
    (hn : w.Unseen plan.id) (hky : w.db.PrimaryKeys) : World.Cached env plan { w with db } := by
  refine ⟨.of_insert hi hn.jobs, .of_insert hi hn,
    (DB.Writes.of_insertRollout hi).keeps (fun _ _ hw hk => hk.write hw) hky,
    ⟨fun j hj hid => absurd hid (hn.jobs j hj), fun j hj hid => absurd hid (hn.jobs j hj),
      fun replica c hc => ?_⟩⟩
  rw [hn.caches replica] at hc
  cases hc

end System

/-- **Cache coherence.** Along every run in which the runtime of a rollout changes only as
its triggers report, a cached copy under the rollout's generation is the runtime, and a
committed decision is the one `Evaluate` makes on the rows at its commit. -/
theorem cache_coherent_of_reported {env : Env} {senv : StatusEnv} {plan : FrozenRollout}
    {w : World} {db : DB} {now : Time} {newID : UUID → UUID} {es : List Event}
    (hins : insertRollout env w.db now newID plan = .ok db) (hnew : w.Unseen plan.id)
    (hkeys : w.db.PrimaryKeys)
    (hmeets : RunMeets (World.step env senv) (RuntimeReported plan) { w with db } es) :
    RunMeets (World.step env senv)
      (fun w e => CacheCoherent plan w ∧ CacheCoherent plan (w.step env senv e) ∧
        DecisionCurrent env plan w e) { w with db } es :=
  RunMeets.of_invariant (P := World.Cached env plan) (fun _ _ h hok => h.step hok)
    (fun w e h hok => by
      have hn : (w.step env senv e).Cached env plan := h.step hok
      exact ⟨h.cacheCoherent, hn.cacheCoherent, h.decisionCurrent⟩)
    hmeets (.of_insert hins hnew hkeys)

/-! ## On one cluster -/

namespace OneCluster

def droppedRun : List Event := pass 11 ++ [.dropConnection 9] ++ pass 12 ++ pass 13

def pausedRun : List Event :=
  pass 11 ++ pass 12 ++
    [.act ⟨13, 13⟩ (action 3 .pause), .dropConnection 9, .act ⟨14, 14⟩ (action 4 .resume)]

end OneCluster

open OneCluster in
/-- A connection lost in a state in which the rollout hears of it. -/
theorem droppedRun_coherent :
    ((run (World.step env senv) (inserted firstPlan) droppedRun).db.clustersOf 1).map (·.state) =
        [.blocked] ∧
      RunMeets (World.step env senv)
        (fun w e => CacheCoherent firstPlan w ∧ CacheCoherent firstPlan (w.step env senv e) ∧
          DecisionCurrent env firstPlan w e) (inserted firstPlan) droppedRun :=
  ⟨by decide +kernel, @cache_coherent_of_reported env senv firstPlan world _ 10 (· + 100) _ (by rfl)
      unseen ⟨by decide, by decide⟩ (by decide +kernel)⟩

open OneCluster in
/-- The resumed rollout finds its cached copy under its generation, with an agent that is
gone; two passes later the cluster is released to it. -/
theorem pausedRun_stale : let resumed := run (World.step env senv) (inserted firstPlan) pausedRun
    let final := run (World.step env senv) resumed (pass 15 ++ pass 16)
    ¬ CacheCoherent firstPlan resumed ∧ resumed.db.isConnected 7 = false ∧
      (final.db.clustersOf 1).map (·.state) = [.released] := by
  intro resumed final
  have hs : ∃ c ∈ (resumed.caches 0).entry 1, ∃ r ∈ resumed.db.rollout 1,
      c.generation = r.runtimeGeneration ∧ c.rows ≠ resumed.db.runtimeRows 1 := by
    decide +kernel
  refine ⟨fun h => ?_, by decide +kernel, by decide +kernel⟩
  obtain ⟨c, hc, r, hr, hg, hrs⟩ := hs
  exact hrs (h 0 c r hc hr hg)

end Astronomer.Delivery
