import Astronomer.Delivery.Workers

/-!
# Keys and copies

What holds in every world the system can be in: the unique keys of the tables, and that
whatever a worker or a cache holds is a copy of rows that are still there under the same
keys. It says which rows a decision can hit: those of its own rollout and cluster.
-/

namespace Astronomer.Delivery

open List

def RuntimeRow.CopyOf (db : DB) (id : UUID) (row : RuntimeRow) : Prop :=
  ∃ rc ∈ db.clustersOf id, rc.id = row.row.id ∧ rc.clusterID = row.row.clusterID

structure Job.CopyOf (db : DB) (j : Job) : Prop where
  claimed : ∃ r, db.core j.claimed.id = some r ∧ r.frozen = j.claimed.frozen
  rows : ∀ runtime, j.runtime = some runtime → ∀ row ∈ runtime.rows, row.CopyOf db j.claimed.id

structure DB.Keys (db : DB) : Prop extends DB.PrimaryKeys db where
  pairs : (db.deployments.map fun d => (d.targetID, d.clusterID)).Nodup
  clusterRows : (db.rolloutClusters.map (·.id)).Nodup

structure World.Integrity (w : World) : Prop where
  keys : w.db.Keys
  jobs : ∀ j ∈ w.jobs, j.CopyOf w.db
  caches : ∀ replica id c, (w.caches replica).entry id = some c → ∀ row ∈ c.rows, row.CopyOf w.db id

theorem OneCluster.integrity : world.Integrity :=
  ⟨⟨⟨by decide, by decide⟩, by decide, by decide⟩, by simp [world], nofun⟩

section Tables

variable {db db' : DB} {id : UUID}

theorem DB.Keys.eq_of_pair (h : db.Keys) {d d' : DeploymentRow} (hd : d ∈ db.deployments)
    (hd' : d' ∈ db.deployments) (htg : d.targetID = d'.targetID)
    (hcl : d.clusterID = d'.clusterID) : d = d' :=
  inj_on_of_nodup_map h.pairs hd hd' (by rw [htg, hcl])

theorem DB.Keys.eq_of_id (h : db.Keys) {d d' : DeploymentRow} (hd : d ∈ db.deployments)
    (hd' : d' ∈ db.deployments) (hid : d.id = d'.id) : d = d' :=
  inj_on_of_nodup_map h.deployments hd hd' hid

theorem DB.Keys.deployment_eq (h : db.Keys) {d : DeploymentRow} (hd : d ∈ db.deployments) :
    db.deployment d.targetID d.clusterID = some d :=
  find?_of_nodup_map (g := fun d => (d.targetID, d.clusterID)) h.pairs hd (by simp)
    fun d' hd' => by simpa using hd'

theorem DB.Keys.write (h : DB.Write db db') (hk : db.Keys) : db'.Keys := by
  have hpr : db'.PrimaryKeys := hk.toPrimaryKeys.write h
  refine ⟨hpr, ?_, ?_⟩
  · cases h with
    | rollouts | clusterRows | create | log => exact hk.pairs
    | @insertDeployment row _ hn =>
      refine nodup_map_insert hk.pairs fun hmem => ?_
      obtain ⟨d, hd, heq⟩ := mem_map.mp hmem
      have := find?_eq_none.mp hn d hd
      simp only [Prod.mk.injEq] at heq
      simp [heq.1, heq.2] at this
    | @updateDeployment p f _ _ hky hu =>
      obtain ⟨_, -, -, rfl⟩ := DB.updateDeployment_eq_some.mp hu
      show ((updateWhere p f db.deployments).map _).Nodup
      rw [map_updateWhere_of_where fun d hp => by rw [(hky d hp).target, (hky d hp).cluster]]
      exact hk.pairs
    | connection => rw [writeConnection_around.deployments]; exact hk.pairs
    | dropConnection => rw [dropConnection_around.deployments]; exact hk.pairs
    | labels => rw [writeLabels_around.deployments]; exact hk.pairs
  · cases h with
    | rollouts | log | insertDeployment => exact hk.clusterRows
    | @clusterRows now p f hky =>
      have hid := map_updateWhere (p := p) (f := fun rc => { f rc with updatedAt := now })
        (g := (·.id)) (t := db.rolloutClusters) fun rc => (hky rc).id
      show ((updateWhere p _ db.rolloutClusters).map _).Nodup
      rw [hid]
      exact hk.clusterRows
    | @create plan now newID _ hnd hf =>
      show ((db.rolloutClusters ++ plan.clusters.map _).map _).Nodup
      rw [map_append, map_map, nodup_append]
      refine ⟨hk.clusterRows, hnd, fun x hx y hy heq => ?_⟩
      obtain ⟨rc, hrc, rfl⟩ := mem_map.mp hx
      obtain ⟨c, hc, rfl⟩ := mem_map.mp hy
      exact hf c hc rc hrc heq
    | updateDeployment _ hu =>
      obtain ⟨_, -, -, rfl⟩ := DB.updateDeployment_eq_some.mp hu
      exact hk.clusterRows
    | connection => rw [writeConnection_around.clusterRows]; exact hk.clusterRows
    | dropConnection => rw [dropConnection_around.clusterRows]; exact hk.clusterRows
    | labels => rw [writeLabels_around.clusterRows]; exact hk.clusterRows

theorem DB.Write.clusterRow (h : DB.Write db db') {rc : RolloutClusterRow}
    (hrc : rc ∈ db.clustersOf id) : ∃ rc' ∈ db'.clustersOf id, rc.SameKeys rc' := by
  have hs : ∀ {db' : DB}, db'.rolloutClusters = db.rolloutClusters →
      ∃ rc' ∈ db'.clustersOf id, rc.SameKeys rc' := fun heq =>
    ⟨rc, by rw [DB.clustersOf, heq]; exact hrc, rfl, rfl, rfl⟩
  cases h with
  | rollouts | log | insertDeployment => exact hs rfl
  | @clusterRows now p f hky =>
    obtain ⟨hmem, hid⟩ := mem_filter.mp hrc
    refine ⟨if p rc then { f rc with updatedAt := now } else rc, mem_filter.mpr ⟨?_, ?_⟩, ?_⟩
    · exact mem_updateWhere.mpr ⟨rc, hmem, rfl⟩
    · split
      · show ((f rc).rolloutID == id) = true
        rw [(hky rc).rollout]
        exact hid
      · exact hid
    · split
      · exact ⟨(hky rc).id, (hky rc).rollout, (hky rc).cluster⟩
      · exact ⟨rfl, rfl, rfl⟩
  | create =>
    obtain ⟨hmem, hid⟩ := mem_filter.mp hrc
    exact ⟨rc, mem_filter.mpr ⟨mem_append_left _ hmem, hid⟩, rfl, rfl, rfl⟩
  | updateDeployment _ hu =>
    obtain ⟨_, -, -, rfl⟩ := DB.updateDeployment_eq_some.mp hu
    exact hs rfl
  | connection => exact hs writeConnection_around.clusterRows
  | dropConnection => exact hs dropConnection_around.clusterRows
  | labels => exact hs writeLabels_around.clusterRows

theorem RuntimeRow.CopyOf.write {row : RuntimeRow} (h : DB.Write db db') (hc : row.CopyOf db id) :
    row.CopyOf db' id := by
  obtain ⟨rc, hrc, hid, hcl⟩ := hc
  obtain ⟨rc', hrc', hky⟩ := h.clusterRow hrc
  exact ⟨rc', hrc', hky.id.trans hid, hky.cluster.trans hcl⟩

theorem copyOf_runtimeRows {row : RuntimeRow} (h : row ∈ db.runtimeRows id) : row.CopyOf db id := by
  obtain ⟨_, -, -, hmem⟩ := mem_listDeliveryRolloutRuntime h
  exact ⟨row.row, hmem, rfl, rfl⟩

end Tables

section System

variable {env : Env} {senv : StatusEnv} {w : World} {e : Event} {j : Job}

theorem World.keys_step (h : w.db.Keys) : (w.step env senv e).db.Keys :=
  World.step_writes.keeps (fun _ _ hw hk => hk.write hw) h

theorem World.copyOf_step {id} {row : RuntimeRow} (h : row.CopyOf w.db id) :
    row.CopyOf (w.step env senv e).db id :=
  World.step_writes.keeps (P := fun db => row.CopyOf db id) (fun _ _ hw hc => hc.write hw) h

theorem World.claimed_step
    (h : ∃ r, w.db.core j.claimed.id = some r ∧ r.frozen = j.claimed.frozen) :
    ∃ r, (w.step env senv e).db.core j.claimed.id = some r ∧ r.frozen = j.claimed.frozen := by
  obtain ⟨r, hr, hf⟩ := h
  obtain ⟨r', hr', hf'⟩ := @World.frozen_step env senv w e _ r hr
  exact ⟨r', hr', hf'.trans hf⟩

theorem World.Integrity.jobs_step (h : w.Integrity) (hj : j ∈ (w.step env senv e).jobs) :
    j.CopyOf (w.step env senv e).db := by
  cases World.step_jobs hj with
  | held hmem =>
    refine ⟨World.claimed_step (h.jobs j hmem).claimed, fun runtime hrt row hrw => ?_⟩
    exact World.copyOf_step ((h.jobs j hmem).rows runtime hrt row hrw)
  | claim _ hsg hcm =>
    obtain ⟨r, hr, -, -, hrw, -⟩ := claimDeliveryRollout_eq_some hcm
    refine ⟨World.claimed_step ?_, fun runtime hrt => ?_⟩
    · rw [hrw]
      refine ⟨r.core, ?_, rfl⟩
      rw [show (r.claimedBy _ _ _).id = r.id from rfl, DB.id_of_rollout hr]
      exact DB.core_of_rollout hr
    · rw [Job.runtime, hsg] at hrt
      cases hrt
  | load _ hmem hsg hl =>
    have hcd := (h.jobs _ hmem).claimed
    refine ⟨World.claimed_step hcd, fun runtime hrt row hrw => World.copyOf_step ?_⟩
    rw [Job.runtime, hsg] at hrt
    cases hrt
    rcases loadRuntime_eq_ok hl with ⟨c, hc, -, rfl, -⟩ | ⟨hrs, -⟩
    · exact h.caches _ _ c hc row hrw
    · rw [hrs] at hrw
      exact copyOf_runtimeRows hrw
  | evaluate _ hmem hsg =>
    have hold := h.jobs _ hmem
    refine ⟨World.claimed_step hold.claimed, fun runtime hrt row hrw => World.copyOf_step ?_⟩
    rw [Job.runtime, hsg] at hrt
    cases hrt
    exact hold.rows _ rfl row hrw

theorem World.Integrity.step (h : w.Integrity) : (w.step env senv e).Integrity := by
  refine ⟨World.keys_step h.keys, fun j hj => h.jobs_step hj, fun replica id c hc row hr => ?_⟩
  refine World.copyOf_step ?_
  rcases World.step_caches hc with ⟨c0, hc0, -, hrs⟩ | ⟨-, hrs⟩
  · rw [hrs] at hr
    exact h.caches replica id c0 hc0 row hr
  · rw [hrs] at hr
    exact copyOf_runtimeRows hr

theorem World.step_create {plan db now newID}
    (hi : insertRollout env w.db now newID plan = .ok db) :
    w.step env senv (.create plan now newID) = { w with db } := by
  simp [World.step, hi, commitOr]

end System

end Astronomer.Delivery
