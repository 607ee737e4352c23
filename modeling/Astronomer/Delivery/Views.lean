import Astronomer.Delivery.Store

/-!
# How the writes look from one rollout

What a reader of ONE rollout sees after each primitive write: its row, up to counters and
triggers (`RolloutRow.core`), its cluster rows, its deployments.
-/

namespace Astronomer.Delivery

variable {r : RolloutRow} {f : RolloutRow → RolloutRow} {row : DeploymentRow}

def RolloutRow.core (r : RolloutRow) : RolloutRow :=
  { r with
    totalClusters := 0, readyClusters := 0, failedClusters := 0, blockedClusters := 0
    releasedClusters := 0, runtimeGeneration := 0 }

@[simp] theorem RolloutRow.core_state (r : RolloutRow) : r.core.state = r.state := rfl

@[simp] theorem RolloutRow.core_id (r : RolloutRow) : r.core.id = r.id := rfl

@[simp] theorem RolloutRow.core_frozenPlan (r : RolloutRow) :
    r.core.frozenPlan = r.frozenPlan := rfl

def DB.core (db : DB) (id : UUID) : Option RolloutRow := (db.rollout id).map RolloutRow.core

theorem DB.core_of_rollout {id} {db : DB} (h : db.rollout id = some r) :
    db.core id = some r.core := by
  rw [DB.core, h, Option.map_some]

theorem DB.core_inj {id c} {db : DB} (h : db.rollout id = some r) (hc : db.core id = some c) :
    r.core = c := by
  rw [DB.core_of_rollout h] at hc
  exact Option.some.inj hc

section Rollouts

variable {db db' : DB} {id x : UUID} {now : Time}

theorem DB.id_of_rollout (h : db.rollout id = some r) : r.id = id := by
  have := List.find?_some h
  simpa using this

theorem DB.rollout_updateRollouts {p} (hid : ∀ r, (f r).id = r.id) :
    (db.updateRollouts p f).rollout x = (db.rollout x).map fun r => if p r then f r else r :=
  find?_updateWhere fun r => by simp [hid]

theorem DB.rollout_updateRollouts_key (hid : ∀ r, (f r).id = r.id) :
    (db.updateRollouts (·.id == id) f).rollout x =
      if x = id then (db.rollout x).map f else db.rollout x := by
  rw [DB.rollout_updateRollouts hid]
  cases hx : db.rollout x with
  | none => simp
  | some r =>
    have hr := DB.id_of_rollout hx
    by_cases hid' : x = id <;> simp [hr, hid']

theorem DB.updateRollout_eq_some {cond r'} : db.updateRollout id cond f = some (db', r') ↔
      ∃ r, db.rollout id = some r ∧ cond r ∧
        db' = db.updateRollouts (·.id == id) f ∧ r' = f r := by
  simp only [DB.updateRollout, Option.bind_eq_some_iff]
  constructor
  · rintro ⟨r, hr, h⟩
    split at h
    next hc =>
      cases h
      exact ⟨r, hr, hc, rfl, rfl⟩
    · cases h
  · rintro ⟨r, hr, hc, rfl, rfl⟩
    exact ⟨r, hr, by simp [hc]⟩

theorem DB.core_updateRollouts_key (hid : ∀ r, (f r).id = r.id) (hf : ∀ r, (f r).core = f r.core) :
    (db.updateRollouts (·.id == id) f).core x =
      if x = id then (db.core x).map f else db.core x := by
  rw [DB.core, DB.rollout_updateRollouts_key hid]
  split
  · simp only [DB.core, Option.map_map]
    congr 1
    funext r
    exact hf r
  · rfl

theorem DB.core_updateRollouts_of_core {p} (hf : ∀ r, (f r).core = r.core) :
    (db.updateRollouts p f).core x = db.core x := by
  have hid : ∀ r, (f r).id = r.id := fun r => by
    have h := congrArg RolloutRow.id (hf r)
    simpa using h
  rw [DB.core, DB.rollout_updateRollouts hid, Option.map_map, DB.core]
  congr 1
  funext r
  simp only [Function.comp_apply]
  split
  · exact hf r
  · rfl

@[simp] theorem DB.core_bumpForDeployment {old new} :
    (db.bumpForDeployment old new).core x = db.core x :=
  DB.core_updateRollouts_of_core fun _ => rfl

@[simp] theorem DB.core_bumpForCluster : (db.bumpForCluster id).core x = db.core x :=
  DB.core_updateRollouts_of_core fun _ => rfl

theorem DB.rollout_updateClusterRows {p f} :
    (db.updateClusterRows now p f).rollout x = (db.rollout x).map fun r =>
      { r with runtimeGeneration := r.runtimeGeneration +
                 (db.rolloutClusters.countP fun rc => p rc && rc.rolloutID == r.id : Nat) } := by
  simp only [DB.rollout, DB.updateClusterRows, List.find?_map]
  rfl

theorem mem_clustersOf_updateClusterRows {p f rc'} (hf : ∀ rc, (f rc).rolloutID = rc.rolloutID)
    (h : rc' ∈ (db.updateClusterRows now p f).clustersOf id) :
    ∃ rc ∈ db.clustersOf id,
      rc' = if p rc then { f rc with updatedAt := now } else rc := by
  simp only [DB.clustersOf, DB.updateClusterRows] at h
  rw [filter_updateWhere (fun rc => by simp [hf])] at h
  obtain ⟨rc, hrc, rfl⟩ := mem_updateWhere.mp h
  exact ⟨rc, hrc, rfl⟩

@[simp] theorem DB.core_updateClusterRows {p f} :
    (db.updateClusterRows now p f).core x = db.core x := by
  rw [DB.core, DB.rollout_updateClusterRows, Option.map_map]
  rfl

@[simp] theorem DB.core_createRolloutEvent {e} : (db.createRolloutEvent e).core x = db.core x := rfl

@[simp] theorem DB.core_insertDeployment : (db.insertDeployment row).core x = db.core x :=
  DB.core_updateRollouts_of_core fun _ => rfl

theorem DB.updateDeployment_eq_some {p f} : db.updateDeployment p f = some (db', row) ↔
      ∃ old, db.deployments.find? p = some old ∧ row = f old ∧
        db' = { db with deployments := updateWhere p f db.deployments }.bumpForDeployment
          (some old) (some (f old)) := by
  simp only [DB.updateDeployment, Option.map_eq_some_iff, Prod.mk.injEq]
  constructor
  · rintro ⟨old, hold, rfl, rfl⟩
    exact ⟨old, hold, rfl, rfl⟩
  · rintro ⟨old, hold, rfl, rfl⟩
    exact ⟨old, hold, rfl, rfl⟩

theorem DB.core_of_updateDeployment {p f} (h : db.updateDeployment p f = some (db', row)) :
    db'.core x = db.core x := by
  obtain ⟨old, -, -, rfl⟩ := DB.updateDeployment_eq_some.mp h
  rw [DB.core_bumpForDeployment]
  rfl

theorem recompute_eq_some (h : recomputeDeliveryRolloutCounters db id = some db') :
    ∃ total ready failed blocked released, db' = db.updateRollouts (·.id == id) ({ · with
      totalClusters := total, readyClusters := ready, failedClusters := failed
      blockedClusters := blocked, releasedClusters := released }) := by
  simp only [recomputeDeliveryRolloutCounters] at h
  split at h
  · cases h
  · cases h
    exact ⟨_, _, _, _, _, rfl⟩

theorem DB.core_of_recompute (h : recomputeDeliveryRolloutCounters db id = some db') :
    db'.core x = db.core x := by
  obtain ⟨_, _, _, _, _, rfl⟩ := recompute_eq_some h
  exact DB.core_updateRollouts_of_core fun _ => rfl

theorem isSome_rollout_of_core (h : ∀ x, db'.core x = db.core x) (hr : (db.rollout id).isSome) :
    (db'.rollout id).isSome := by
  have := congrArg Option.isSome (h id)
  simp only [DB.core, Option.isSome_map] at this
  rw [this, hr]

end Rollouts

end Astronomer.Delivery
