import Astronomer.Delivery.Queries

/-!
# Storing and reading back a plan

`InsertRollout` writes the rollout row in state `resolving` and one pending row for
each plan cluster; `decodeFrozenPlan` reads the plan back and checks it against the
indexed columns.
-/

namespace Astronomer.Delivery

def clampInt64 (n : Nat) : Int := min n maxInt64

def FrozenRollout.toRow (plan : FrozenRollout) : RolloutRow :=
  { id := plan.id, targetID := plan.targetID
    targetGeneration := clampInt64 plan.targetGeneration
    toBundleVersionID := plan.desired.bundleVersionID
    placementDigest := plan.placementDigest, strategy := plan.strategy
    strategyDigest := plan.strategyDigest, requestDigest := plan.requestDigest
    planDigest := plan.planDigest, frozenPlan := plan, state := .resolving
    idempotencyKey := plan.idempotencyKey }

def PlannedCluster.toRow (plan : FrozenRollout) (dbNow : Time) (newID : UUID → UUID)
    (cluster : PlannedCluster) : RolloutClusterRow :=
  { id := newID cluster.clusterID, rolloutID := plan.id, clusterID := cluster.clusterID
    cohort := cluster.cohort, releaseOrder := cluster.order
    previousBundleVersionID := cluster.previous.map (·.version.bundleVersionID)
    desiredBundleVersionID := (plan.desiredFor cluster).bundleVersionID
    desiredSpecDigest := (plan.desiredFor cluster).specDigest
    deadline := some plan.deadline, updatedAt := dbNow }

def maxDocumentBytes : Nat := 16 * 1024 * 1024

/-- What the trigger `durable_json_validate_write` of migration 49 asks of `frozen_plan`, a
JSON object, before a row is written. -/
def validateDurableJSONBWrite (env : Env) (plan : FrozenRollout) : Except Error Unit :=
  require (decide (env.columnSize plan ≤ maxDocumentBytes))
    (fail .invalidInput "rollout" "insert frozen delivery rollout")

def insertRolloutRows (db : DB) (dbNow : Time) (newID : UUID → UUID) (plan : FrozenRollout) :
    Except Error DB := do
  let rows := plan.clusters.map (PlannedCluster.toRow plan dbNow newID)
  require ((db.rollout plan.id).isNone)
    (fail .invalidInput "rollout" "insert frozen delivery rollout")
  require (decide ((rows.map (·.id)).Nodup) &&
      rows.all fun row => db.rolloutClusters.all fun rc => rc.id != row.id)
    (fail .invalidInput "rollout_clusters" "insert rollout cluster")
  orError
    (recomputeDeliveryRolloutCounters
      { db with
        rollouts := db.rollouts ++ [plan.toRow]
        rolloutClusters := db.rolloutClusters ++ rows } plan.id)
    (fail .noRows "counters" "initialize delivery rollout counters")

def insertRollout (env : Env) (db : DB) (dbNow : Time) (newID : UUID → UUID)
    (plan : FrozenRollout) : Except Error DB := do
  plan.validate env
  validateDurableJSONBWrite env plan
  insertRolloutRows db dbNow newID plan

def decodeFrozenPlan (row : RolloutRow) : Except Error FrozenRollout :=
  let plan := row.frozenPlan
  if plan.id = row.id ∧ plan.targetID = row.targetID ∧
      clampInt64 plan.targetGeneration = row.targetGeneration ∧
      plan.desired.bundleVersionID = row.toBundleVersionID ∧
      plan.placementDigest = row.placementDigest ∧ plan.strategyDigest = row.strategyDigest ∧
      plan.planDigest = row.planDigest ∧ plan.requestDigest = row.requestDigest ∧
      plan.idempotencyKey = row.idempotencyKey then .ok plan
  else .error (fail .invariant "frozen_plan" "does not match indexed rollout identity")

theorem decodeFrozenPlan_eq_ok {plan} {row : RolloutRow} (h : decodeFrozenPlan row = .ok plan) :
    plan = row.frozenPlan := by
  simp only [decodeFrozenPlan] at h
  split at h
  · exact (Except.ok.inj h).symm
  · cases h

end Astronomer.Delivery
