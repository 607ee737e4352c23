import Astronomer.Delivery.Control

/-!
# The rollout reconciler

A worker claims a rollout, loads its runtime (from its own cache when the claimed
`runtime_generation` is the cached one), evaluates, and commits the decision in one
transaction that first re-checks lease, fence, runtime generation and state.
-/

namespace Astronomer.Delivery

def maxRolloutClusters : Nat := 10000

def maxRuntimeCacheEntries : Nat := 1024

/-! ## The runtime cache of one replica -/

structure CacheEntry where
  rolloutID : UUID
  generation : Int
  rows : List RuntimeRow
  usedAt : Time

abbrev RuntimeCache := List CacheEntry

variable (cache : RuntimeCache) (rolloutID : UUID) (generation : Int)

def RuntimeCache.entry : Option CacheEntry :=
  cache.find? (·.rolloutID == rolloutID)

def RuntimeCache.put (e : CacheEntry) : RuntimeCache :=
  e :: cache.filter (·.rolloutID != e.rolloutID)

def cachedRuntime (now : Time) : Option (RuntimeCache × List RuntimeRow) :=
  (cache.entry rolloutID).bind fun e =>
    if e.generation = generation then some (cache.put { e with usedAt := now }, e.rows) else none

def oldestEntry : RuntimeCache → Option CacheEntry
  | [] => none
  | e :: rest =>
    match oldestEntry rest with
    | none => some e
    | some o => if e.usedAt ≤ o.usedAt then some e else some o

def storeRuntime (rows : List RuntimeRow) (now : Time) : RuntimeCache :=
  let kept :=
    if (cache.entry rolloutID).isNone ∧ maxRuntimeCacheEntries ≤ cache.length then
      match oldestEntry cache with
      | some oldest => cache.filter (·.rolloutID != oldest.rolloutID)
      | none => cache
    else cache
  kept.put ⟨rolloutID, generation, rows, now⟩

structure LoadedRuntime where
  rows : List RuntimeRow
  generation : Int

def loadRuntime (db : DB) (cache : RuntimeCache) (claimed : RolloutRow) (now : Time) :
    Except Error (RuntimeCache × LoadedRuntime) :=
  if maxRolloutClusters < claimed.totalClusters then
    .error (fail .invariant "rollout.total_clusters" "exceeds runtime evaluation limit")
  else match cachedRuntime cache claimed.id claimed.runtimeGeneration now with
  | some (touched, rows) => .ok (touched, ⟨rows, claimed.runtimeGeneration⟩)
  | none =>
    let rows := listDeliveryRolloutRuntime db claimed.id (maxRolloutClusters + 1)
    if maxRolloutClusters < rows.length then
      .error (fail .invariant "rollout.runtime" "exceeds runtime evaluation limit")
    else match rows with
    | [] => .ok (cache, ⟨[], claimed.runtimeGeneration⟩)
    | first :: rest =>
      if rest.all fun row => row.runtimeGeneration == first.runtimeGeneration then
        .ok (storeRuntime cache claimed.id first.runtimeGeneration rows now,
          ⟨rows, first.runtimeGeneration⟩)
      else .error (fail .invariant "runtime_generation"
        "runtime snapshot contains mixed generations")

/-! ## The input of an evaluation -/

def RuntimeRow.toRuntime (row : RuntimeRow) : ClusterRuntime :=
  { clusterID := row.row.clusterID, state := row.row.state, fence := row.row.fence
    connected := row.connected
    available := row.deploymentPhase.elim true (· == .ready)
    readySince := row.row.readyAt, stateChangedAt := row.row.updatedAt
    deadline := row.row.deadline.getD 0
    currentGeneration := row.desiredGeneration.getD 0
    everReleased := row.row.releasedAt.isSome, lastAction := row.row.assignmentAction }

def runtimeFromRows (plan : FrozenRollout) (claimed : RolloutRow) (rows : List RuntimeRow) :
    RuntimeSnapshot :=
  { plan, state := claimed.state, fence := claimed.fencingGeneration
    clusters := rows.map RuntimeRow.toRuntime }

def ApprovalRow.toDecision (row : ApprovalRow) : ApprovalDecision :=
  { id := row.id, bindingDigest := row.bindingDigest, approved := row.decision == .approved
    decidedAt := row.decidedAt, expiresAt := row.expiresAt }

def initialApproval (rows : List ApprovalRow) : Option ApprovalDecision :=
  (rows.filter (·.cohort == -1)).getLast?.map ApprovalRow.toDecision

def cohortApprovals (rows : List ApprovalRow) : List (Int × ApprovalDecision) :=
  ((rows.filter (·.cohort != -1)).map fun row => (row.cohort, row.toDecision)).reverse

def maintenanceOpen (windows : String → Except Error Bool) :
    List RuntimeRow → Except Error Bool
  | [] => .ok true
  | row :: rest =>
    if row.row.state = .pending ∨ row.row.state = .blocked then do
      let blocked ← windows row.labels
      if blocked then .ok false else maintenanceOpen windows rest
    else maintenanceOpen windows rest

def maintenanceGate (plan : FrozenRollout) (rows : List RuntimeRow)
    (windows : String → Except Error Bool) : Except Error MaintenanceGate :=
  if plan.strategy.respectMaintenanceWindows then
    (maintenanceOpen windows rows).map fun isOpen => { isOpen }
  else .ok { isOpen := true }

def evaluateClaimed (env : Env) (claimed : RolloutRow) (owner : String) (rows : List RuntimeRow)
    (approvals : List ApprovalRow) (windows : String → Except Error Bool) (now : Time) :
    Except Error Decision := do
  let plan ← decodeFrozenPlan claimed
  let maintenance ← maintenanceGate plan rows windows
  evaluate env
    { now, snapshot := runtimeFromRows plan claimed rows
      lease := ⟨owner, claimed.fencingGeneration, claimed.leaseExpiresAt.getD 0⟩
      initialApproval := initialApproval approvals
      cohortApprovals := cohortApprovals approvals, maintenance }

/-! ## Applying a decision -/

structure Work where
  owner : String
  claimed : RolloutRow
  loaded : LoadedRuntime
  decision : Decision
  now : Time

def Work.rowFor (w : Work) (clusterID : UUID) : Option RuntimeRow :=
  w.loaded.rows.find? (·.row.clusterID == clusterID)

def appendRolloutEvent (db : DB) (w : Work) (clusterID : Option UUID)
    (eventType : RolloutEventType) (fromState toState reasonCode : String) (fence : Int) : DB :=
  db.createRolloutEvent
    { rolloutID := w.claimed.id, clusterID, eventType, fromState, toState, reasonCode, fence
      occurredAt := w.now }

variable (w : Work) (dbNow : Time)

def applyClusterTransition (db : DB) (t : ClusterTransition) : Except Error DB := do
  let row ← orError (w.rowFor t.clusterID)
    (fail .invariant "cluster_transition" "cluster is absent from runtime snapshot")
  let written ← orError
    (applyDeliveryRolloutClusterTransitionCAS db dbNow row.row.id t.fromState t.toState
      t.expectedFence t.code w.owner w.claimed.fencingGeneration)
    (fail .noRows "cluster_transition" "apply cluster transition")
  return appendRolloutEvent written.1 w (some t.clusterID) .clusterTransition t.fromState.text
    t.toState.text t.code written.2.fence

def plannedFor (plan : FrozenRollout) (row : RuntimeRow) (clusterID : UUID) :
    Except Error PlannedCluster := do
  require (decide (0 ≤ row.row.releaseOrder) &&
      decide (row.row.releaseOrder < plan.clusters.length))
    (fail .invariant "release_order" "stored release order is outside the frozen plan")
  let planned ← orError plan.clusters[row.row.releaseOrder.toNat]?
    (fail .invariant "release_order" "stored release order is outside the frozen plan")
  require (planned.clusterID == clusterID)
    (fail .invariant "release_order"
      "stored release order does not identify the released cluster")
  return planned

def applyRelease (plan : FrozenRollout) (newID : UUID → UUID) (db : DB) (release : Release) :
    Except Error DB := do
  let row ← orError (w.rowFor release.clusterID)
    (fail .invariant "release" "cluster is absent from runtime snapshot")
  let planned ← plannedFor plan row release.clusterID
  let deployed ← orError
    (upsertClusterDeploymentDesired db
      { targetID := plan.targetID, clusterID := release.clusterID, rolloutID := plan.id
        version := release.version
        previousBundleVersionID := planned.previous.map (·.version.bundleVersionID)
        generation := release.generation } (newID release.clusterID))
    (fail .noRows "deployment" "persist desired deployment")
  let released ← orError
    (releaseDeliveryRolloutClusterCAS deployed.1 dbNow row.row.id release.fromState
      release.toState release.action release.deadline release.expectedFence w.owner
      w.claimed.fencingGeneration)
    (fail .noRows "release" "release rollout cluster")
  return appendRolloutEvent released.1 w (some release.clusterID) .clusterReleased
    release.fromState.text release.toState.text release.action.text released.2.fence

def recountAfter (d : Decision) (db : DB) (id : UUID) : Except Error DB :=
  if d.clusterTransitions.isEmpty && d.releases.isEmpty then .ok db
  else orError (recomputeDeliveryRolloutCounters db id)
    (fail .noRows "counters" "recompute rollout counters")

def finishDecision (db : DB) : Except Error DB :=
  match w.decision.rolloutTransition with
  | some t => do
    let written ← orError
      (applyDeliveryRolloutTransitionCAS db dbNow w.claimed.id t.fromState t.toState w.owner
        t.expectedFence w.decision.id t.code)
      (fail .noRows "rollout_transition" "apply rollout transition")
    return appendRolloutEvent written.1 w none .rolloutTransition t.fromState.text
      t.toState.text t.code t.expectedFence
  | none => do
    let written ← orError
      (releaseDeliveryRolloutLease db w.claimed.id w.owner w.claimed.fencingGeneration
        w.decision.id)
      (fail .noRows "lease" "release rollout lease")
    return written.1

def applyDecision (newID : UUID → UUID) (db : DB) : Except Error DB := do
  let plan ← decodeFrozenPlan w.claimed
  let locked ← orError
    (getClaimedDeliveryRolloutForUpdate db dbNow w.claimed.id w.owner
      w.claimed.fencingGeneration w.loaded.generation)
    (fail .noRows "rollout" "fence rollout decision")
  require (locked.state == w.claimed.state && locked.planDigest == w.claimed.planDigest)
    (fail .staleFence "rollout" "state or plan changed after evaluation")
  let settled ← w.decision.clusterTransitions.foldlM (applyClusterTransition w dbNow) db
  let released ← w.decision.releases.foldlM (applyRelease w dbNow plan newID) settled
  let counted ← recountAfter w.decision released w.claimed.id
  finishDecision w dbNow counted

end Astronomer.Delivery
