import Astronomer.Delivery.Database

/-!
# Rollout queries

A `:one` query that finds no row is `none` (`pgx.ErrNoRows`).
-/

namespace Astronomer.Delivery

/-! ## Operator actions -/

variable (db : DB) (now : Time) (id : UUID)

def getDeliveryRolloutForAction (id projectID : UUID) : Option RolloutRow :=
  (db.rollout id).bind fun r =>
    if db.targets.any (fun t => t.id == r.targetID && t.projectID == projectID) then some r
    else none

def RolloutRow.transitioned (r : RolloutRow) (toState : RolloutState) (reasonCode : String)
    (now : Time) : RolloutRow :=
  { r with
    state := toState
    fencingGeneration := r.fencingGeneration + 1
    leaseOwner := "", leaseExpiresAt := none
    startedAt := if toState = .progressing then r.startedAt <|> some now else r.startedAt
    completedAt := match toState with
      | .aborted | .rejected | .rolledBack => some now
      | _ => none
    lastErrorCode := reasonCode }

def transitionDeliveryRolloutCAS (expectedFence : Int) (allowedStates : List RolloutState)
    (toState : RolloutState) (reasonCode : String) : Option (DB × RolloutRow) :=
  db.updateRollout id
    (fun r => r.fencingGeneration == expectedFence && allowedStates.contains r.state)
    (·.transitioned toState reasonCode now)

def retryable : RolloutClusterState → Bool
  | .failed | .timedOut | .blocked => true
  | _ => false

def RolloutClusterRow.reset (rc : RolloutClusterRow) : RolloutClusterRow :=
  { rc with
    state := .pending, assignmentAction := .apply, attempt := rc.attempt + 1
    fence := rc.fence + 1, releasedAt := none, acknowledgedAt := none
    readyAt := none, completedAt := none, lastErrorCode := "" }

def resetRetryableDeliveryRolloutClusters (rolloutID : UUID) : DB × Nat :=
  let p := fun (rc : RolloutClusterRow) => rc.rolloutID == rolloutID && retryable rc.state
  (db.updateClusterRows now p RolloutClusterRow.reset, db.rolloutClusters.countP p)

def createDeliveryRolloutApproval (row : ApprovalRow) : Option DB :=
  if -1 ≤ row.cohort ∧ row.decidedAt < row.expiresAt ∧
      db.approvals.all (fun a => a.id != row.id) then
    some { db with approvals := db.approvals ++ [row] }
  else none

/-! ## Claims -/

def claimable (r : RolloutRow) : Bool :=
  match r.state with
  | .resolving | .awaitingApproval | .queued | .progressing | .rollingBack => true
  | .failed => r.strategy.onFailure == .rollback
  | _ => false

def RolloutRow.leaseFree (r : RolloutRow) (now : Time) : Bool :=
  r.leaseExpiresAt.elim true fun t => decide (t ≤ now)

def claimDeliveryRollout (owner : String) (leaseDuration : Duration) (id : UUID) :
    Option (DB × RolloutRow) :=
  db.updateRollout id (fun r => claimable r && r.leaseFree now) fun r => { r with
    leaseOwner := owner, leaseExpiresAt := some (now + leaseDuration)
    fencingGeneration := r.fencingGeneration + 1 }

def RolloutRow.leasedBy (r : RolloutRow) (owner : String) (fence : Int) (now : Time) : Bool :=
  r.leaseOwner == owner && r.fencingGeneration == fence &&
    r.leaseExpiresAt.elim false fun t => decide (now < t)

def getClaimedDeliveryRolloutForUpdate (owner : String)
    (expectedFence expectedRuntimeGeneration : Int) : Option RolloutRow :=
  (db.rollout id).bind fun r =>
    if r.leasedBy owner expectedFence now && r.runtimeGeneration == expectedRuntimeGeneration then
      some r
    else none

/-! ## The runtime view -/

structure RuntimeRow where
  row : RolloutClusterRow
  labels : String
  runtimeGeneration : Int
  connected : Bool
  deploymentID : Option UUID
  (desiredGeneration observedGeneration : Option Int)
  deploymentPhase : Option DeploymentPhase
  deriving DecidableEq

def DB.isConnected (clusterID : UUID) : Bool :=
  db.connections.any fun c => c.clusterID == clusterID && c.connected && c.disconnectedAt.isNone

def runtimeRow (r : RolloutRow) (rc : RolloutClusterRow) : Option RuntimeRow :=
  (db.clusters.find? (·.id == rc.clusterID)).map fun c =>
    let d := db.deployment r.targetID rc.clusterID
    { row := rc, labels := c.labels, runtimeGeneration := r.runtimeGeneration
      connected := db.isConnected rc.clusterID
      deploymentID := d.map (·.id), desiredGeneration := d.map (·.desiredGeneration)
      observedGeneration := d.map (·.observedGeneration), deploymentPhase := d.map (·.phase) }

def runtimeOrder (a b : RuntimeRow) : Prop :=
  a.row.releaseOrder < b.row.releaseOrder ∨
    (a.row.releaseOrder = b.row.releaseOrder ∧ a.row.clusterID ≤ b.row.clusterID)
deriving Decidable

def listDeliveryRolloutRuntime (rolloutID : UUID) (limit : Nat) : List RuntimeRow :=
  match db.rollout rolloutID with
  | none => []
  | some r => (((db.clustersOf rolloutID).filterMap (runtimeRow db r)).insertionSort
      runtimeOrder).take limit

def approvalOrder (a b : ApprovalRow) : Prop :=
  a.cohort < b.cohort ∨ (a.cohort = b.cohort ∧
    (a.decidedAt < b.decidedAt ∨ (a.decidedAt = b.decidedAt ∧ a.id ≤ b.id)))
deriving Decidable

def listDeliveryRolloutApprovals (rolloutID : UUID) : List ApprovalRow :=
  (db.approvalsOf rolloutID).insertionSort approvalOrder

/-! ## Applying a decision -/

def DB.clusterLeased (rc : RolloutClusterRow) (owner : String) (fence : Int) (now : Time) : Bool :=
  (db.rollout rc.rolloutID).elim false fun r => r.leasedBy owner fence now

def DB.clusterCAS (fromState : RolloutClusterState) (expectedClusterFence : Int) (owner : String)
    (expectedRolloutFence : Int) (rc : RolloutClusterRow) : Bool :=
  rc.id == id && rc.state == fromState && rc.fence == expectedClusterFence &&
    db.clusterLeased rc owner expectedRolloutFence now

def RolloutClusterRow.settle (rc : RolloutClusterRow) (now : Time)
    (toState : RolloutClusterState) (lastErrorCode : String) : RolloutClusterRow :=
  { rc with
    state := toState, fence := rc.fence + 1
    readyAt := match toState with
      | .ready | .readyPrevious => rc.readyAt <|> some now
      | _ => rc.readyAt
    completedAt := match toState with
      | .ready | .failed | .skipped | .timedOut | .readyPrevious => some now
      | _ => rc.completedAt
    lastErrorCode }

def applyDeliveryRolloutClusterTransitionCAS (fromState toState : RolloutClusterState)
    (expectedClusterFence : Int) (lastErrorCode owner : String) (expectedRolloutFence : Int) :
    Option (DB × RolloutClusterRow) :=
  let p := db.clusterCAS now id fromState expectedClusterFence owner expectedRolloutFence
  (db.rolloutClusters.find? p).map fun rc =>
    (db.updateClusterRows now p (·.settle now toState lastErrorCode),
      rc.settle now toState lastErrorCode)

def RolloutClusterRow.release (rc : RolloutClusterRow) (now : Time)
    (toState : RolloutClusterState) (action : AssignmentAction) (deadline : Time) :
    RolloutClusterRow :=
  { rc with
    state := toState, assignmentAction := action, attempt := rc.attempt + 1
    fence := rc.fence + 1, deadline := some deadline
    releasedAt := rc.releasedAt <|> some now, lastErrorCode := "" }

def releaseDeliveryRolloutClusterCAS (fromState toState : RolloutClusterState)
    (action : AssignmentAction) (deadline : Time) (expectedClusterFence : Int) (owner : String)
    (expectedRolloutFence : Int) : Option (DB × RolloutClusterRow) :=
  let p := db.clusterCAS now id fromState expectedClusterFence owner expectedRolloutFence
  (db.rolloutClusters.find? p).map fun rc =>
    (db.updateClusterRows now p (·.release now toState action deadline),
      rc.release now toState action deadline)

def RolloutRow.decided (r : RolloutRow) (now : Time) (toState : RolloutState)
    (decisionDigest : Digest) (lastErrorCode : String) : RolloutRow :=
  { r with
    state := toState, lastDecisionDigest := decisionDigest
    leaseOwner := "", leaseExpiresAt := none
    startedAt := if toState = .progressing then r.startedAt <|> some now else r.startedAt
    completedAt := match toState with
      | .rejected | .aborted | .succeeded | .failed | .rolledBack | .rollbackFailed => some now
      | _ => r.completedAt
    lastErrorCode }

def applyDeliveryRolloutTransitionCAS (fromState toState : RolloutState) (owner : String)
    (expectedFence : Int) (decisionDigest : Digest) (lastErrorCode : String) :
    Option (DB × RolloutRow) :=
  db.updateRollout id (fun r => r.state == fromState && r.leasedBy owner expectedFence now)
    (·.decided now toState decisionDigest lastErrorCode)

def RolloutRow.unleased (r : RolloutRow) (decisionDigest : Digest) : RolloutRow :=
  { r with leaseOwner := "", leaseExpiresAt := none, lastDecisionDigest := decisionDigest }

def releaseDeliveryRolloutLease (owner : String) (expectedFence : Int) (decisionDigest : Digest) :
    Option (DB × RolloutRow) :=
  db.updateRollout id (fun r => r.leaseOwner == owner && r.fencingGeneration == expectedFence)
    (·.unleased decisionDigest)

def recomputeDeliveryRolloutCounters : Option DB :=
  let rows := db.clustersOf id
  let count := fun (states : List RolloutClusterState) =>
    rows.countP fun rc => states.contains rc.state
  if rows.isEmpty ∨ (db.rollout id).isNone then none
  else some <| db.updateRollouts (·.id == id) fun r => { r with
    totalClusters := rows.length
    readyClusters := count [.ready, .readyPrevious]
    failedClusters := count [.failed, .timedOut, .rollbackFailed]
    blockedClusters := count [.blocked]
    releasedClusters := rows.length - count [.pending, .blocked, .skipped] }

structure DesiredDeployment where
  (targetID clusterID rolloutID : UUID)
  version : VersionIdentity
  previousBundleVersionID : Option UUID
  generation : Int

def DesiredDeployment.names (d : DesiredDeployment) (row : DeploymentRow) : Bool :=
  row.targetID == d.targetID && row.clusterID == d.clusterID

def nullableDigest (d : Digest) : Option Digest := if d = "" then none else some d

def DesiredDeployment.toRow (d : DesiredDeployment) (id : UUID) : DeploymentRow :=
  { id, targetID := d.targetID, clusterID := d.clusterID
    currentRolloutID := some d.rolloutID
    desiredBundleVersionID := some d.version.bundleVersionID
    previousBundleVersionID := d.previousBundleVersionID
    desiredGeneration := d.generation, desiredSpecDigest := d.version.specDigest
    desiredOverrides := d.version.overrides, desiredRevision := d.version.source.revision
    desiredRendererSpec := d.version.renderer
    desiredConfigurationDigest := nullableDigest d.version.configurationDigest
    action := .apply, phase := .pending }

def DesiredDeployment.overwrite (d : DesiredDeployment) (old : DeploymentRow) : DeploymentRow :=
  { old with
    currentRolloutID := some d.rolloutID
    previousBundleVersionID := old.desiredBundleVersionID
    previousOverrides := old.desiredOverrides
    desiredBundleVersionID := some d.version.bundleVersionID
    desiredGeneration := d.generation, desiredSpecDigest := d.version.specDigest
    desiredOverrides := d.version.overrides, desiredRevision := d.version.source.revision
    desiredRendererSpec := d.version.renderer
    desiredConfigurationDigest := nullableDigest d.version.configurationDigest
    action := .apply, phase := .pending, lastErrorCode := "", lastMessage := "" }

def upsertClusterDeploymentDesired (db : DB) (d : DesiredDeployment) (id : UUID) :
    Option (DB × DeploymentRow) :=
  match db.deployment d.targetID d.clusterID with
  | none =>
    if db.deployments.all (fun row => row.id != id) then
      some (db.insertDeployment (d.toRow id), d.toRow id)
    else none
  | some old =>
    if old.desiredGeneration < d.generation then
      db.updateDeployment d.names d.overwrite
    else none

end Astronomer.Delivery
