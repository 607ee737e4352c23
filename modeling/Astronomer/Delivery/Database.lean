import Astronomer.Base.Table
import Astronomer.Delivery.Scheduler

/-!
# The delivery tables and their queries

The queries of `internal/db/queries/delivery.sql`, each under its name. The triggers of
migration 36 are part of the writes they fire on: an update of a rollout-cluster row bumps
its rollout's `runtime_generation`, a write of a deployment row those it names.
-/

namespace Astronomer.Delivery

/-! ## Rows -/

structure RolloutRow where
  (id targetID : UUID)
  targetGeneration : Int
  toBundleVersionID : UUID
  placementDigest : Digest
  strategy : RolloutStrategy
  (strategyDigest requestDigest planDigest : Digest)
  frozenPlan : FrozenRollout
  state : RolloutState
  fencingGeneration : Int := 1
  leaseOwner : String := ""
  leaseExpiresAt : Option Time := none
  lastDecisionDigest : Digest := ""
  idempotencyKey : String
  totalClusters : Nat := 0
  readyClusters : Nat := 0
  failedClusters : Nat := 0
  blockedClusters : Nat := 0
  releasedClusters : Nat := 0
  startedAt : Option Time := none
  completedAt : Option Time := none
  lastErrorCode : String := ""
  runtimeGeneration : Int := 1

structure RolloutClusterRow where
  (id rolloutID clusterID : UUID)
  cohort : Nat
  releaseOrder : Int
  previousBundleVersionID : Option UUID
  desiredBundleVersionID : UUID
  desiredSpecDigest : Digest
  state : RolloutClusterState := .pending
  assignmentAction : AssignmentAction := .apply
  attempt : Nat := 0
  fence : Int := 0
  releasedAt : Option Time := none
  acknowledgedAt : Option Time := none
  readyAt : Option Time := none
  completedAt : Option Time := none
  deadline : Option Time
  lastErrorCode : String := ""
  updatedAt : Time
  deriving DecidableEq

inductive Verdict where
  | approved | rejected
  deriving DecidableEq

def Verdict.text : Verdict → String
  | .approved => "approved"
  | .rejected => "rejected"

structure ApprovalRow where
  (id rolloutID : UUID)
  cohort : Int
  bindingDigest : Digest
  decision : Verdict
  decidedBy : Option UUID
  (decidedAt expiresAt : Time)

inductive DeploymentAction where
  | apply | suspend | delete

inductive ObservationState where
  | current | stale | unsynced | denied | absent | disconnected | unavailable

structure Observation where
  state : ObservationState
  observedAt : Option Time

/-- What a status report stores beside the phase: conditions, the Flux objects'
kinds and names, and the inventory as the text they are stored as, and the source
observation kept inside the inventory column. -/
structure ObservedDetail where
  conditions : String := "[]"
  sourceKind : String := ""
  sourceName : String := ""
  reconcilerKind : String := ""
  reconcilerName : String := ""
  inventory : String := ""
  observation : Option Observation := none

structure DeploymentRow where
  (id targetID clusterID : UUID)
  (currentRolloutID desiredBundleVersionID previousBundleVersionID : Option UUID)
  desiredGeneration : Int
  observedGeneration : Int := 0
  desiredSpecDigest : Digest
  observedSpecDigest : Digest := ""
  desiredOverrides : String
  previousOverrides : String := ""
  desiredRevision : String
  observedRevision : String := ""
  desiredRendererSpec : Option String
  desiredConfigurationDigest : Option Digest
  action : DeploymentAction
  phase : DeploymentPhase
  detail : ObservedDetail := {}
  agentSessionID : String := ""
  agentSequence : Int := 0
  lastErrorCode : String := ""
  lastMessage : String := ""
  lastObservedAt : Option Time := none

structure ConnectionRow where
  (id clusterID : UUID)
  sessionID : String
  connected : Bool
  disconnectedAt : Option Time

structure ClusterRow where
  id : UUID
  labels : String

structure TargetRow where
  (id projectID : UUID)

structure InventoryRow where
  clusterID : UUID
  payload : String
  statusDigest : Digest
  agentSessionID : String
  (agentSequence semanticSequence : Int)

structure ReceiptRow where
  clusterID : UUID
  desiredSnapshotGeneration : Int
  desiredSnapshotEtag : String
  acknowledgedSnapshotGeneration : Int
  (acknowledgedSnapshotEtag agentSessionID : String)
  agentSequence : Int
  lastProtocolErrorCode : String := ""
  acknowledgedAt : Option Time := none

inductive RolloutEventType where
  | clusterTransition | clusterReleased | rolloutTransition | action | approval | statusAdvance
  deriving DecidableEq

structure RolloutEventRow where
  rolloutID : UUID
  clusterID : Option UUID
  eventType : RolloutEventType
  (fromState toState reasonCode : String)
  fence : Int
  occurredAt : Time
  deriving DecidableEq

structure DB where
  targets : List TargetRow := []
  clusters : List ClusterRow := []
  connections : List ConnectionRow := []
  rollouts : List RolloutRow := []
  rolloutClusters : List RolloutClusterRow := []
  approvals : List ApprovalRow := []
  rolloutEvents : List RolloutEventRow := []
  deployments : List DeploymentRow := []
  inventories : List InventoryRow := []
  receipts : List ReceiptRow := []

/-! ## Reading one rollout -/

variable (db : DB)

def DB.rollout (id : UUID) : Option RolloutRow := db.rollouts.find? (·.id == id)

def DB.clustersOf (id : UUID) : List RolloutClusterRow :=
  db.rolloutClusters.filter (·.rolloutID == id)

def DB.approvalsOf (id : UUID) : List ApprovalRow :=
  db.approvals.filter (·.rolloutID == id)

def DB.deployment (targetID clusterID : UUID) : Option DeploymentRow :=
  db.deployments.find? fun d => d.targetID == targetID && d.clusterID == clusterID

/-! ## Writes with their triggers -/

def DB.updateRollouts (p : RolloutRow → Bool) (f : RolloutRow → RolloutRow) : DB :=
  { db with rollouts := updateWhere p f db.rollouts }

/-- `UPDATE delivery_rollouts SET f WHERE id = id AND cond RETURNING *`; the key names at
most one row. -/
def DB.updateRollout (id : UUID) (cond : RolloutRow → Bool) (f : RolloutRow → RolloutRow) :
    Option (DB × RolloutRow) :=
  (db.rollout id).bind fun r =>
    if cond r then some (db.updateRollouts (·.id == id) f, f r) else none

/-- `UPDATE delivery_rollout_clusters`, with `updated_at` and one bump of the
rollout's runtime generation for each row written. -/
def DB.updateClusterRows (now : Time) (p : RolloutClusterRow → Bool)
    (f : RolloutClusterRow → RolloutClusterRow) : DB :=
  { db with
    rolloutClusters := updateWhere p (fun r => { f r with updatedAt := now }) db.rolloutClusters
    rollouts := db.rollouts.map fun r =>
      { r with runtimeGeneration := r.runtimeGeneration +
                 (db.rolloutClusters.countP fun rc => p rc && rc.rolloutID == r.id : Nat) } }

/-- The rollouts the deployment trigger bumps: those named by the row before and
after the write, each standing in for the other when it is null. -/
def deploymentRollouts (old new : Option DeploymentRow) : List UUID :=
  let oldID := old.bind (·.currentRolloutID)
  let newID := new.bind (·.currentRolloutID)
  (newID <|> oldID).toList ++ (oldID <|> newID).toList

def DB.bumpForDeployment (old new : Option DeploymentRow) : DB :=
  db.updateRollouts (fun r => (deploymentRollouts old new).contains r.id)
    fun r => { r with runtimeGeneration := r.runtimeGeneration + 1 }

def DB.updateDeployment (p : DeploymentRow → Bool) (f : DeploymentRow → DeploymentRow) :
    Option (DB × DeploymentRow) :=
  (db.deployments.find? p).map fun old =>
    ({ db with deployments := updateWhere p f db.deployments }.bumpForDeployment
      (some old) (some (f old)), f old)

def DB.insertDeployment (row : DeploymentRow) : DB :=
  { db with deployments := db.deployments ++ [row] }.bumpForDeployment none (some row)

def bumpedByClusterChange : RolloutState → Bool
  | .resolving | .awaitingApproval | .queued | .progressing | .rollingBack => true
  | _ => false

def DB.bumpForCluster (clusterID : UUID) : DB :=
  db.updateRollouts
    (fun r => bumpedByClusterChange r.state &&
      db.rolloutClusters.any fun rc => rc.rolloutID == r.id && rc.clusterID == clusterID)
    fun r => { r with runtimeGeneration := r.runtimeGeneration + 1 }

def DB.createRolloutEvent (event : RolloutEventRow) : DB :=
  { db with rolloutEvents := db.rolloutEvents ++ [event] }

end Astronomer.Delivery
