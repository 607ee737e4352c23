import Astronomer.Delivery.State

/-!
# Plans, runtime snapshots and decisions

The data of `internal/delivery/rollout` and of what it freezes of `internal/delivery/model`.
Payloads that the code carries without reading are the text they are stored as.
-/

namespace Astronomer.Delivery

/-! ## Strategy and placement -/

inductive AmountType where
  | unset | count | percent
  deriving DecidableEq

structure Amount where
  type : AmountType
  value : Nat
  deriving DecidableEq

inductive StrategyType where
  | allAtOnce | rolling | canary | partitioned
  deriving DecidableEq

inductive FailureAction where
  | pause | abort | rollback
  deriving DecidableEq

inductive LabelOperator where
  | isIn | notIn | exists | doesNotExist
  deriving DecidableEq

structure LabelExpression where
  key : String
  operator : LabelOperator
  values : List String
  deriving DecidableEq

structure Placement where
  projectIDs : List UUID := []
  clusterIDs : List UUID := []
  clusterGroupIDs : List UUID := []
  matchLabels : List (String × String) := []
  matchExpressions : List LabelExpression := []
  excludeClusterIDs : List UUID := []
  allClusters : Bool := false
  deriving DecidableEq

structure CanarySpec where
  size : Amount
  clusterIDs : List UUID
  approvalAfterCanary : Bool
  soak : Duration
  deriving DecidableEq

structure Partition where
  name : String
  selector : Placement
  approvalRequired : Bool
  soak : Duration
  deriving DecidableEq

structure RolloutStrategy where
  type : StrategyType
  maxConcurrent : Nat
  maxUnavailable : Amount
  (minReady progressDeadline : Duration)
  failureThreshold : Amount
  onFailure : FailureAction
  respectMaintenanceWindows : Bool
  shuffleSeed : String := ""
  canary : Option CanarySpec := none
  partitions : List Partition := []
  deriving DecidableEq

/-! ## The frozen plan -/

structure ResolvedSourceSpec where
  (revision spec : String)
  deriving DecidableEq

structure VersionIdentity where
  bundleVersionID : UUID
  specDigest : Digest
  source : ResolvedSourceSpec
  overrides : String
  renderer : Option String
  configurationDigest : Digest
  deriving DecidableEq

structure PreviousDeployment where
  version : VersionIdentity
  generation : Int

structure ApprovalBinding where
  required : Bool
  digest : Digest

structure Cohort where
  index : Nat
  name : String
  clusterIDs : List UUID
  approvalRequired : Bool
  approvalDigest : Digest
  soakAfter : Duration

structure PlannedCluster where
  clusterID : UUID
  (cohort order : Nat)
  desired : Option VersionIdentity
  previous : Option PreviousDeployment

structure FrozenRollout where
  (id targetID projectID : UUID)
  targetGeneration : Nat
  desired : VersionIdentity
  placementDigest : Digest
  strategy : RolloutStrategy
  strategyDigest : Digest
  approval : ApprovalBinding
  (actor idempotencyKey : String)
  requestDigest : Digest
  (createdAt deadline : Time)
  cohorts : List Cohort
  clusters : List PlannedCluster
  planDigest : Digest

def FrozenRollout.desiredFor (plan : FrozenRollout) (planned : PlannedCluster) :
    VersionIdentity :=
  planned.desired.getD plan.desired

/-! ## Runtime and decisions -/

inductive AssignmentAction where
  | apply | rollback
  deriving DecidableEq

def AssignmentAction.text : AssignmentAction → String
  | .apply => "apply"
  | .rollback => "rollback"

structure ClusterRuntime where
  clusterID : UUID
  state : RolloutClusterState
  fence : Int
  (connected available : Bool)
  readySince : Option Time
  (stateChangedAt deadline : Time)
  currentGeneration : Int
  everReleased : Bool
  lastAction : AssignmentAction

structure RuntimeSnapshot where
  plan : FrozenRollout
  state : RolloutState
  fence : Int
  clusters : List ClusterRuntime

structure ApprovalDecision where
  id : UUID
  bindingDigest : Digest
  approved : Bool
  (decidedAt expiresAt : Time)

structure MaintenanceGate where
  isOpen : Bool
  overrideAuthorized : Bool := false
  overrideReason : String := ""

structure Lease where
  owner : String
  fence : Int
  expiresAt : Time

structure EvaluateInput where
  now : Time
  snapshot : RuntimeSnapshot
  lease : Lease
  initialApproval : Option ApprovalDecision
  cohortApprovals : List (Int × ApprovalDecision)
  maintenance : MaintenanceGate

inductive BlockReason where
  | none | approval | maintenance | soak | concurrency | unavailable | disconnected
  deriving DecidableEq

structure RolloutTransition where
  (fromState toState : RolloutState)
  expectedFence : Int
  code : String

structure ClusterTransition where
  clusterID : UUID
  (fromState toState : RolloutClusterState)
  expectedFence : Int
  code : String

structure Release where
  clusterID : UUID
  action : AssignmentAction
  version : VersionIdentity
  generation : Int
  deadline : Time
  expectedFence : Int
  idempotencyKey : Digest
  (fromState toState : RolloutClusterState)
  deriving DecidableEq

structure Decision where
  id : Digest := ""
  expectedRolloutFence : Int
  rolloutTransition : Option RolloutTransition := none
  clusterTransitions : List ClusterTransition := []
  releases : List Release := []
  counters : RolloutCounters := {}
  blocked : BlockReason := .none

/-! ## What the rollout code takes from the code around it -/

structure ApprovalSubject where
  (rolloutID targetID : UUID)
  targetGeneration : Nat
  placementDigest : Digest
  bundleVersionID : UUID
  (specDigest strategyDigest : Digest)
  actor : String
  cohort : Int
  clusterIDs : List UUID
  configurations : List (UUID × Digest)

structure ReleaseSubject where
  (rolloutID clusterID : UUID)
  action : AssignmentAction
  bundleVersionID : UUID
  specDigest : Digest

/-- `CanonicalDigest` at the types it is used at (it hashes a canonical JSON form
made by a library outside the repository), the label syntax of Kubernetes,
the checks of the payloads the rollout code only carries, and the size that
`pg_column_size` gives for a plan as a jsonb value. -/
structure Env where
  strategyDigest : RolloutStrategy → Digest
  approvalDigest : ApprovalSubject → Digest
  planDigest : FrozenRollout → Digest
  releaseDigest : ReleaseSubject → Digest
  decisionDigest : UUID → Decision → Digest
  (isQualifiedName isValidLabelValue : String → Bool)
  sourceValid : ResolvedSourceSpec → Bool
  (overridesValid rendererValid : String → Bool)
  columnSize : FrozenRollout → Nat

end Astronomer.Delivery
