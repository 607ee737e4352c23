import Mathlib.Data.List.Sort
import Astronomer.Delivery.Plan

/-!
# The rollout scheduler

`Evaluate` is pure: it reads a runtime snapshot, the approvals and the maintenance
gate, and returns a decision that a worker applies later. Early returns inside its
loops are kept as early results; a slice index that Go would panic on is an error.
-/

namespace Astronomer.Delivery

def maxInt64 : Int := 2 ^ 63 - 1

def maxLeaseOwnerLength : Nat := 253

def TransitionError.text (e : TransitionError) : String :=
  match e.code with
  | .staleFence =>
    s!"{e.machine} transition rejected: stale fence {e.expectedFence} (current {e.actualFence})"
  | .invalidTransition =>
    s!"{e.machine} transition \"{e.fromState}\" -> \"{e.toState}\" rejected: invalid_transition"

def ApprovalDecision.validFor (d : ApprovalDecision) (binding : Digest) (now : Time) : Bool :=
  d.id != 0 && d.bindingDigest == binding && d.decidedAt != 0 &&
    decide (d.decidedAt ≤ now) && decide (now < d.expiresAt)

def MaintenanceGate.allowsRelease (g : MaintenanceGate) : Bool :=
  g.isOpen || (g.overrideAuthorized && trimSpace g.overrideReason != "")

def Lease.validate (l : Lease) (now : Time) (fence : Int) : Except Error Unit := do
  require (l.owner != "" && decide (l.owner.utf8ByteSize ≤ maxLeaseOwnerLength) &&
      !hasUnsafeByte l.owner)
    (fail .leaseLost "lease.owner" "invalid lease owner")
  require (l.fence == fence) (fail .staleFence "lease.fence" "claim fence no longer matches")
  require (decide (now < l.expiresAt)) (fail .leaseLost "lease.expires_at" "lease has expired")

/-! ## Small predicates -/

def consumesConcurrency (cluster : ClusterRuntime) (minReady : Duration) (now : Time) : Bool :=
  match cluster.state with
  | .released | .acknowledged | .reconciling | .rollingBack => true
  | .ready => decide (now < cluster.readySince.getD 0 + minReady)
  | _ => false

def amountLimit (amount : Amount) (total : Nat) : Nat :=
  match amount.type with
  | .count => min amount.value total
  | _ => total * amount.value / 100

def failureBudgetExceeded (amount : Amount) (total failures : Nat) : Bool :=
  decide (amountLimit amount total < failures)

variable (env : Env) (input : EvaluateInput) (plan : FrozenRollout) (clusters : List ClusterRuntime)
  (now : Time)

def deadlineFor (cluster : ClusterRuntime) : Time :=
  if cluster.deadline ≠ 0 then cluster.deadline else plan.deadline

def isApplyActive : RolloutClusterState → Bool
  | .released | .acknowledged | .reconciling => true
  | _ => false

def canStartRollback : RolloutClusterState → Bool
  | .released | .acknowledged | .reconciling | .ready | .timedOut | .failed => true
  | _ => false

/-! ## Building a decision -/

def setRolloutTransition (d : Decision) (snapshot : RuntimeSnapshot) (desired : RolloutState)
    (code : String) : Except Error Decision :=
  if d.rolloutTransition.isSome then
    .error (fail .invariant "decision" "contains multiple rollout transitions")
  else match transitionRollout ⟨snapshot.state, snapshot.fence⟩ desired snapshot.fence with
    | .error e => .error (fail .invariant "rollout.transition" e.text)
    | .ok _ =>
      .ok { d with rolloutTransition := some ⟨snapshot.state, desired, snapshot.fence, code⟩ }

def addClusterTransition (d : Decision) (cluster : ClusterRuntime)
    (desired : RolloutClusterState) (code : String) : Except Error Decision :=
  match transitionRolloutCluster ⟨cluster.state, cluster.fence⟩ desired cluster.fence with
  | .error e => .error (fail .invariant "cluster.transition" e.text)
  | .ok _ =>
    .ok { d with clusterTransitions := d.clusterTransitions ++
            [⟨cluster.clusterID, cluster.state, desired, cluster.fence, code⟩] }

def newRelease (planned : PlannedCluster) (cluster : ClusterRuntime) (action : AssignmentAction)
    (version : VersionIdentity) (now : Time) : Except Error Release :=
  let desiredState : RolloutClusterState :=
    match action with | .apply => .released | .rollback => .rollingBack
  if cluster.currentGeneration = maxInt64 then
    .error (fail .invariant "generation" "cannot increment maximum generation")
  else match transitionRolloutCluster ⟨cluster.state, cluster.fence⟩ desiredState cluster.fence with
    | .error e => .error (fail .invariant "cluster.transition" e.text)
    | .ok _ =>
      .ok { clusterID := planned.clusterID, action, version
            deadline := match action with
              | .apply => plan.deadline
              | .rollback => now + plan.strategy.progressDeadline
            generation := cluster.currentGeneration + 1, expectedFence := cluster.fence
            idempotencyKey := env.releaseDigest
              ⟨plan.id, planned.clusterID, action, version.bundleVersionID, version.specDigest⟩
            fromState := cluster.state, toState := desiredState }

/-! ## The runtime in plan order -/

def checkRuntime (seen : List UUID) (cluster : ClusterRuntime) : Except Error (List UUID) := do
  require (cluster.clusterID != 0 && decide (0 ≤ cluster.fence) &&
      decide (0 ≤ cluster.currentGeneration))
    (fail .invariant "runtime.clusters"
      "contains invalid identity, state, fence, or generation")
  require (!seen.contains cluster.clusterID)
    (fail .invariant "runtime.clusters" "contains duplicate cluster")
  require (cluster.state != .ready || (cluster.readySince.getD 0 != 0))
    (fail .invariant "runtime.ready_since" "ready cluster requires a stable timestamp")
  return cluster.clusterID :: seen

def validateRuntime (input : List ClusterRuntime) : Except Error (List ClusterRuntime) := do
  require (input.length == plan.clusters.length)
    (fail .invariant "runtime.clusters" "does not match frozen membership count")
  let _ ← input.foldlM checkRuntime []
  plan.clusters.mapM fun planned =>
    orError (input.find? fun c => c.clusterID == planned.clusterID)
      (fail .invariant "runtime.clusters" "is missing frozen cluster")

def clusterAt (planned : PlannedCluster) : Except Error ClusterRuntime :=
  orError clusters[planned.order]? (fail .invariant "clusters" "index out of range")

/-! ## The active cohort -/

def cohortMember (index : Nat) (acc : Bool × Time) (planned : PlannedCluster) :
    Except Error (Bool × Time) :=
  if planned.cohort ≠ index then .ok acc
  else do
    let cluster ← clusterAt clusters planned
    match cluster.state with
    | .ready =>
      let matureAt := cluster.readySince.getD 0 + plan.strategy.minReady
      .ok (acc.1 && decide (matureAt ≤ now), max acc.2 matureAt)
    | .failed | .timedOut | .skipped =>
      if cluster.stateChangedAt = 0 then
        .error (fail .invariant "runtime.state_changed_at" "terminal cluster requires a timestamp")
      else .ok (acc.1, max acc.2 cluster.stateChangedAt)
    | _ => .ok (false, acc.2)

structure ActiveCohort where
  index : Nat
  previousCompletedAt : Time
  allComplete : Bool

def activeCohortFrom (plan : FrozenRollout) (clusters : List ClusterRuntime) (now : Time) :
    List Cohort → Time → Except Error ActiveCohort
  | [], previous => .ok ⟨plan.cohorts.length, previous, true⟩
  | cohort :: rest, previous => do
    let progress ← plan.clusters.foldlM (cohortMember plan clusters now cohort.index)
      (true, plan.createdAt)
    if progress.1 then activeCohortFrom plan clusters now rest progress.2
    else .ok ⟨cohort.index, previous, false⟩

def activeCohort : Except Error ActiveCohort :=
  activeCohortFrom plan clusters now plan.cohorts plan.createdAt

/-! ## Forward progress -/

def settleCluster (d : Decision) (cluster : ClusterRuntime) : Except Error Decision :=
  if cluster.state = .pending ∧ cluster.connected = false then
    addClusterTransition d cluster .blocked "cluster_disconnected"
  else if cluster.state = .blocked ∧ cluster.connected = true then
    addClusterTransition d cluster .pending "cluster_reconnected"
  else if isApplyActive cluster.state = true ∧ deadlineFor plan cluster ≤ now then
    addClusterTransition d cluster .timedOut "progress_deadline_exceeded"
  else .ok d

structure Slots where
  decision : Decision
  (concurrency availability : Int)
  availabilityBlocked : Bool := false

/-- One cluster of the release loop. Once the concurrency slots are used up the
source breaks; here the remaining clusters are passed over. -/
def releaseCluster (cohortIndex : Nat) (s : Slots) (planned : PlannedCluster) :
    Except Error Slots :=
  if s.concurrency = 0 then .ok s
  else if planned.cohort ≠ cohortIndex then .ok s
  else do
    let cluster ← clusterAt clusters planned
    if cluster.state ≠ .pending ∨ cluster.connected = false then .ok s
    else if cluster.available = true ∧ s.availability ≤ 0 then
      .ok { s with availabilityBlocked := true }
    else do
      let plan := input.snapshot.plan
      let release ← newRelease env plan planned cluster .apply (plan.desiredFor planned) input.now
      .ok { s with
        decision := { s.decision with releases := s.decision.releases ++ [release] }
        concurrency := s.concurrency - 1
        availability := if cluster.available then s.availability - 1 else s.availability }

def cohortBlock (cohortIndex : Nat) (s : Slots) : BlockReason :=
  if s.availabilityBlocked then .unavailable
  else if plan.clusters.any (fun planned =>
      match clusters[planned.order]? with
      | some cluster => planned.cohort == cohortIndex &&
          (cluster.state == .blocked || !cluster.connected)
      | none => false) then .disconnected
  else s.decision.blocked

def atRisk (cluster : ClusterRuntime) : Bool :=
  consumesConcurrency cluster plan.strategy.minReady now || !cluster.available

def releaseCohort (cohortIndex : Nat) (d : Decision) : Except Error Decision :=
  let plan := input.snapshot.plan
  let reserved := clusters.countP fun c =>
    consumesConcurrency c plan.strategy.minReady input.now
  let slots : Int := plan.strategy.maxConcurrent - reserved
  if slots ≤ 0 then .ok { d with blocked := .concurrency }
  else do
    let available : Int := amountLimit plan.strategy.maxUnavailable clusters.length -
      clusters.countP (atRisk plan input.now)
    let s ← plan.clusters.foldlM (releaseCluster env input clusters cohortIndex)
      { decision := d, concurrency := slots, availability := available }
    if s.decision.releases.isEmpty && s.decision.blocked == .none then
      .ok { s.decision with blocked := cohortBlock plan clusters cohortIndex s }
    else .ok s.decision

def gateCohort (active : ActiveCohort) (d : Decision) : Except Error Decision := do
  let plan := input.snapshot.plan
  let cohort ← orError plan.cohorts[active.index]?
    (fail .invariant "cohorts" "index out of range")
  let previousSoak := (plan.cohorts[active.index - 1]?).elim 0 (·.soakAfter)
  let approval := (input.cohortApprovals.find? fun e => e.1 == (cohort.index : Int)).map Prod.snd
  let approved := approval.elim false fun a => a.validFor cohort.approvalDigest input.now
  if 0 < active.index ∧ input.now < active.previousCompletedAt + previousSoak then
    .ok { d with blocked := .soak }
  else if cohort.approvalRequired = true ∧ approved = false then
    .ok { d with blocked := .approval }
  else if cohort.approvalRequired = true ∧ approval.elim false (·.approved) = false then
    setRolloutTransition d input.snapshot .paused "cohort_approval_rejected"
  else if plan.strategy.respectMaintenanceWindows = true ∧
      input.maintenance.allowsRelease = false then
    .ok { d with blocked := .maintenance }
  else releaseCohort env input clusters active.index d

def progressRollout (d : Decision) : Except Error Decision :=
  let plan := input.snapshot.plan
  let failed := d.counters.failed
  if plan.deadline ≤ input.now then
    setRolloutTransition d input.snapshot .failed "rollout_deadline_exceeded"
  else if failureBudgetExceeded plan.strategy.failureThreshold clusters.length failed then
    match plan.strategy.onFailure with
    | .pause => setRolloutTransition d input.snapshot .paused "failure_budget_exceeded"
    | .abort | .rollback => setRolloutTransition d input.snapshot .failed "failure_budget_exceeded"
  else do
    let active ← activeCohort plan clusters input.now
    if active.allComplete then
      if failed ≠ 0 then
        setRolloutTransition d input.snapshot .failed "rollout_completed_with_failures"
      else setRolloutTransition d input.snapshot .succeeded "rollout_completed"
    else gateCohort env input clusters active d

def evaluateProgressing (d : Decision) : Except Error Decision := do
  let settled ← clusters.foldlM (settleCluster input.snapshot.plan input.now) d
  if settled.clusterTransitions.isEmpty then progressRollout env input clusters settled
  else .ok settled

/-! ## Rollback -/

structure RollbackTally where
  targets : Nat := 0
  complete : Nat := 0
  reserved : Nat := 0
  atRisk : Nat := 0

inductive RollbackScan where
  | tally (t : RollbackTally)
  | failed (code : String)

def rollbackScan (plan : FrozenRollout) (clusters : List ClusterRuntime) (now : Time) :
    List PlannedCluster → RollbackTally → Except Error RollbackScan
  | [], t => .ok (.tally t)
  | planned :: rest, t => do
    let cluster ← clusterAt clusters planned
    let rolling := cluster.state == .rollingBack
    let counted := { t with targets := t.targets + 1 }
    let inFlight :=
      { counted with
        reserved := if rolling then t.reserved + 1 else t.reserved
        atRisk := if rolling || !cluster.available then t.atRisk + 1 else t.atRisk }
    if cluster.everReleased = false then rollbackScan plan clusters now rest t
    else if planned.previous.isNone then .ok (.failed "previous_version_unavailable")
    else if cluster.state = .readyPrevious then
      rollbackScan plan clusters now rest { counted with complete := t.complete + 1 }
    else if (cluster.state = .failed ∨ cluster.state = .timedOut) ∧
        cluster.lastAction = .rollback then .ok (.failed "rollback_cluster_failed")
    else if rolling = true ∧ deadlineFor plan cluster ≤ now then
      .ok (.failed "rollback_deadline_exceeded")
    else rollbackScan plan clusters now rest inFlight

/-- The state of the second loop of `evaluateRollback`; `missing` stops it when a
target has no version to go back to. -/
structure RollbackSlots where
  decision : Decision
  slots : Int
  atRisk : Nat
  missing : Bool := false

def rollbackCluster (maxUnavailable : Nat) (s : RollbackSlots) (planned : PlannedCluster) :
    Except Error RollbackSlots :=
  if s.slots = 0 ∨ s.missing = true then .ok s
  else do
    let cluster ← clusterAt clusters planned
    if cluster.everReleased = false ∨ cluster.state = .readyPrevious ∨
        cluster.state = .rollingBack then .ok s
    else if cluster.connected = false then
      .ok { s with decision := { s.decision with blocked := .disconnected } }
    else if cluster.available = true ∧ maxUnavailable ≤ s.atRisk then
      .ok { s with decision := { s.decision with blocked := .unavailable } }
    else match planned.previous with
      | none => .ok { s with missing := true }
      | some previous => do
        require (canStartRollback cluster.state)
          (fail .invariant "cluster.state"
            s!"cannot roll back cluster {cluster.clusterID} from {cluster.state.text}")
        let release ← newRelease env input.snapshot.plan planned cluster .rollback
          previous.version input.now
        .ok { s with
          decision := { s.decision with releases := s.decision.releases ++ [release] }
          slots := s.slots - 1
          atRisk := if cluster.available then s.atRisk + 1 else s.atRisk }

/-- The order of the second loop: unavailable clusters first, each group in plan
order, which is what `sort.SliceStable` makes of that comparison. -/
def rollbackOrder : List PlannedCluster :=
  let available := fun (planned : PlannedCluster) =>
    (clusters[planned.order]?).elim false (·.available)
  plan.clusters.filter (fun p => !available p) ++ plan.clusters.filter available

def evaluateRollback (d : Decision) : Except Error Decision := do
  let plan := input.snapshot.plan
  let scan ← rollbackScan plan clusters input.now plan.clusters {}
  match scan with
  | .failed code => setRolloutTransition d input.snapshot .rollbackFailed code
  | .tally t =>
    if t.targets = 0 ∨ t.complete = t.targets then
      setRolloutTransition d input.snapshot .rolledBack "rollback_completed"
    else if (plan.strategy.maxConcurrent : Int) - t.reserved ≤ 0 then
      .ok { d with blocked := .concurrency }
    else do
      let s ← (rollbackOrder plan clusters).foldlM
        (rollbackCluster env input clusters
          (amountLimit plan.strategy.maxUnavailable clusters.length))
        { decision := d, slots := plan.strategy.maxConcurrent - t.reserved, atRisk := t.atRisk }
      if s.missing then
        setRolloutTransition s.decision input.snapshot .rollbackFailed
          "previous_version_unavailable"
      else .ok s.decision

/-! ## Evaluate -/

def evaluateState (d : Decision) : Except Error Decision :=
  let plan := input.snapshot.plan
  match input.snapshot.state with
  | .resolving =>
    if plan.approval.required then
      setRolloutTransition d input.snapshot .awaitingApproval "approval_requested"
    else setRolloutTransition d input.snapshot .queued "plan_resolved"
  | .awaitingApproval =>
    match input.initialApproval with
    | none => .ok { d with blocked := .approval }
    | some approval =>
      if approval.validFor plan.approval.digest input.now = false then
        .ok { d with blocked := .approval }
      else if approval.approved then
        setRolloutTransition d input.snapshot .queued "approval_granted"
      else setRolloutTransition d input.snapshot .rejected "approval_rejected"
  | .queued =>
    if plan.strategy.respectMaintenanceWindows = true ∧
        input.maintenance.allowsRelease = false then
      .ok { d with blocked := .maintenance }
    else setRolloutTransition d input.snapshot .progressing "rollout_started"
  | .progressing => evaluateProgressing env input clusters d
  | .failed =>
    match plan.strategy.onFailure with
    | .rollback => setRolloutTransition d input.snapshot .rollingBack "automatic_rollback_started"
    | .pause | .abort => .ok d
  | .rollingBack => evaluateRollback env input clusters d
  | .draft => .error (fail .invariant "rollout.state" "draft rollout is not schedulable")
  | .paused | .rejected | .aborted | .succeeded | .rolledBack | .rollbackFailed => .ok d

def Decision.sorted (d : Decision) : Decision :=
  { d with
    clusterTransitions := d.clusterTransitions.insertionSort fun a b => a.clusterID ≤ b.clusterID
    releases := d.releases.insertionSort fun a b => a.clusterID ≤ b.clusterID }

/-- `Evaluate`. `decisionDigest` sorts a copy whose slices share their arrays with the
decision, so the decision comes back sorted too. -/
def evaluate : Except Error Decision := do
  require (input.now != 0) (fail .invalidInput "now" "must not be zero")
  input.snapshot.plan.validate env
  require (decide (0 ≤ input.snapshot.fence))
    (fail .invariant "rollout_runtime" "state and fence must be valid")
  input.lease.validate input.now input.snapshot.fence
  let clusters ← validateRuntime input.snapshot.plan input.snapshot.clusters
  let d ← evaluateState env input clusters
    { expectedRolloutFence := input.snapshot.fence
      counters := deriveRolloutCounters (clusters.map ClusterRuntime.state) }
  return { d.sorted with
    id := env.decisionDigest input.snapshot.plan.id { d.sorted with id := "" } }

end Astronomer.Delivery
