import Mathlib.Data.List.Sort
import Astronomer.Base.Keyed
import Astronomer.Delivery.Types

/-!
# The tables of system rollouts and their queries

The queries of `delivery_system_rollout.sql` and `delivery_system.sql`, each under its name.
What the schema guarantees is part of the types: primary keys, the partial unique index that
allows one `released` release, the number check of a rollout.
-/

namespace Astronomer.Delivery.SystemRollout

/-! ## Errors -/

inductive ErrorKind where
  | notFound | conflict | precondition | invalidTransition | outboxUnavailable | constraint
  | plain

structure Error where
  kind : ErrorKind
  detail : String := ""

/-! ## Releases -/

inductive ReleaseState where
  | draft | released | retired | revoked
  deriving DecidableEq

/-- `delivery_system_releases`, without the artifact, credential and Kubernetes columns,
which only the agent reads. -/
structure ReleaseRow where
  id : UUID
  releaseSequence : Nat
  version : String
  (specDigest distributionDigest : Digest)
  agentVersion : String
  state : ReleaseState := .draft
  releasedAt : Option Time := none
  retiredAt : Option Time := none
  deriving DecidableEq

def OneReleased (rows : List ReleaseRow) : Prop :=
  ∀ a ∈ rows, ∀ b ∈ rows, a.state = .released → b.state = .released → a = b
deriving Decidable

structure Releases extends Keyed ReleaseRow.id where
  oneReleased : OneReleased rows

def Releases.checked (t : Keyed ReleaseRow.id) : Except Error Releases :=
  if h : OneReleased t.rows then .ok ⟨t, h⟩ else .error ⟨.constraint, "one released release"⟩

def retirePreviousSystemRolloutReleases (t : Releases) (id : UUID) (now : Time) :
    Except Error Releases :=
  Releases.checked (t.update (fun r => r.state == .released && r.id != id)
    (fun r => { r with state := .retired, retiredAt := some now }) fun _ => rfl)

def ReleaseRow.promoted (now : Time) (r : ReleaseRow) : ReleaseRow :=
  { r with state := .released, releasedAt := some (r.releasedAt.getD now), retiredAt := none }

@[simp] theorem ReleaseRow.promoted_id (now : Time) (r : ReleaseRow) :
    (r.promoted now).id = r.id := rfl

def promoteSystemRolloutRelease (t : Releases) (id : UUID) (now : Time) :
    Except Error (Releases × Nat) := do
  let draft := fun r : ReleaseRow => r.id == id && r.state == .draft
  let written ← Releases.checked (t.update draft (·.promoted now) (·.promoted_id now))
  return (written, t.count draft)

def Releases.current (t : Releases) : Option ReleaseRow :=
  t.rows.find? fun r => r.state == .released

/-! ## Rollouts -/

/-- The states of a rollout. The column's default `draft` is never stored: the one insert
names its state. -/
inductive RolloutState where
  | awaitingApproval | queued | progressing | paused | aborted | succeeded | failed
  | rollingBack | rolledBack | rollbackFailed
  deriving DecidableEq

def RolloutState.text : RolloutState → String
  | .awaitingApproval => "awaiting_approval" | .queued => "queued"
  | .progressing => "progressing" | .paused => "paused" | .aborted => "aborted"
  | .succeeded => "succeeded" | .failed => "failed" | .rollingBack => "rolling_back"
  | .rolledBack => "rolled_back" | .rollbackFailed => "rollback_failed"

def RolloutState.active : RolloutState → Bool
  | .awaitingApproval | .queued | .progressing | .paused | .rollingBack => true
  | _ => false

def RolloutState.terminal : RolloutState → Bool
  | .aborted | .succeeded | .failed | .rolledBack | .rollbackFailed => true
  | _ => false

/-- `delivery_system_rollouts`. `strategy` is the decoded column; the lease columns are
never set. -/
structure RolloutRow where
  (id releaseID : UUID)
  previousReleaseID : Option UUID
  strategy : RolloutStrategy
  strategyDigest : Digest
  state : RolloutState
  fencingGeneration : Int := 1
  totalClusters : Nat
  readyClusters : Nat := 0
  failedClusters : Nat := 0
  releasedClusters : Nat := 0
  idempotencyKey : String
  progressDeadline : Option Time
  startedAt : Option Time := none
  completedAt : Option Time := none
  lastErrorCode : String := ""
  initiatedBy : Option UUID := none
  numbersValid : readyClusters + failedClusters ≤ totalClusters ∧ releasedClusters ≤ totalClusters

/-! ## Assignments -/

inductive Phase where
  | pending | released | applying | ready | failed | rollingBack | rolledBack | rollbackFailed
  | aborted
  deriving DecidableEq

def Phase.text : Phase → String
  | .pending => "pending" | .released => "released" | .applying => "applying"
  | .ready => "ready" | .failed => "failed" | .rollingBack => "rolling_back"
  | .rolledBack => "rolled_back" | .rollbackFailed => "rollback_failed" | .aborted => "aborted"

structure AssignmentRow where
  (clusterID desiredReleaseID : UUID)
  previousReleaseID : Option UUID := none
  rolloutID : Option UUID := none
  generation : Nat := 1
  cohort : Nat := 0
  releaseOrder : Nat := 0
  phase : Phase := .pending
  fence : Nat := 1
  releasedAt : Option Time := none
  acknowledgedAt : Option Time := none
  readyAt : Option Time := none
  deadline : Option Time := none
  observedDistributionDigest : Digest := ""
  observedAgentVersion : String := ""
  lastErrorCode : String := ""
  lastObservedAt : Option Time := none

abbrev Assignments := Keyed AssignmentRow.clusterID

variable (a : AssignmentRow) (t : Assignments) (rolloutID : UUID)

def AssignmentRow.ensured (desired : UUID) (previous : Option UUID) (rolloutID : UUID)
    (cohort order : Nat) (deadline : Time) : AssignmentRow :=
  { a with desiredReleaseID := desired, previousReleaseID := previous
           rolloutID := some rolloutID, generation := a.generation + 1, cohort
           releaseOrder := order, phase := .pending, fence := a.fence + 1, releasedAt := none
           acknowledgedAt := none, readyAt := none, deadline := some deadline
           observedDistributionDigest := "", observedAgentVersion := "", lastErrorCode := "" }

@[simp] theorem AssignmentRow.ensured_clusterID (a : AssignmentRow) (desired : UUID)
    (previous : Option UUID) (rolloutID : UUID) (cohort order : Nat) (deadline : Time) :
    (a.ensured desired previous rolloutID cohort order deadline).clusterID = a.clusterID := rfl

def newAssignment (clusterID desired : UUID) (previous : Option UUID) (rolloutID : UUID)
    (cohort order : Nat) (deadline : Time) : AssignmentRow :=
  { clusterID, desiredReleaseID := desired, previousReleaseID := previous
    rolloutID := some rolloutID, cohort, releaseOrder := order, deadline := some deadline }

def ensureSystemRolloutAssignment (clusterID desired : UUID) (previous : Option UUID)
    (rolloutID : UUID) (cohort order : Nat) (deadline : Time) : Assignments :=
  t.upsert (newAssignment clusterID desired previous rolloutID cohort order deadline)
    (·.ensured desired previous rolloutID cohort order deadline)
    (·.ensured_clusterID desired previous rolloutID cohort order deadline)

def AssignmentRow.isOf : Bool :=
  a.rolloutID == some rolloutID

def AssignmentRow.retried : AssignmentRow :=
  { a with phase := .pending, lastErrorCode := "", releasedAt := none, acknowledgedAt := none
           readyAt := none, fence := a.fence + 1 }

@[simp] theorem AssignmentRow.retried_clusterID (a : AssignmentRow) :
    a.retried.clusterID = a.clusterID := rfl

def retrySystemRolloutAssignments : Assignments :=
  t.update (fun a => a.isOf rolloutID && a.phase == .failed) (·.retried)
    (·.retried_clusterID)

def AssignmentRow.aborted (a : AssignmentRow) : AssignmentRow :=
  { a with phase := .aborted, fence := a.fence + 1 }

@[simp] theorem AssignmentRow.aborted_clusterID (a : AssignmentRow) :
    a.aborted.clusterID = a.clusterID := rfl

def abortSystemRolloutPendingAssignments : Assignments :=
  t.update (fun a => a.isOf rolloutID && a.phase == .pending) (·.aborted)
    (·.aborted_clusterID)

/-- The `next_assignments` of `ReleaseSystemRolloutNextCohort`: the first `limit` pending rows
of the smallest pending cohort. -/
def nextAssignments (limit : Nat) : List UUID :=
  let pending := t.rows.filter fun a => a.isOf rolloutID && a.phase == .pending
  let next := pending.filter fun a => some a.cohort == (pending.map AssignmentRow.cohort).min?
  ((next.insertionSort fun a b =>
      a.releaseOrder < b.releaseOrder ∨
        a.releaseOrder = b.releaseOrder ∧ a.clusterID ≤ b.clusterID).take limit).map
    AssignmentRow.clusterID

def AssignmentRow.released (a : AssignmentRow) (now : Time) : AssignmentRow :=
  { a with phase := .released, releasedAt := some now, fence := a.fence + 1 }

@[simp] theorem AssignmentRow.released_clusterID (a : AssignmentRow) (now : Time) :
    (a.released now).clusterID = a.clusterID := rfl

def releaseSystemRolloutNextCohort (now : Time) (limit : Nat) : Assignments × Nat :=
  let next := nextAssignments t rolloutID limit
  (t.update (fun a => next.contains a.clusterID) (·.released now) (·.released_clusterID now),
    next.length)

def AssignmentRow.sentBack (desired previous : UUID) (now : Time) : AssignmentRow :=
  { a with desiredReleaseID := desired, previousReleaseID := some previous
           generation := a.generation + 1, phase := .rollingBack, fence := a.fence + 1
           releasedAt := some now, acknowledgedAt := none, readyAt := none
           observedDistributionDigest := "", observedAgentVersion := "", lastErrorCode := "" }

@[simp] theorem AssignmentRow.sentBack_clusterID (a : AssignmentRow) (desired previous : UUID)
    (now : Time) : (a.sentBack desired previous now).clusterID = a.clusterID := rfl

def beginSystemRolloutAssignmentRollback (rolloutID desired : UUID) (previous : UUID) (now : Time) :
    Assignments :=
  t.update (fun a => a.isOf rolloutID && a.phase != .pending && a.phase != .aborted)
    (·.sentBack desired previous now) (·.sentBack_clusterID desired previous now)

structure Counts where
  (ready failed released pending inFlight immatureReady rolledBack rollbackFailed : Nat)
  (rollbackTargets pendingCanary : Nat)
  maxReadyCohort : Int

def Phase.inFlight : Phase → Bool
  | .released | .applying => true
  | _ => false

def Phase.rollbackTarget : Phase → Bool
  | .rollingBack | .rolledBack | .rollbackFailed => true
  | _ => false

def AssignmentRow.readyAfter (t : Time) : Bool :=
  match a.readyAt with
  | some at' => decide (t < at')
  | none => false

def getSystemRolloutAssignmentCounts (dbNow : Time) (minReadyMs : Int) : Counts :=
  let count := fun q : AssignmentRow → Bool => t.count fun a => a.isOf rolloutID && q a
  { ready := count (·.phase == .ready)
    failed := count (·.phase == .failed)
    released := count (·.phase != .pending)
    pending := count (·.phase == .pending)
    inFlight := count (·.phase.inFlight)
    immatureReady := count fun a => a.phase == .ready && a.readyAfter (dbNow - minReadyMs * 1000000)
    rolledBack := count (·.phase == .rolledBack)
    rollbackFailed := count (·.phase == .rollbackFailed)
    rollbackTargets := count (·.phase.rollbackTarget)
    pendingCanary := count fun a => a.phase == .pending && a.cohort == 0
    maxReadyCohort :=
      match ((t.rows.filter fun a => a.isOf rolloutID && a.phase == .ready).map
          AssignmentRow.cohort).max? with
      | some cohort => cohort
      | none => -1 }

/-! ## The database -/

structure ClusterRow where
  id : UUID
  decommissioned : Bool := false
  isLocal : Bool := false
  registrationReady : Bool := true
  hasActiveToken : Bool := true

structure EventRow where
  rolloutID : Option UUID
  clusterID : Option UUID := none
  releaseID : UUID
  generation : Int
  (eventType fromPhase toPhase reasonCode : String)
  decisionDigest : Digest
  occurredAt : Time

structure DB where
  releases : Releases
  rollouts : Keyed RolloutRow.id
  assignments : Assignments
  clusters : Keyed ClusterRow.id
  events : List EventRow := []

namespace DB

variable (db : DB)

def countActiveSystemRollouts : Nat := db.rollouts.count (·.state.active)

def getCurrentSystemRolloutRelease : Option UUID := db.releases.current.map ReleaseRow.id

def listSystemRolloutEligibleClusters : List UUID :=
  ((db.clusters.rows.filter fun c =>
      !c.decommissioned && !c.isLocal && c.registrationReady && c.hasActiveToken).map
    ClusterRow.id).insertionSort (· ≤ ·)

def createSystemRollout (r : RolloutRow) : Except Error DB :=
  if h : db.rollouts.get r.id = none then
    .ok { db with rollouts := db.rollouts.insert r h }
  else .error ⟨.constraint, "rollout id"⟩

def appendEvent (e : EventRow) : DB := { db with events := db.events ++ [e] }

structure Counters where
  (ready failed released : Nat)

def writeRollout (r : RolloutRow) (c : Counters) (f : RolloutRow → RolloutRow)
    (hf : ∀ r, (f r).totalClusters = r.totalClusters) : Except Error DB :=
  if h : c.ready + c.failed ≤ r.totalClusters ∧ c.released ≤ r.totalClusters then
    let written : RolloutRow :=
      { f r with readyClusters := c.ready, failedClusters := c.failed
                 releasedClusters := c.released, numbersValid := by rw [hf]; exact h }
    .ok { db with rollouts := db.rollouts.set written }
  else .error ⟨.constraint, "rollout numbers"⟩

def finishSystemRollout (r : RolloutRow) (state : RolloutState) (c : Counters) (code : String)
    (now : Time) : Except Error DB :=
  db.writeRollout r c
    (fun r => { r with state, fencingGeneration := r.fencingGeneration + 1, lastErrorCode := code
                       completedAt := some now }) fun _ => rfl

def updateSystemRolloutCounters (r : RolloutRow) (state : RolloutState) (c : Counters)
    (code : String) (dbNow : Time) : Except Error DB :=
  db.writeRollout r c
    (fun r => { r with state, fencingGeneration := r.fencingGeneration + 1, lastErrorCode := code
                       startedAt := if state = .progressing ∨ state = .rollingBack
                         then some (r.startedAt.getD dbNow) else r.startedAt }) fun _ => rfl

def actSystemRollout (r : RolloutRow) (state : RolloutState) (code : String) (now : Time)
    (completed : Option Time) : DB :=
  let written : RolloutRow :=
    { r with state, fencingGeneration := r.fencingGeneration + 1, lastErrorCode := code
             startedAt := if state = .queued ∨ state = .progressing ∨ state = .rollingBack
               then some (r.startedAt.getD now) else r.startedAt
             completedAt := completed.or r.completedAt }
  { db with rollouts := db.rollouts.set written }

end DB

/-! ## What a cluster is served -/

def Phase.served : Phase → Bool
  | .released | .applying | .ready | .rollingBack | .rolledBack => true
  | _ => false

structure ServedRelease where
  release : ReleaseRow
  assignmentGeneration : Nat
  assignmentPhase : Phase

/-- `GetClusterDeliverySystemRelease`: the assignment, or the released release under its
sequence number. -/
def DB.getClusterDeliverySystemRelease (db : DB) (clusterID : UUID) : Option ServedRelease :=
  match (db.assignments.get clusterID).filter (·.phase.served) with
  | some a => (db.releases.get a.desiredReleaseID).map fun r => ⟨r, a.generation, a.phase⟩
  | none => db.releases.current.map fun r => ⟨r, r.releaseSequence, .released⟩

/-! ## What a cluster reports -/

inductive CompatibilityStatus where
  | compatible | incompatible | upgradeRequired | degraded
  deriving DecidableEq

structure Inventory where
  distributionDigest : Digest
  agentVersion : String
  observedAt : Time
  ready : Bool
  compatibility : CompatibilityStatus
  errorCode : String := ""

def Inventory.runs (o : Inventory) (r : ReleaseRow) : Bool :=
  o.ready && o.distributionDigest == r.distributionDigest && o.agentVersion == r.agentVersion

def observedPhase (o : Inventory) (r : ReleaseRow) (phase : Phase) : Phase :=
  if phase = .pending ∨ phase = .aborted then phase
  else if o.runs r ∧ (phase = .rollingBack ∨ phase = .rolledBack) then .rolledBack
  else if o.runs r then .ready
  else if o.compatibility = .incompatible ∧ (phase = .rollingBack ∨ phase = .rolledBack) then
    .rollbackFailed
  else if o.compatibility = .incompatible then .failed
  else if phase = .rolledBack then phase
  else .applying

def AssignmentRow.observe (o : Inventory) (r : ReleaseRow) : AssignmentRow :=
  { a with
    observedDistributionDigest := o.distributionDigest
    observedAgentVersion := o.agentVersion
    lastObservedAt := some o.observedAt
    acknowledgedAt := some (a.acknowledgedAt.getD o.observedAt)
    phase := observedPhase o r a.phase
    readyAt :=
      if a.phase = .pending ∨ a.phase = .aborted then a.readyAt
      else if o.runs r then some (a.readyAt.getD o.observedAt) else none
    lastErrorCode := if o.runs r then "" else o.errorCode }

def seededAssignment (clusterID : UUID) (r : ReleaseRow) (dbNow : Time) : AssignmentRow :=
  { clusterID, desiredReleaseID := r.id, generation := r.releaseSequence, phase := .released
    releasedAt := some dbNow }

/-- `ObserveDeliverySystemAssignment`, with the written row and its phase before. A row that
the statement seeds is not visible to its own `UPDATE`. -/
def observeDeliverySystemAssignment (db : DB) (clusterID : UUID) (o : Inventory) (dbNow : Time) :
    Except Error (DB × Option (AssignmentRow × Phase)) :=
  match h : db.assignments.get clusterID with
  | none =>
    match db.releases.current with
    | none => .ok (db, none)
    | some r =>
      .ok ({ db with assignments := db.assignments.insert (seededAssignment clusterID r dbNow) h },
        none)
  | some a =>
    match db.releases.get a.desiredReleaseID with
    | none => .ok (db, none)
    | some r =>
      -- delivery_system_assignment_digest_valid
      if o.distributionDigest = "" ∨ Digest.valid o.distributionDigest then
        .ok ({ db with assignments := db.assignments.set (a.observe o r) },
          some (a.observe o r, a.phase))
      else .error ⟨.constraint, "observed digest"⟩

end Astronomer.Delivery.SystemRollout
