import Astronomer.Delivery.Cohorts
import Astronomer.Delivery.SystemRollout.Database

/-!
# The system rollout service

`internal/delivery/systemrollout`. Every call is one serializable transaction under a global
advisory lock, so it is a function from the database it finds to the database it commits, or
an error. Where Go's `ReconcileOne` returns early, the stages here end in `Flow.finished`.
-/

namespace Astronomer.Delivery.SystemRollout

structure Env extends Delivery.Env where
  actionDigest : String → UUID → String → Int → Digest
  observationDigest : AssignmentRow → Phase → Time → Digest

def maxInt32 : Nat := 2147483647

def maxIdempotencyKeyLength : Nat := 128

/-! ## Budgets -/

def systemUnavailableBudget (amount : Amount) (fleet : Nat) : Nat :=
  let limit :=
    match amount.type with
    | .count => min amount.value fleet
    | .percent => fleet * amount.value / 100
    | .unset => fleet
  max limit 1

def systemReleaseSlots (strategy : RolloutStrategy) (total : Nat) (current : Counts) : Nat :=
  if total = 0 then 0
  else
    let reserved : Int := current.inFlight + current.immatureReady
    let concurrency : Int := min strategy.maxConcurrent total - reserved
    let availabilityLimit : Int := systemUnavailableBudget strategy.maxUnavailable total
    let slots := min concurrency (availabilityLimit - reserved - current.failed)
    if slots ≤ 0 then 0 else if maxInt32 < slots then total else slots.toNat

def failureExceeded (amount : Amount) (total failed : Nat) : Bool :=
  failed != 0 &&
    match amount.type with
    | .count => decide (amount.value ≤ failed)
    | .percent => decide (total * amount.value ≤ failed * 100)
    | .unset => true

def rollbackComplete (current : Counts) : Bool :=
  current.rollbackFailed == 0 && decide (0 < current.rollbackTargets) &&
    current.rolledBack == current.rollbackTargets

/-! ## Views -/

structure View where
  (id releaseID : UUID)
  previousReleaseID : Option UUID
  strategy : RolloutStrategy
  strategyDigest : Digest
  state : RolloutState
  fencingGeneration : Int
  (totalClusters readyClusters failedClusters releasedClusters : Nat)
  progressDeadline : Option Time
  lastErrorCode : String

def viewFromRecord (r : RolloutRow) : View :=
  { id := r.id, releaseID := r.releaseID, previousReleaseID := r.previousReleaseID
    strategy := r.strategy, strategyDigest := r.strategyDigest, state := r.state
    fencingGeneration := r.fencingGeneration, totalClusters := r.totalClusters
    readyClusters := r.readyClusters, failedClusters := r.failedClusters
    releasedClusters := r.releasedClusters, progressDeadline := r.progressDeadline
    lastErrorCode := r.lastErrorCode }

def View.counters (v : View) : DB.Counters :=
  ⟨v.readyClusters, v.failedClusters, v.releasedClusters⟩

def appendEvent (db : DB) (v : View) (generation : Int)
    (eventType fromPhase toPhase reason : String)
    (digest : Digest) (now : Time) : DB :=
  db.appendEvent
    { rolloutID := some v.id, releaseID := v.releaseID, generation, eventType, fromPhase, toPhase
      reasonCode := reason, decisionDigest := digest, occurredAt := now }

def beginRollback (db : DB) (current : View) (reason : String) (now : Time) : Except Error DB := do
  let previous ← orError current.previousReleaseID
    ⟨.precondition, "previous release is unavailable"⟩
  let db := { db with assignments := beginSystemRolloutAssignmentRollback db.assignments current.id
                        previous current.releaseID now }
  return appendEvent db current (current.fencingGeneration + 1) "rollback_started"
    current.state.text "rolling_back" reason current.strategyDigest now

/-! ## Start -/

structure StartRequest where
  releaseID : UUID
  strategy : RolloutStrategy
  idempotencyKey : String
  actorID : UUID := 0
  auditIsZero : Bool := false

def canonicalStrategy (strategy : RolloutStrategy) : RolloutStrategy :=
  { strategy with canary := strategy.canary.map fun c =>
      { c with clusterIDs := c.clusterIDs.insertionSort (· ≤ ·) } }

def codeText : Delivery.ErrorCode → String
  | .invalidInput => "invalid_input" | .idempotencyConflict => "idempotency_conflict"
  | .previewStale => "preview_stale" | .targetChanged => "target_changed"
  | .noClusters => "no_clusters" | .invalidCohorts => "invalid_cohorts"
  | .leaseLost => "lease_lost" | .staleFence => "stale_fence"
  | .invariant => "invariant_violation"
  | .auditUnavailable | .noRows | .validation => ""

def errorText (e : Delivery.Error) : String :=
  if e.field = "" then "rollout " ++ codeText e.code ++ ": " ++ e.message
  else "rollout " ++ codeText e.code ++ " (" ++ e.field ++ "): " ++ e.message

def newRollout (env : Env) (rolloutID : UUID) (request : StartRequest) (key : String)
    (previous : UUID) (total : Nat) (deadline : Time) : RolloutRow :=
  { id := rolloutID, releaseID := request.releaseID, previousReleaseID := some previous
    strategy := canonicalStrategy request.strategy
    strategyDigest := env.strategyDigest request.strategy
    state := .awaitingApproval, totalClusters := total, idempotencyKey := key
    progressDeadline := some deadline
    initiatedBy := if request.actorID = 0 then none else some request.actorID
    numbersValid := ⟨Nat.zero_le _, Nat.zero_le _⟩ }

def ensureAll (t : Assignments) (releaseID previous rolloutID : UUID) (deadline : Time)
    (planned : List PlannedCluster) : Assignments :=
  planned.foldl (fun t item => ensureSystemRolloutAssignment t item.clusterID releaseID
    (some previous) rolloutID item.cohort item.order deadline) t

def createRollout (env : Env) (clock : Clock) (rolloutID : UUID) (request : StartRequest)
    (key : String) (db : DB) : Except Error DB := do
  let release ← orError (db.releases.get request.releaseID) ⟨.notFound, "release does not exist"⟩
  require (release.state == .draft) ⟨.precondition, "system release must be draft"⟩
  require (db.countActiveSystemRollouts == 0) ⟨.conflict, "another system rollout is active"⟩
  let previous ← orError db.getCurrentSystemRolloutRelease
    ⟨.precondition, "no current system release exists"⟩
  let candidates : List Candidate := db.listSystemRolloutEligibleClusters.map fun id => { id }
  require (!candidates.isEmpty) ⟨.precondition, "no enrolled managed clusters are eligible"⟩
  let (_, planned) ← (buildCohorts env.toEnv request.strategy candidates).mapError fun e =>
    ⟨.precondition, "build system cohorts: " ++ errorText e⟩
  let deadline := clock.now + request.strategy.progressDeadline
  require (decide (planned.length ≤ maxInt32))
    ⟨.precondition, "managed cluster count exceeds supported range"⟩
  let row := newRollout env rolloutID request key previous planned.length deadline
  let db ← db.createSystemRollout row
  require (planned.all fun item => decide (item.cohort ≤ maxInt32) &&
    decide (item.order ≤ maxInt32))
    ⟨.precondition, "cohort index exceeds supported range"⟩
  let db := { db with assignments := ensureAll db.assignments request.releaseID previous rolloutID
                        deadline planned }
  return appendEvent db (viewFromRecord row) 1 "rollout_created" "" "awaiting_approval"
    "approval_required" row.strategyDigest clock.now

def start (env : Env) (clock : Clock) (rolloutID : UUID) (request : StartRequest) (db : DB) :
    Except Error DB := do
  require (!request.auditIsZero) ⟨.outboxUnavailable, ""⟩
  require (request.releaseID != 0) ⟨.precondition, "release_id is required"⟩
  let violations := request.strategy.validate env.toEnv
  require violations.isEmpty ⟨.precondition, "invalid strategy: " ++ violationsText violations⟩
  require (request.strategy.type != .partitioned)
    ⟨.precondition, "system rollouts do not accept user-defined partitions"⟩
  let key := trimSpace request.idempotencyKey
  require (key != "" && decide (key.utf8ByteSize ≤ maxIdempotencyKeyLength) && !hasUnsafeByte key)
    ⟨.precondition, "invalid idempotency key"⟩
  match db.rollouts.rows.find? fun r => r.idempotencyKey == key with
  | some existing =>
    require (existing.releaseID == request.releaseID)
      ⟨.conflict, "idempotency key belongs to another release"⟩
    return db
  | none => createRollout env clock rolloutID request key db

/-! ## Act -/

inductive Action where
  | approve | pause | resume | abort | retry | rollback
  | other (name : String)
  deriving DecidableEq

def Action.text : Action → String
  | .approve => "approve" | .pause => "pause" | .resume => "resume" | .abort => "abort"
  | .retry => "retry" | .rollback => "rollback" | .other name => name

def actionTransition (state : RolloutState) (action : Action) (hasPrevious : Bool) :
    Except Error (RolloutState × String) :=
  let invalid : Except Error (RolloutState × String) :=
    .error ⟨.invalidTransition, action.text ++ " from " ++ state.text⟩
  match action with
  | .approve => if state = .awaitingApproval then .ok (.queued, "") else invalid
  | .pause =>
    if state = .queued ∨ state = .progressing then .ok (.paused, "operator_paused") else invalid
  | .resume => if state = .paused then .ok (.queued, "") else invalid
  | .abort =>
    if state = .awaitingApproval ∨ state = .queued ∨ state = .progressing ∨ state = .paused then
      .ok (.aborted, "operator_aborted")
    else invalid
  | .retry => if state = .failed ∨ state = .rollbackFailed then .ok (.queued, "") else invalid
  | .rollback =>
    if !hasPrevious then .error ⟨.precondition, "no previous signed release"⟩
    else if state = .progressing ∨ state = .paused ∨ state = .failed ∨ state = .succeeded then
      .ok (.rollingBack, "manual_rollback")
    else invalid
  | .other _ => .error ⟨.precondition, "unsupported action"⟩

structure ActRequest where
  id : UUID
  expectedFence : Int
  action : Action
  actor : UUID := 0
  reason : String := ""
  auditIsZero : Bool := false

def actOnAssignments (now : Time) (action : Action) (current : View) (db : DB) : Except Error DB :=
  match action with
  | .rollback => beginRollback db current "manual_rollback" now
  | .retry => .ok { db with assignments := retrySystemRolloutAssignments db.assignments current.id }
  | .abort =>
    .ok { db with assignments := abortSystemRolloutPendingAssignments db.assignments current.id }
  | _ => .ok db

def act (env : Env) (clock : Clock) (request : ActRequest) (db : DB) : Except Error DB := do
  require (!request.auditIsZero) ⟨.outboxUnavailable, ""⟩
  require (request.id != 0 && decide (1 ≤ request.expectedFence)) ⟨.precondition, ""⟩
  require (decide (request.reason.utf8ByteSize ≤ 96) && !hasUnsafeByte request.reason)
    ⟨.precondition, "invalid reason code"⟩
  let row ← orError (db.rollouts.get request.id) ⟨.notFound, ""⟩
  require (row.fencingGeneration == request.expectedFence) ⟨.conflict, ""⟩
  let (next, errorCode) ←
    actionTransition row.state request.action row.previousReleaseID.isSome
  let db ← actOnAssignments clock.now request.action (viewFromRecord row) db
  let completed := if next = .aborted then some clock.now else none
  let db := db.actSystemRollout row next errorCode clock.now completed
  let generation := row.fencingGeneration + 1
  return appendEvent db (viewFromRecord row) generation ("rollout_" ++ request.action.text)
    row.state.text next.text request.reason
    (env.actionDigest request.action.text request.actor request.reason generation) clock.now

/-! ## ReconcileOne -/

/-- The local variables of `ReconcileOne`: the transaction's database, the row it read, and
`current` and `counts`, which the stages update. -/
structure Pass where
  db : DB
  row : RolloutRow
  current : View
  counts : Counts

inductive Flow where
  | finished (db : DB)
  | next (p : Pass)

def finish (now : Time) (p : Pass) (state : RolloutState) (code : String) : Except Error DB := do
  let db ← p.db.finishSystemRollout p.row state p.current.counters code now
  return appendEvent db p.current (p.current.fencingGeneration + 1) ("rollout_" ++ state.text)
    p.current.state.text state.text code p.current.strategyDigest now

def updateCountersAndCommit (dbNow : Time) (p : Pass) : Except Error DB :=
  p.db.updateSystemRolloutCounters p.row p.current.state p.current.counters
    p.current.lastErrorCode dbNow

def releaseNextCohort (now : Time) (p : Pass) : Assignments × Nat :=
  let limit := systemReleaseSlots p.current.strategy p.current.totalClusters p.counts
  if limit = 0 then (p.db.assignments, 0)
  else releaseSystemRolloutNextCohort p.db.assignments p.current.id now limit

variable (clock : Clock) (p : Pass)

def reconcileRollback : Except Error DB :=
  if 0 < p.counts.rollbackFailed then finish clock.now p .rollbackFailed "rollback_failed"
  else if rollbackComplete p.counts then finish clock.now p .rolledBack ""
  else updateCountersAndCommit clock.dbNow p

def releaseQueued : Pass :=
  if p.current.state = .queued then
    let (assignments, released) := releaseNextCohort clock.now p
    if 0 < released then
      { p with
        db := appendEvent { p.db with assignments } p.current (p.current.fencingGeneration + 1)
          "cohort_released" "queued" "progressing" "" p.current.strategyDigest clock.now
        current := { p.current with state := .progressing
                                    releasedClusters := p.current.releasedClusters + released }
        counts := { p.counts with inFlight := p.counts.inFlight + released
                                  pending := p.counts.pending - released } }
    else p
  else p

def checkFailures : Except Error Flow :=
  if 0 < p.current.failedClusters ∧
      failureExceeded p.current.strategy.failureThreshold p.current.totalClusters
        p.current.failedClusters then
    match p.current.strategy.onFailure with
    | .rollback =>
      if p.current.previousReleaseID = none then
        .finished <$> finish clock.now p .failed "failure_budget_exceeded_no_rollback"
      else do
        let db ← beginRollback p.db p.current "failure_budget_exceeded" clock.now
        return .next { p with db, current := { p.current with state := .rollingBack } }
    | .abort => .finished <$> finish clock.now p .failed "failure_budget_exceeded"
    | .pause =>
      let current := { p.current with state := .paused, lastErrorCode := "failure_budget_exceeded" }
      .ok (.next { p with current })
  else .ok (.next p)

def checkDeadline : Except Error Flow :=
  if (∃ deadline ∈ p.current.progressDeadline, deadline ≤ clock.now) ∧
      p.current.state ≠ .rollingBack then
    if p.current.strategy.onFailure = .rollback ∧ p.current.previousReleaseID ≠ none then do
      let db ← beginRollback p.db p.current "progress_deadline_exceeded" clock.now
      let current := { p.current with state := .rollingBack
                                      lastErrorCode := "progress_deadline_exceeded" }
      return .next { p with db, current }
    else .finished <$> finish clock.now p .failed "progress_deadline_exceeded"
  else .ok (.next p)

def checkComplete : Except Error Flow :=
  if p.current.state = .progressing ∧ p.current.readyClusters = p.current.totalClusters then do
    let retired ← retirePreviousSystemRolloutReleases p.db.releases p.current.releaseID clock.now
    let (promoted, affected) ← promoteSystemRolloutRelease retired p.current.releaseID clock.now
    require (affected == 1) ⟨.conflict, "promote system release"⟩
    .finished <$> finish clock.now { p with db := { p.db with releases := promoted } } .succeeded ""
  else .ok (.next p)

def approvalAfterCanary (strategy : RolloutStrategy) : Bool :=
  strategy.type == .canary && strategy.canary.any CanarySpec.approvalAfterCanary

def releaseProgressing : Pass :=
  if p.current.state = .progressing ∧ p.counts.inFlight = 0 ∧ p.counts.immatureReady = 0 ∧
      0 < p.counts.pending then
    if approvalAfterCanary p.current.strategy ∧ p.counts.maxReadyCohort = 0 ∧
        p.counts.pendingCanary = 0 then
      { p with current := { p.current with state := .awaitingApproval } }
    else
      let (assignments, released) := releaseNextCohort clock.now p
      { p with db := { p.db with assignments }
               current := { p.current with
                              releasedClusters := p.current.releasedClusters + released } }
  else p

def Flow.andThen (f : Flow) (rest : Pass → Except Error DB) : Except Error DB :=
  match f with
  | .finished db => .ok db
  | .next p => rest p

def milliseconds (d : Duration) : Int := d.tdiv 1000000

def readPass (dbNow : Time) (db : DB) (row : RolloutRow) : Pass :=
  let counts := getSystemRolloutAssignmentCounts db.assignments row.id dbNow
    (milliseconds row.strategy.minReady)
  { db, row, counts
    current := { viewFromRecord row with
                   readyClusters := counts.ready, failedClusters := counts.failed
                   releasedClusters := counts.released } }

def reconcileForward : Except Error DB := do
  let afterFailures ← checkFailures clock (releaseQueued clock p)
  afterFailures.andThen fun p => do
    let afterDeadline ← checkDeadline clock p
    afterDeadline.andThen fun p => do
      let afterCompletion ← checkComplete clock p
      afterCompletion.andThen fun p =>
        updateCountersAndCommit clock.dbNow (releaseProgressing clock p)

def reconcileOne (clock : Clock) (id : UUID) (db : DB) : Except Error DB :=
  match db.rollouts.get id with
  | none => .ok db
  | some row =>
    if row.state.terminal ∨ row.state = .awaitingApproval ∨ row.state = .paused then .ok db
    else if row.state = .rollingBack then reconcileRollback clock (readPass clock.dbNow db row)
    else reconcileForward clock (readPass clock.dbNow db row)

/-! ## Releases -/

structure ReleaseSpec where
  version : String
  distributionDigest : Digest
  agentVersion : String
  specDigest : Digest

/-- The lookup of `ensureRelease`, or its insert. `id` is the row's fresh UUID and `sequence`
the next value of the identity column. -/
def loadOrCreateRelease (t : Releases) (id : UUID) (sequence : Nat) (spec : ReleaseSpec) :
    Except Error (Releases × ReleaseRow) :=
  match t.rows.find? fun r => r.version == spec.version with
  | some existing => do
    require (existing.specDigest == spec.specDigest)
      ⟨.plain, "delivery system release " ++ spec.version ++
        " is immutable: configured digest differs"⟩
    require (existing.state != .revoked)
      ⟨.plain, "delivery system release " ++ spec.version ++ " is revoked"⟩
    return (t, existing)
  | none => do
    let row : ReleaseRow :=
      { id, releaseSequence := sequence, version := spec.version, specDigest := spec.specDigest
        distributionDigest := spec.distributionDigest, agentVersion := spec.agentVersion }
    require (t.rows.all fun r => decide (r.releaseSequence < sequence))
      ⟨.constraint, "release sequence"⟩
    if h : t.get row.id = none then
      let inserted ← Releases.checked (t.insert row h)
      return (inserted, row)
    else throw ⟨.constraint, "release id"⟩

def ensureRelease (dbNow : Time) (id : UUID) (sequence : Nat) (spec : ReleaseSpec) (db : DB) :
    Except Error DB := do
  let (releases, release) ← loadOrCreateRelease db.releases id sequence spec
  if release.state = .draft ∧ releases.current = none then
    let promoted ← Releases.checked
      (releases.update (fun r => r.id == release.id) (·.promoted dbNow) (·.promoted_id dbNow))
    return { db with releases := promoted }
  else return { db with releases }

/-! ## Observations -/

def observe (env : Env) (clock : Clock) (clusterID : UUID) (o : Inventory) (db : DB) :
    Except Error DB := do
  let (db, written) ← observeDeliverySystemAssignment db clusterID o clock.dbNow
  match written with
  | some (a, before) =>
    if before ≠ a.phase then
      return db.appendEvent
        { rolloutID := a.rolloutID, clusterID := some clusterID, releaseID := a.desiredReleaseID
          generation := a.generation, eventType := "inventory_transition"
          fromPhase := before.text, toPhase := a.phase.text, reasonCode := a.lastErrorCode
          decisionDigest := env.observationDigest a before clock.now, occurredAt := clock.now }
    else return db
  | none => return db

end Astronomer.Delivery.SystemRollout
