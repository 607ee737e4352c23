import Astronomer.Delivery.Store

/-!
# Operator actions and approvals

`PostgresController`: each call is one serializable transaction. The idempotency key, the
task outbox and the audit record can make it a replay or fail it; a request carries that.
-/

namespace Astronomer.Delivery

inductive Action where
  | pause | resume | abort | retry | rollback
  deriving DecidableEq

def Action.text : Action → String
  | .pause => "pause" | .resume => "resume" | .abort => "abort" | .retry => "retry"
  | .rollback => "rollback"

inductive KeyClaim where
  | fresh | replay | refused

structure ActionRequest where
  (projectID rolloutID : UUID)
  expectedFence : Int
  action : Action
  actorID : Option UUID
  reasonCode : String := ""
  idempotencyKey : String
  hasAudit : Bool := true
  keyClaim : KeyClaim := .fresh
  bookkeeping : Bool := true

structure ApprovalRequest where
  (projectID rolloutID : UUID)
  (expectedFence cohort : Int)
  bindingDigest : Digest
  decision : Verdict
  actorID : Option UUID
  expiresAt : Time
  idempotencyKey : String
  approvalID : UUID
  hasAudit : Bool := true
  keyClaim : KeyClaim := .fresh
  bookkeeping : Bool := true

def maxIdempotencyKeyBytes : Nat := 128

def validateKey (key : String) : Bool :=
  key != "" && key == trimSpace key && decide (key.utf8ByteSize ≤ maxIdempotencyKeyBytes) &&
    key.toList.all fun c => decide (0x20 ≤ c.toNat) &&
      !(decide (0x7f ≤ c.toNat) && decide (c.toNat ≤ 0x9f))

def actionTransition : Action → List RolloutState × RolloutState
  | .pause => ([.resolving, .queued, .progressing], .paused)
  | .resume => ([.paused], .queued)
  | .abort => ([.resolving, .awaitingApproval, .queued, .progressing, .paused, .failed], .aborted)
  | .retry => ([.failed, .paused], .queued)
  | .rollback => ([.succeeded, .failed, .paused], .rollingBack)

def requiredActor (actor : Option UUID) : Except Error Unit :=
  require (actor.getD 0 != 0) (fail .invalidInput "actor" "authenticated actor is required")

def claimKey (claim : KeyClaim) : Except Error Unit :=
  match claim with
  | .fresh => .ok ()
  | .replay => .error (fail .idempotencyConflict "idempotency_key" "replayed")
  | .refused => .error (fail .idempotencyConflict "idempotency_key" "refused")

def ActionRequest.reason (request : ActionRequest) : String :=
  let reason := trimSpace request.reasonCode
  if reason = "" then "user_" ++ request.action.text else reason

def ActionRequest.validate (request : ActionRequest) : Except Error Unit := do
  require request.hasAudit (fail .auditUnavailable "audit" "outbox unavailable")
  require (request.projectID != 0 && request.rolloutID != 0 &&
      decide (1 ≤ request.expectedFence))
    (fail .invalidInput "action" "project, rollout, and positive If-Match fence are required")
  require (decide (request.reasonCode.utf8ByteSize ≤ 96) && !hasUnsafeByte request.reasonCode)
    (fail .invalidInput "reason_code" "must be at most 96 safe bytes")
  requiredActor request.actorID
  require (validateKey request.idempotencyKey)
    (fail .invalidInput "idempotency_key" "must be printable")

def checkRollback (action : Action) (current : RolloutRow) : Except Error Unit :=
  if action = .rollback then do
    let plan ← decodeFrozenPlan current
    require (plan.clusters.all fun c => c.previous.isSome)
      (fail .invalidInput "rollback"
        "not every rollout cluster has a frozen previous known-good version")
  else .ok ()

def resetForRetry (db : DB) (now : Time) (action : Action) (rolloutID : UUID) :
    Except Error DB :=
  if action = .retry then
    let reset := resetRetryableDeliveryRolloutClusters db now rolloutID
    if reset.2 = 0 then
      .error (fail .invalidInput "retry" "rollout has no failed, timed-out, or blocked clusters")
    else .ok reset.1
  else .ok db

def act (db : DB) (clock : Clock) (request : ActionRequest) : Except Error DB := do
  request.validate
  claimKey request.keyClaim
  let current ← orError (getDeliveryRolloutForAction db request.rolloutID request.projectID)
    (fail .noRows "rollout" "not found")
  require (current.fencingGeneration == request.expectedFence)
    (fail .staleFence "if_match" "rollout fencing generation changed")
  checkRollback request.action current
  let reset ← resetForRetry db clock.dbNow request.action request.rolloutID
  let transition := actionTransition request.action
  let updated ← orError
    (transitionDeliveryRolloutCAS reset clock.dbNow request.rolloutID request.expectedFence
      transition.1
      transition.2 request.reason)
    (fail .invalidInput "state" "action is not valid for the current rollout state")
  require request.bookkeeping (fail .auditUnavailable "audit" "outbox unavailable")
  return updated.1.createRolloutEvent
    { rolloutID := request.rolloutID, clusterID := none
      eventType := .action, fromState := current.state.text, toState := updated.2.state.text
      reasonCode := request.reason, fence := updated.2.fencingGeneration
      occurredAt := clock.now }

def ApprovalRequest.validate (request : ApprovalRequest) : Except Error Unit := do
  require request.hasAudit (fail .auditUnavailable "audit" "outbox unavailable")
  require (request.projectID != 0 && request.rolloutID != 0 &&
      decide (1 ≤ request.expectedFence) && decide (-1 ≤ request.cohort))
    (fail .invalidInput "approval"
      "project, rollout, positive fence, and cohort >= -1 are required")
  checkDigest "binding_digest" request.bindingDigest
  requiredActor request.actorID
  require (validateKey request.idempotencyKey)
    (fail .invalidInput "idempotency_key" "must be printable")

def hour : Duration := 3600 * 10 ^ 9

def expectedDigest (plan : FrozenRollout) (cohort : Int) : Except Error Digest :=
  if 0 ≤ cohort then
    match plan.cohorts[cohort.toNat]? with
    | some c =>
      if c.index = cohort.toNat ∧ c.approvalRequired = true then .ok c.approvalDigest
      else .error (fail .invalidInput "cohort" "does not identify a frozen approval gate")
    | none => .error (fail .invalidInput "cohort" "does not identify a frozen approval gate")
  else if plan.approval.required then .ok plan.approval.digest
  else .error (fail .invalidInput "cohort" "rollout has no initial approval gate")

def transitionForApproval (db : DB) (now : Time) (request : ApprovalRequest)
    (current : RolloutRow) : Except Error (DB × RolloutRow) :=
  if request.cohort = -1 then
    orError
      (transitionDeliveryRolloutCAS db now request.rolloutID request.expectedFence
        [.awaitingApproval]
        (match request.decision with | .approved => .queued | .rejected => .rejected)
        ("approval_" ++ request.decision.text))
      (fail .invalidInput "state" "initial approval is only valid while awaiting approval")
  else .ok (db, current)

def approve (db : DB) (clock : Clock) (request : ApprovalRequest) : Except Error DB := do
  request.validate
  claimKey request.keyClaim
  require (decide (clock.now < request.expiresAt) &&
      decide (request.expiresAt ≤ clock.now + 24 * hour))
    (fail .invalidInput "expires_at" "must be after now and no more than 24 hours in the future")
  let current ← orError (getDeliveryRolloutForAction db request.rolloutID request.projectID)
    (fail .noRows "rollout" "not found")
  require (current.fencingGeneration == request.expectedFence)
    (fail .staleFence "if_match" "rollout fencing generation changed")
  let plan ← decodeFrozenPlan current
  let digest ← expectedDigest plan request.cohort
  require (request.bindingDigest == digest)
    (fail .invalidInput "binding_digest" "does not match the frozen approval gate")
  let approved ← orError
    (createDeliveryRolloutApproval db
      { id := request.approvalID, rolloutID := request.rolloutID, cohort := request.cohort
        bindingDigest := request.bindingDigest, decision := request.decision
        decidedBy := request.actorID, decidedAt := clock.dbNow, expiresAt := request.expiresAt })
    (fail .noRows "approval" "refused by the table")
  let updated ← transitionForApproval approved clock.dbNow request current
  require request.bookkeeping (fail .auditUnavailable "audit" "outbox unavailable")
  return updated.1.createRolloutEvent
    { rolloutID := request.rolloutID, clusterID := none, eventType := .approval
      fromState := current.state.text, toState := updated.2.state.text
      reasonCode := s!"cohort_{request.cohort}", fence := updated.2.fencingGeneration
      occurredAt := clock.now }

end Astronomer.Delivery
