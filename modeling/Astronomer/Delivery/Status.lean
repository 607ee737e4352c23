import Astronomer.Delivery.Queries

/-!
# Status reports

`Ingester.Ingest` binds a report to the live agent connection and commits the
inventory, every non-stale deployment observation and the snapshot acknowledgement
in one transaction. An unchanged report (same digest, same session) is coalesced.
-/

namespace Astronomer.Delivery

def deliveryProtocolVersion : String := "2.0"

def maxDeliveryStatusDeployments : Nat := 10000

/-- `protocol.DeliveryDeploymentStatusV2`. `detail` holds the conditions, the Flux
identities, the inventory and the source observation. -/
structure DeploymentStatus where
  deploymentID : UUID
  generation : Int
  specDigest : Digest
  phase : DeploymentPhase
  observedRevision : String := ""
  detail : ObservedDetail := {}
  errorCode : String := ""
  warningCodes : List String := []
  message : String := ""
  observedAt : Time

/-- `protocol.DeliveryStatusV2`; `inventory` is the controller inventory and `modern`
whether it carries an observation. -/
structure DeliveryStatus where
  protocolVersion : String := deliveryProtocolVersion
  clusterID : UUID
  sessionSequence : Int
  statusDigest : Digest
  snapshotGeneration : Int
  snapshotETag : String
  deployments : List DeploymentStatus
  inventory : String
  modern : Bool

/-- What the ingester takes from the packages around it: the digest of a report's
semantic state, the bounds of the inventory and of one deployment's observation
data, and the redaction of free text. -/
structure StatusEnv where
  semanticDigest : DeliveryStatus → Digest
  inventoryValid : String → Bool
  observationValid : Bool → DeploymentStatus → Bool
  redact : String → String

def checkDeploymentStatus (env : StatusEnv) (modern : Bool) (seen : List UUID)
    (d : DeploymentStatus) : Except Error (List UUID) := do
  require (decide (1 ≤ d.generation) && d.specDigest.valid)
    (fail .invalidInput "deployments" "deployment status has invalid identity")
  require (!seen.contains d.deploymentID)
    (fail .invalidInput "deployments" "duplicate deployment status")
  require (d.observedAt != 0 && env.observationValid modern d)
    (fail .invalidInput "deployments" "deployment status has invalid observation data")
  return d.deploymentID :: seen

def DeliveryStatus.validate (env : StatusEnv) (s : DeliveryStatus) : Except Error Unit := do
  require (s.protocolVersion == deliveryProtocolVersion)
    (fail .invalidInput "protocol_version" "unsupported delivery protocol version")
  require (decide (1 ≤ s.sessionSequence) && decide (0 ≤ s.snapshotGeneration))
    (fail .invalidInput "session_sequence" "delivery status has invalid identity or sequence")
  require (s.statusDigest.valid && s.statusDigest == env.semanticDigest s)
    (fail .invalidInput "status_digest"
      "delivery status digest is missing or does not match its semantic state")
  require (if s.snapshotGeneration = 0 then s.snapshotETag == "" else Digest.valid s.snapshotETag)
    (fail .invalidInput "snapshot_etag"
      "delivery status snapshot generation and ETag must be supplied together")
  require (decide (s.deployments.length ≤ maxDeliveryStatusDeployments))
    (fail .invalidInput "deployments" "delivery status exceeds deployment limit")
  require (env.inventoryValid s.inventory)
    (fail .invalidInput "controller_inventory" "controller inventory is invalid")
  let _ ← s.deployments.foldlM (checkDeploymentStatus env s.modern) []
  return ()

/-! ## Queries of the ingester -/

def fenceDeliveryAgentSession (db : DB) (connectionID clusterID : UUID) (sessionID : String) :
    Bool :=
  db.connections.any fun c => c.id == connectionID && c.clusterID == clusterID &&
    c.sessionID == sessionID && c.connected

def acceptDeliveryStatusInventory (db : DB) (clusterID : UUID) (sessionID : String)
    (payload : DeliveryStatus) : Option (DB × Bool) :=
  match db.inventories.find? (·.clusterID == clusterID) with
  | none =>
    some ({ db with inventories := db.inventories ++ [
      { clusterID, payload := payload.inventory, statusDigest := payload.statusDigest
        agentSessionID := sessionID, agentSequence := payload.sessionSequence
        semanticSequence := payload.sessionSequence }] }, true)
  | some old =>
    if old.agentSessionID = sessionID ∧ payload.sessionSequence ≤ old.agentSequence then none
    else
      let semantic :=
        if old.statusDigest ≠ payload.statusDigest ∨ old.agentSessionID ≠ sessionID then
          payload.sessionSequence
        else old.semanticSequence
      let write := fun (i : InventoryRow) => { i with
        payload := payload.inventory, statusDigest := payload.statusDigest
        agentSessionID := sessionID, agentSequence := payload.sessionSequence
        semanticSequence := semantic }
      some ({ db with inventories := updateWhere (·.clusterID == clusterID) write db.inventories },
        semantic == payload.sessionSequence)

def getClusterDeploymentForDeliveryStatus (db : DB) (id clusterID : UUID) :
    Option DeploymentRow :=
  db.deployments.find? fun d => d.id == id && d.clusterID == clusterID

structure ObservedUpdate where
  generation : Int
  specDigest : Digest
  revision : String
  phase : DeploymentPhase
  detail : ObservedDetail
  sessionID : String
  sequence : Int
  (errorCode message : String)
  observedAt : Option Time

def DeploymentRow.observe (d : DeploymentRow) (u : ObservedUpdate) : DeploymentRow :=
  { d with
    observedGeneration := u.generation, observedSpecDigest := u.specDigest
    observedRevision := u.revision, phase := u.phase, detail := u.detail
    agentSessionID := u.sessionID, agentSequence := u.sequence
    lastErrorCode := u.errorCode, lastMessage := u.message, lastObservedAt := u.observedAt }

def DeploymentRow.precedes (d : DeploymentRow) (sessionID : String) (sequence : Int) : Bool :=
  d.agentSessionID != sessionID || decide (d.agentSequence < sequence)

def updateClusterDeploymentObservedCAS (db : DB) (id : UUID) (u : ObservedUpdate) :
    Option (DB × DeploymentRow) :=
  db.updateDeployment
    (fun d => d.id == id && d.desiredGeneration == u.generation &&
      d.desiredSpecDigest == u.specDigest && d.precedes u.sessionID u.sequence)
    (·.observe u)

def advancedState (phase : DeploymentPhase) (action : AssignmentAction) : RolloutClusterState :=
  match phase, action with
  | .ready, .rollback => .readyPrevious
  | .ready, .apply => .ready
  | .failed, _ | .degraded, _ => .failed
  | .applying, .rollback => .rollingBack
  | .applying, .apply => .reconciling
  | _, _ => .acknowledged

def advances (phase : DeploymentPhase) (state : RolloutClusterState) : Bool :=
  match phase with
  | .ready => [.released, .acknowledged, .reconciling, .rollingBack].contains state
  | .failed | .degraded =>
    [.released, .acknowledged, .reconciling, .ready, .rollingBack, .readyPrevious].contains state
  | .applying => [.released, .acknowledged, .ready, .readyPrevious].contains state
  | _ => state == .released

def RolloutClusterRow.advance (rc : RolloutClusterRow) (now : Time) (phase : DeploymentPhase)
    (lastErrorCode : String) : RolloutClusterRow :=
  { rc with
    state := advancedState phase rc.assignmentAction
    fence := rc.fence + 1
    acknowledgedAt := rc.acknowledgedAt <|> some now
    readyAt := match phase with
      | .ready => rc.readyAt <|> some now
      | .applying | .failed | .degraded => none
      | _ => rc.readyAt
    completedAt := match phase with
      | .ready | .failed | .degraded => some now
      | .applying => none
      | _ => rc.completedAt
    lastErrorCode }

def statusApplies (rollout : RolloutState) (action : AssignmentAction) : Bool :=
  match rollout, action with
  | .progressing, .apply | .rollingBack, .rollback => true
  | _, _ => false

def advanceDeliveryRolloutClusterFromStatus (db : DB) (now : Time) (deploymentID : UUID)
    (phase : DeploymentPhase) (lastErrorCode : String) (observedGeneration : Int)
    (observedSpecDigest : Digest) : Option (DB × RolloutClusterRow × RolloutClusterRow) := do
  let d ← db.deployments.find? (·.id == deploymentID)
  let rolloutID ← d.currentRolloutID
  let r ← db.rollout rolloutID
  let p := fun (rc : RolloutClusterRow) =>
    rc.rolloutID == rolloutID && rc.clusterID == d.clusterID &&
      statusApplies r.state rc.assignmentAction && advances phase rc.state
  if d.desiredGeneration = observedGeneration ∧ d.desiredSpecDigest = observedSpecDigest then
    (db.rolloutClusters.find? p).map fun rc =>
      (db.updateClusterRows now p (·.advance now phase lastErrorCode), rc,
        rc.advance now phase lastErrorCode)
  else none

def acknowledgeDeliveryAssignmentSnapshot (db : DB) (now : Time) (clusterID : UUID)
    (snapshotGeneration : Int) (snapshotEtag sessionID : String) (sequence : Int) : Option DB :=
  (updateReturning
    (fun (r : ReceiptRow) => r.clusterID == clusterID &&
      r.desiredSnapshotGeneration == snapshotGeneration && r.desiredSnapshotEtag == snapshotEtag &&
      (r.agentSessionID != sessionID || decide (r.agentSequence < sequence)))
    (fun r => { r with
      acknowledgedSnapshotGeneration := snapshotGeneration
      acknowledgedSnapshotEtag := snapshotEtag, agentSessionID := sessionID
      agentSequence := sequence, lastProtocolErrorCode := "", acknowledgedAt := some now })
    db.receipts).map fun result => { db with receipts := result.1 }

/-! ## Ingest -/

structure Session where
  (clusterID connectionID : UUID)
  sessionID : String

def deploymentSourceTime (d : DeploymentStatus) (modern : Bool) : Option Time :=
  if modern then d.detail.observation.bind (·.observedAt) else some d.observedAt

def DeploymentStatus.storedErrorCode (d : DeploymentStatus) : String :=
  if d.errorCode = "" then d.warningCodes.headD "" else d.errorCode

def DeploymentStatus.update (d : DeploymentStatus) (env : StatusEnv) (session : Session)
    (payload : DeliveryStatus) : ObservedUpdate :=
  { generation := d.generation, specDigest := d.specDigest, revision := d.observedRevision
    phase := d.phase
    detail := { d.detail with conditions := env.redact d.detail.conditions }
    sessionID := session.sessionID, sequence := payload.sessionSequence
    errorCode := d.storedErrorCode, message := env.redact d.message
    observedAt := deploymentSourceTime d payload.modern }

def advanceFromStatus (db : DB) (clock : Clock) (updated : DeploymentRow) : DB :=
  match advanceDeliveryRolloutClusterFromStatus db clock.dbNow updated.id updated.phase
      updated.lastErrorCode updated.observedGeneration updated.observedSpecDigest with
  | none => db
  | some (advanced, before, after) =>
    advanced.createRolloutEvent
      { rolloutID := after.rolloutID, clusterID := some after.clusterID
        eventType := .statusAdvance, fromState := before.state.text, toState := after.state.text
        reasonCode := updated.lastErrorCode, fence := after.fence, occurredAt := clock.now }

/-- One deployment of a changed report. A row that is gone, stale or already newer is
passed over. -/
def ingestDeployment (env : StatusEnv) (clock : Clock) (session : Session)
    (payload : DeliveryStatus) (db : DB) (d : DeploymentStatus) : DB :=
  match getClusterDeploymentForDeliveryStatus db d.deploymentID session.clusterID with
  | none => db
  | some current =>
    if current.desiredGeneration ≠ d.generation ∨ current.desiredSpecDigest ≠ d.specDigest then db
    else match updateClusterDeploymentObservedCAS db d.deploymentID
        (d.update env session payload) with
    | none => db
    | some (observed, updated) => advanceFromStatus observed clock updated

def refreshDeployment (session : Session) (payload : DeliveryStatus) (db : DB)
    (d : DeploymentStatus) : DB :=
  match getClusterDeploymentForDeliveryStatus db d.deploymentID session.clusterID with
  | none => db
  | some current =>
    if current.desiredGeneration ≠ d.generation ∨ current.desiredSpecDigest ≠ d.specDigest ∨
        current.observedGeneration ≠ d.generation ∨ current.observedSpecDigest ≠ d.specDigest ∨
        deploymentSourceTime d true = current.lastObservedAt then db
    else match updateClusterDeploymentObservedCAS db d.deploymentID
        { generation := d.generation, specDigest := d.specDigest
          revision := current.observedRevision, phase := current.phase
          detail := { current.detail with observation := d.detail.observation }
          sessionID := session.sessionID, sequence := payload.sessionSequence
          errorCode := current.lastErrorCode, message := current.lastMessage
          observedAt := deploymentSourceTime d true } with
    | none => db
    | some (refreshed, _) => refreshed

def refreshDeploymentSourceTimes (session : Session) (payload : DeliveryStatus) (db : DB) : DB :=
  if payload.modern then payload.deployments.foldl (refreshDeployment session payload) db else db

def ingestChanged (env : StatusEnv) (clock : Clock) (session : Session)
    (payload : DeliveryStatus) (db : DB) : Except Error DB :=
  let observed := payload.deployments.foldl (ingestDeployment env clock session payload) db
  if 0 < payload.snapshotGeneration then
    orError
      (acknowledgeDeliveryAssignmentSnapshot observed clock.dbNow session.clusterID
        payload.snapshotGeneration payload.snapshotETag session.sessionID
        payload.sessionSequence)
      (fail .noRows "snapshot" "acknowledge delivery snapshot")
  else .ok observed

def ingest (env : StatusEnv) (db : DB) (clock : Clock) (session : Session)
    (payload : DeliveryStatus) : Except Error DB := do
  require (session.clusterID != 0 && session.connectionID != 0 &&
      trimSpace session.sessionID != "")
    (fail .invalidInput "session" "authenticated delivery session identity is incomplete")
  payload.validate env
  require (payload.clusterID == session.clusterID)
    (fail .invalidInput "cluster_id" "delivery status cluster does not match authenticated session")
  require (fenceDeliveryAgentSession db session.connectionID session.clusterID session.sessionID)
    (fail .leaseLost "session" "delivery status agent session is no longer active")
  match acceptDeliveryStatusInventory db session.clusterID session.sessionID payload with
  | none => .ok db
  | some (accepted, false) => .ok (refreshDeploymentSourceTimes session payload accepted)
  | some (accepted, true) => ingestChanged env clock session payload accepted

end Astronomer.Delivery
