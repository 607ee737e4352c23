import Astronomer.Base.Run
import Astronomer.Delivery.Reconciler
import Astronomer.Delivery.Status

/-!
# The delivery control plane as one system

The database, the workers of any number of replicas and their runtime caches. Every
transaction is one event; a worker's claim, load, evaluation and commit are four.
-/

namespace Astronomer.Delivery

inductive Stage where
  | claimed
  | loaded (runtime : LoadedRuntime)
  | decided (runtime : LoadedRuntime) (decision : Decision) (now : Time)

structure Job where
  replica : Nat
  owner : String
  claimed : RolloutRow
  stage : Stage

structure World where
  db : DB
  jobs : List Job := []
  caches : Nat → RuntimeCache := fun _ => []

inductive Event where
  | create (plan : FrozenRollout) (dbNow : Time) (newID : UUID → UUID)
  | claim (replica : Nat) (owner : String) (lease : Duration) (rolloutID : UUID) (dbNow : Time)
  | load (job : Nat) (now : Time)
  | evaluate (job : Nat) (now : Time) (windows : String → Except Error Bool)
  | apply (job : Nat) (dbNow : Time) (newID : UUID → UUID)
  | restart (replica : Nat)
  | act (clock : Clock) (request : ActionRequest)
  | approve (clock : Clock) (request : ApprovalRequest)
  | ingest (clock : Clock) (session : Session) (payload : DeliveryStatus)
  | connection (row : ConnectionRow)
  | dropConnection (id : UUID)
  | labels (clusterID : UUID) (labels : String)
  | writeDeployment (row : DeploymentRow)

def writeConnection (db : DB) (row : ConnectionRow) : DB :=
  match db.connections.find? (·.id == row.id) with
  | none => { db with connections := db.connections ++ [row] }.bumpForCluster row.clusterID
  | some old =>
    let written := updateWhere (·.id == row.id)
      (fun c => { row with id := c.id, clusterID := c.clusterID }) db.connections
    { db with connections := written }.bumpForCluster old.clusterID

def dropConnection (db : DB) (id : UUID) : DB :=
  match db.connections.find? (·.id == id) with
  | none => db
  | some old =>
    { db with connections := db.connections.filter (·.id != id) }.bumpForCluster old.clusterID

def writeLabels (db : DB) (clusterID : UUID) (labels : String) : DB :=
  match db.clusters.find? (·.id == clusterID) with
  | none => db
  | some old =>
    if old.labels = labels then db
    else
      let written := updateWhere (·.id == clusterID) (fun c => { c with labels }) db.clusters
      { db with clusters := written }.bumpForCluster clusterID

def writeDeploymentRow (db : DB) (row : DeploymentRow) : DB :=
  match db.deployment row.targetID row.clusterID with
  | none => if db.deployments.all (fun d => d.id != row.id) then db.insertDeployment row else db
  | some _ =>
    match db.updateDeployment
        (fun d => d.targetID == row.targetID && d.clusterID == row.clusterID)
        (fun d => { row with id := d.id }) with
    | some (written, _) => written
    | none => db

section Step

variable (env : Env) (senv : StatusEnv)

def World.load (w : World) (i : Nat) (now : Time) : World :=
  match w.jobs[i]? with
  | some ⟨replica, owner, claimed, .claimed⟩ =>
    match loadRuntime w.db (w.caches replica) claimed now with
    | .ok (cache, runtime) =>
      { w with
        jobs := w.jobs.set i ⟨replica, owner, claimed, .loaded runtime⟩
        caches := fun r => if r = replica then cache else w.caches r }
    | .error _ => { w with jobs := w.jobs.eraseIdx i }
  | _ => w

def World.evaluate (w : World) (i : Nat) (now : Time) (windows : String → Except Error Bool) :
    World :=
  match w.jobs[i]? with
  | some ⟨replica, owner, claimed, .loaded runtime⟩ =>
    match evaluateClaimed env claimed owner runtime.rows
        (listDeliveryRolloutApprovals w.db claimed.id) windows now with
    | .ok decision =>
      { w with jobs := w.jobs.set i ⟨replica, owner, claimed, .decided runtime decision now⟩ }
    | .error _ => { w with jobs := w.jobs.eraseIdx i }
  | _ => w

def World.apply (w : World) (i : Nat) (dbNow : Time) (newID : UUID → UUID) : World :=
  match w.jobs[i]? with
  | some ⟨_, owner, claimed, .decided runtime decision now⟩ =>
    { w with
      db := commitOr w.db (applyDecision ⟨owner, claimed, runtime, decision, now⟩ dbNow newID w.db)
      jobs := w.jobs.eraseIdx i }
  | _ => w

def World.step (w : World) : Event → World
  | .create plan dbNow newID =>
    { w with db := commitOr w.db (insertRollout env w.db dbNow newID plan) }
  | .claim replica owner lease rolloutID dbNow =>
    match claimDeliveryRollout w.db dbNow owner lease rolloutID with
    | some (db, row) => { w with db, jobs := w.jobs ++ [⟨replica, owner, row, .claimed⟩] }
    | none => w
  | .load i now => w.load i now
  | .evaluate i now windows => w.evaluate env i now windows
  | .apply i dbNow newID => w.apply i dbNow newID
  | .restart replica =>
    { w with
      jobs := w.jobs.filter (·.replica != replica)
      caches := fun r => if r = replica then [] else w.caches r }
  | .act clock request => { w with db := commitOr w.db (act w.db clock request) }
  | .approve clock request => { w with db := commitOr w.db (approve w.db clock request) }
  | .ingest clock session payload =>
    { w with db := commitOr w.db (ingest senv w.db clock session payload) }
  | .connection row => { w with db := writeConnection w.db row }
  | .dropConnection id => { w with db := dropConnection w.db id }
  | .labels clusterID labels => { w with db := writeLabels w.db clusterID labels }
  | .writeDeployment row => { w with db := writeDeploymentRow w.db row }

end Step

/-! ## A rollout to one cluster

The smallest instance of the system, on which later files evaluate their runs: target
`2` of project `3`, cluster `7` with a live agent, rollout `1`. Digests are constant,
so a run shows what the code does when every digest matches. -/

namespace OneCluster

def digest : Digest := "sha256:0000000000000000000000000000000000000000000000000000000000000000"

def env : Env :=
  { strategyDigest := fun _ => digest, approvalDigest := fun _ => digest
    planDigest := fun _ => digest, releaseDigest := fun _ => digest
    decisionDigest := fun _ _ => digest
    isQualifiedName := fun _ => true, isValidLabelValue := fun _ => true
    sourceValid := fun _ => true, overridesValid := fun _ => true
    rendererValid := fun _ => true, columnSize := fun plan => 1000 * plan.clusters.length }

def senv : StatusEnv :=
  { semanticDigest := fun _ => digest, inventoryValid := fun _ => true
    observationValid := fun _ _ => true, redact := id }

def version (bundle : UUID) : VersionIdentity :=
  { bundleVersionID := bundle, specDigest := digest, source := ⟨"r", "s"⟩, overrides := "{}"
    renderer := none, configurationDigest := "" }

def plan (approval : ApprovalBinding) (previous : Option PreviousDeployment) : FrozenRollout :=
  { id := 1, targetID := 2, projectID := 3, targetGeneration := 1, desired := version 4
    placementDigest := digest
    strategy :=
      { type := .allAtOnce, maxConcurrent := 1, maxUnavailable := ⟨.count, 1⟩, minReady := 0
        progressDeadline := 1000, failureThreshold := ⟨.count, 1⟩, onFailure := .pause
        respectMaintenanceWindows := false }
    strategyDigest := digest, approval, actor := "alice", idempotencyKey := "k"
    requestDigest := digest, createdAt := 10, deadline := 1010
    cohorts := [⟨0, "all", [7], false, "", 0⟩], clusters := [⟨7, 0, 0, none, previous⟩]
    planDigest := digest }

def firstPlan : FrozenRollout := plan ⟨false, digest⟩ none

def world : World :=
  { db :=
      { targets := [⟨2, 3⟩], clusters := [⟨7, "{}"⟩], connections := [⟨9, 7, "s", true, none⟩] } }

def inserted (plan : FrozenRollout) : World :=
  { world with db := commitOr world.db (insertRollout env world.db 10 (· + 100) plan) }

def action (fence : Int) (action : Action) : ActionRequest :=
  { projectID := 3, rolloutID := 1, expectedFence := fence, action, actorID := some 5
    idempotencyKey := "k" }

def passOf (id : UUID) (now : Time) : List Event :=
  [.claim 0 "w" 30 id now, .load 0 now, .evaluate 0 now fun _ => .ok false,
    .apply 0 now (· + 200)]

def pass (now : Time) : List Event := passOf 1 now

def released : List Event := pass 11 ++ pass 12 ++ pass 13

def status (sequence generation : Int) (phase : DeploymentPhase) (now : Time) : Event :=
  .ingest ⟨now, now⟩ ⟨7, 9, "s"⟩
    { clusterID := 7, sessionSequence := sequence, statusDigest := digest
      snapshotGeneration := 0, snapshotETag := "", inventory := "", modern := true
      deployments := [{ deploymentID := 207, generation, specDigest := digest, phase
                        observedAt := now }] }

end OneCluster

end Astronomer.Delivery
