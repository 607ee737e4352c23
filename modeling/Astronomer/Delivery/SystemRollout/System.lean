import Astronomer.Base.Run
import Astronomer.Delivery.SystemRollout.Service

/-!
# Runs of system rollouts

One step for each transaction that touches the tables. Advisory lock and serializable
isolation make any interleaving a sequence of such steps.
-/

namespace Astronomer.Delivery.SystemRollout

inductive Event where
  | start (clock : Clock) (rolloutID : UUID) (request : StartRequest)
  | act (clock : Clock) (request : ActRequest)
  | reconcile (clock : Clock) (id : UUID)
  | observe (clock : Clock) (clusterID : UUID) (o : Inventory)
  | configure (clock : Clock) (id : UUID) (sequence : Nat) (spec : ReleaseSpec)
  | register (clusters : Keyed ClusterRow.id)

def Event.transaction (env : Env) (db : DB) : Event → Except Error DB
  | .start clock rolloutID request => SystemRollout.start env clock rolloutID request db
  | .act clock request => SystemRollout.act env clock request db
  | .reconcile clock id => reconcileOne clock id db
  | .observe clock clusterID o => SystemRollout.observe env clock clusterID o db
  | .configure clock id sequence spec => ensureRelease clock.dbNow id sequence spec db
  | .register clusters => .ok { db with clusters }

def step (env : Env) (db : DB) (e : Event) : DB := commitOr db (e.transaction env db)

def DB.stateOf (db : DB) (id : UUID) : Option RolloutState :=
  (db.rollouts.get id).map RolloutRow.state

/-! ## A small fleet

Two releases, of which the first is released, and three registered clusters. -/

namespace Fleet

def digest (c : Char) : Digest := "sha256:" ++ String.ofList (List.replicate 64 c)

def env : Env :=
  { strategyDigest := fun _ => digest 's', approvalDigest := fun _ => digest 's'
    planDigest := fun _ => digest 's', releaseDigest := fun _ => digest 's'
    decisionDigest := fun _ _ => digest 's'
    isQualifiedName := fun _ => true, isValidLabelValue := fun _ => true
    sourceValid := fun _ => true, overridesValid := fun _ => true
    rendererValid := fun _ => true, columnSize := fun _ => 0
    actionDigest := fun _ _ _ _ => digest 's', observationDigest := fun _ _ _ => digest 's' }

def at' (now : Time) : Clock := ⟨now, now⟩

def release (n : Nat) (c : Char) (state : ReleaseState) : ReleaseRow :=
  { id := n, releaseSequence := n, version := "v" ++ toString n, specDigest := digest c
    distributionDigest := digest c, agentVersion := "v" ++ toString n, state }

def db : DB :=
  { releases :=
      { rows := [release 1 'a' .released, release 2 'b' .draft]
        nodup := by decide
        oneReleased := by decide +kernel }
    rollouts := ⟨[], List.nodup_nil⟩
    assignments := ⟨[], List.nodup_nil⟩
    clusters := ⟨[{ id := 11 }, { id := 12 }, { id := 13 }], by decide⟩ }

def strategy : RolloutStrategy :=
  { type := .allAtOnce, maxConcurrent := 3, maxUnavailable := ⟨.count, 3⟩, minReady := 0
    progressDeadline := 1000, failureThreshold := ⟨.count, 3⟩, onFailure := .pause
    respectMaintenanceWindows := false }

def canary : RolloutStrategy :=
  { strategy with type := .canary
                  canary := some ⟨⟨.unset, 0⟩, [11], true, 0⟩ }

def start (id releaseID : UUID) (strategy : RolloutStrategy) : Event :=
  .start (at' 10) id { releaseID, strategy, idempotencyKey := "k" ++ toString id }

def act (id : UUID) (fence : Int) (action : Action) : Event :=
  .act (at' 20) { id, expectedFence := fence, action }

def pass (id : UUID) : Event := .reconcile (at' 30) id

def runs (clusterID : UUID) (n : Nat) (c : Char) : Event :=
  .observe (at' 25) clusterID
    { distributionDigest := digest c, agentVersion := "v" ++ toString n, observedAt := 25
      ready := true, compatibility := .compatible }

def degraded (clusterID : UUID) : Event :=
  .observe (at' 25) clusterID
    { distributionDigest := digest 'b', agentVersion := "v2", observedAt := 25
      ready := false, compatibility := .degraded, errorCode := "controllers_not_ready" }

def incompatible (clusterID : UUID) : Event :=
  .observe (at' 25) clusterID
    { distributionDigest := digest 'b', agentVersion := "v2", observedAt := 25
      ready := false, compatibility := .incompatible
      errorCode := "kubernetes_version_unsupported" }

end Fleet

end Astronomer.Delivery.SystemRollout
