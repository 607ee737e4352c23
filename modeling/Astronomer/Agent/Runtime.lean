import Astronomer.Base.Run
import Astronomer.Base.UUID
import Astronomer.Agent.Executor

/-!
# The agent's runtime

`runtime.go` and the checkpoint it keeps: how one snapshot of the server becomes
writes on the cluster. The agent's memory, the checkpoint in the store and the
cluster are three states; any call between them may fail.
-/

namespace Astronomer.Agent

open Delivery (Time)

structure AcceptedAssignment where
  (deploymentID projectID : String)
  generation : Int
  specDigest : String
  action : Action
  scope : Scope
  sourceKind : SourceKind
  rendererKind : RendererKind
  (controlNamespace targetNamespace : String)
  objects : List ObjectIdentity
  deriving DecidableEq

def materializationIdentities (m : Materialization) : List ObjectIdentity :=
  ((m.objects.map Prod.fst).dedup).insertionSort fun i j => i.text ≤ j.text

def acceptAssignment (a : Assignment) (m : Materialization) : AcceptedAssignment :=
  { deploymentID := a.deploymentID, projectID := a.projectID, generation := a.generation
    specDigest := a.specDigest, action := a.action, scope := a.scope
    sourceKind := a.source.kind, rendererKind := a.renderer.kind
    controlNamespace := m.controlNamespace, targetNamespace := m.targetNamespace
    objects := materializationIdentities m }

def AcceptedAssignment.boundary (a : AcceptedAssignment) : Boundary :=
  ⟨a.deploymentID, a.projectID, a.generation, a.specDigest, a.action, a.scope⟩

def AcceptedAssignment.materialization (a : AcceptedAssignment) : Materialization :=
  { controlNamespace := a.controlNamespace, targetNamespace := a.targetNamespace }

structure Checkpoint where
  snapshotGeneration : Int := 0
  snapshotETag : String := ""
  credentialEpoch : Int := 0
  assignments : List AcceptedAssignment := []

variable (c : Checkpoint)

def Checkpoint.accepted (deploymentID : String) : Option AcceptedAssignment :=
  c.assignments.find? (·.deploymentID = deploymentID)

def Checkpoint.insert (a : AcceptedAssignment) : Checkpoint :=
  { c with assignments := c.assignments.filter (·.deploymentID ≠ a.deploymentID) ++ [a] }

def Checkpoint.erase (deploymentID : String) : Checkpoint :=
  { c with assignments := c.assignments.filter (·.deploymentID ≠ deploymentID) }

def validateAcceptedAssignment (a : AcceptedAssignment) : Except Err Unit :=
  require (canonicalUUID a.deploymentID && canonicalUUID a.projectID &&
      decide (1 ≤ a.generation) && validDigest a.specDigest)
    "identity, generation, and spec digest are required"

def validateRecorded (a : AcceptedAssignment) (i : ObjectIdentity) : Except Err Unit := do
  require (i.name != "") "checkpoint assignment has an unnamed object"
  if i.kind = .namespaceKind then
    require (i.name == a.controlNamespace && i.namespaceName == "")
      "checkpoint assignment has an invalid Namespace fence"
  else validatePruneIdentity a.boundary a.materialization i

def validateCheckpoint : Except Err Unit := do
  require (decide (0 ≤ c.snapshotGeneration) && decide (0 ≤ c.credentialEpoch) &&
      (c.snapshotGeneration != 0 || c.snapshotETag == "") &&
      (decide (c.snapshotGeneration ≤ 0) || validDigest c.snapshotETag))
    "delivery checkpoint has invalid snapshot metadata"
  require (decide (c.assignments.length ≤ 10000)) "delivery checkpoint exceeds assignment limit"
  c.assignments.forM fun a => wrap ("checkpoint assignment \"" ++ a.deploymentID ++ "\"") do
    validateAcceptedAssignment a
    require (!a.objects.isEmpty && decide (a.objects.length ≤ 16)) "has an invalid object count"
    require (decide a.objects.Nodup) "has duplicate object"
    a.objects.forM (validateRecorded a)

inductive ObservationState where
  | current | stale | unsynced | denied | absent | disconnected | unavailable
  deriving DecidableEq

/-- `protocol.DeliveryObservation`. -/
structure Observation where
  state : ObservationState
  observedAt : Option Time
  deriving DecidableEq

/-- `protocol.DeliveryCondition`. -/
structure Condition where
  (type status reason message : String)
  observedGeneration : Int
  lastTransitionTime : Time
  deriving DecidableEq

/-- `protocol.DeliveryInventory`; a resource is its API version, kind, namespace and name. -/
structure Inventory where
  (entries ready failed : Int := 0)
  resources : List (String × String × String × String) := []
  deriving DecidableEq

/-- `protocol.DeliveryDeploymentStatusV2`. -/
structure DeploymentStatus where
  observation : Option Observation := none
  deploymentID : String
  generation : Int
  (specDigest phase : String)
  (observedRevision observedDigest : String := "")
  (sourceKind sourceName reconcilerKind reconcilerName : String := "")
  errorCode : String := ""
  warningCodes : List String := []
  message : String := ""
  conditions : List Condition := []
  inventory : Inventory := {}
  observedAt : Time
  deriving DecidableEq

def localFailureStatus (a : Assignment) (code : String) (now : Time) : DeploymentStatus :=
  { deploymentID := a.deploymentID, generation := a.generation, specDigest := a.specDigest
    phase := "failed", errorCode := code
    message := "The typed assignment could not be applied locally", observedAt := now }

def tombstoneStatus (t : Deletion) (phase : String) (now : Time) : DeploymentStatus :=
  { deploymentID := t.deploymentID, generation := t.generation, specDigest := t.specDigest
    phase := phase, observedAt := now
    errorCode := if phase == "failed" then "local_deletion_failed" else ""
    message := if phase == "failed" then
      "The deletion fence or Kubernetes operation failed" else "" }

structure Runtime where
  kube : Kube
  checkpoint : Checkpoint := {}
  stored : Checkpoint := {}
  saves : List Fault := []
  transient : List DeploymentStatus := []

structure Config where
  parsers : Parsers
  policy : ValidationPolicy
  cluster : Cluster
  system : Option (String → Except Err Bool) := none
  syncAssignmentSubscriptions : Checkpoint → Option Err := fun _ => none

section

variable (cfg : Config)

def onKube {α : Type} (x : Effect Kube Err α) : Effect Runtime Err (Except Err α) :=
  Effect.attempt Runtime.kube (fun r k => { r with kube := k }) x

def Runtime.setStatus (r : Runtime) (s : DeploymentStatus) : Runtime :=
  { r with transient := r.transient.filter (·.deploymentID ≠ s.deploymentID) ++ [s] }

def incomplete (s : DeploymentStatus) : Effect Runtime Err Bool := do
  Effect.modify (·.setStatus s)
  pure false

def save (c : Checkpoint) : Effect Runtime Err Unit := fun r =>
  match validateCheckpoint c with
  | .error err => (.error err, r)
  | .ok () =>
    match r.saves.head?.getD .none with
    | .none => (.ok (), { r with stored := c, saves := r.saves.tail })
    | .lost => (.error "save failed", { r with saves := r.saves.tail })
    | .applied => (.error "save failed", { r with stored := c, saves := r.saves.tail })

def regresses (a : Assignment) (accepted : AcceptedAssignment) : Bool :=
  decide (a.generation < accepted.generation) ||
    (a.generation == accepted.generation && a.specDigest != accepted.specDigest)

def processAssignment (now : Time) (a : Assignment) (m : Materialization) :
    Effect Runtime Err Bool := do
  let r ← Effect.get
  Effect.require (!(r.checkpoint.accepted a.deploymentID).any (regresses a))
    ("assignment \"" ++ a.deploymentID ++ "\" regresses or changes an accepted generation")
  match ← onKube (apply cfg.cluster m) with
  | .error _ => incomplete (localFailureStatus a "local_apply_failed" now)
  | .ok () =>
    match ← onKube (existing cfg.cluster a m) with
    | .error _ => incomplete (localFailureStatus a "local_inventory_failed" now)
    | .ok existing =>
      match planPrune a m existing with
      | .error _ => incomplete (localFailureStatus a "local_prune_refused" now)
      | .ok stale =>
        match ← onKube (prune cfg.cluster stale) with
        | .error _ => incomplete (localFailureStatus a "local_prune_failed" now)
        | .ok () => do
          Effect.modify fun r =>
            { r with
              checkpoint := r.checkpoint.insert (acceptAssignment a m)
              transient := r.transient.filter (·.deploymentID ≠ a.deploymentID) }
          pure true

def processAssignments (now : Time) : List (Assignment × Materialization) →
    Effect Runtime Err Bool
  | [] => pure true
  | (a, m) :: rest => do
    let done ← processAssignment cfg now a m
    let restDone ← processAssignments now rest
    pure (done && restDone)

def processDeletion (now : Time) (t : Deletion) : Effect Runtime Err Bool := do
  let r ← Effect.get
  match r.checkpoint.accepted t.deploymentID with
  | none => do
    Effect.modify (·.setStatus (tombstoneStatus t "removed" now))
    pure true
  | some accepted =>
    match ← onKube (beginDeletion cfg.cluster accepted.boundary t accepted.materialization
        accepted.objects) with
    | .error _ => incomplete (tombstoneStatus t "failed" now)
    | .ok false => incomplete (tombstoneStatus t "deleting" now)
    | .ok true => do
      Effect.modify fun r =>
        { r with checkpoint := r.checkpoint.erase t.deploymentID }.setStatus
          (tombstoneStatus t "removed" now)
      pure true

def processDeletions (now : Time) : List Deletion → Effect Runtime Err Bool
  | [] => pure true
  | t :: rest => do
    let done ← processDeletion cfg now t
    let restDone ← processDeletions now rest
    pure (done && restDone)

def reconcileSystem (release : Option String) : Except Err Unit :=
  match release with
  | none => .ok ()
  | some text => do
    let manager ← orError cfg.system
      "signed system release received without a configured system manager"
    let complete ← wrap "reconcile signed system release" (manager text)
    require complete "signed system release remains in progress"

def Checkpoint.refuses (s : Snapshot) : Bool :=
  decide (s.snapshotGeneration < c.snapshotGeneration) ||
    (s.snapshotGeneration == c.snapshotGeneration && c.snapshotETag != "" &&
      s.eTag != c.snapshotETag)

def Checkpoint.candidate (complete : Bool) (s : Snapshot) : Checkpoint :=
  if complete then
    { c with
      snapshotGeneration := s.snapshotGeneration, snapshotETag := s.eTag
      credentialEpoch := s.credentialEpoch }
  else c

def reconcileSnapshot (now : Time) (materializations : List (Assignment × Materialization))
    (deletions : List Deletion) : Effect Runtime Err Bool := do
  let applied ← processAssignments cfg now materializations
  let deleted ← processDeletions cfg now deletions
  pure (applied && deleted)

/-- The end of `processSnapshot`: statuses of deployments that are no longer desired go,
and the checkpoint is saved. -/
def finishSnapshot (s : Snapshot) (complete : Bool) : Effect Runtime Err Unit := do
  let desired := s.assignments.map (·.deploymentID) ++ s.deletions.map (·.deploymentID)
  Effect.modify fun r =>
    { r with transient := r.transient.filter fun t => desired.contains t.deploymentID }
  let r ← Effect.get
  save (r.checkpoint.candidate complete s)
  Effect.modify fun r => { r with checkpoint := r.checkpoint.candidate complete s }
  Effect.require complete "delivery snapshot remains in progress"

def materializations (capabilities : Capabilities) (s : Snapshot) :
    Except Err (List (Assignment × Materialization)) :=
  s.assignments.mapM fun a =>
    wrap ("precompute assignment \"" ++ a.deploymentID ++ "\"")
      ((a, ·) <$> buildAssignment cfg.parsers capabilities cfg.policy a)

def processSnapshotBody (now : Time) (s : Snapshot) (capabilities : Capabilities) :
    Effect Runtime Err Unit := do
  Effect.ofExcept (wrap "validate delivery snapshot"
    (validateSnapshot cfg.parsers capabilities cfg.policy s))
  let r ← Effect.get
  Effect.require (!r.checkpoint.refuses s)
    "delivery snapshot is stale or conflicts with the accepted generation"
  if s.notModified then pure ()
  else do
    let materializations ← Effect.ofExcept (materializations cfg capabilities s)
    Effect.ofExcept (reconcileSystem cfg s.system)
    let complete ← reconcileSnapshot cfg now materializations s.deletions
    finishSnapshot s complete

def joinErrors (result : Except Err Unit) (deferred : Option Err) : Except Err Unit :=
  match result, deferred with
  | x, none => x
  | .ok (), some err => .error err
  | .error err, some err' => .error (err ++ "\n" ++ err')

def processSnapshot (now : Time) (s : Snapshot) (capabilities : Capabilities) :
    Effect Runtime Err Unit := fun r =>
  let (result, r') := processSnapshotBody cfg now s capabilities r
  (joinErrors result (cfg.syncAssignmentSubscriptions r'.checkpoint), r')

/-! ## Runs of the agent -/

inductive Event where
  | snapshot (now : Time) (s : Snapshot) (capabilities : Capabilities) (faults : List Fault)
      (saves : List Fault)
  | finalize (id : ObjectIdentity)
  | restart

def Runtime.facing (r : Runtime) (faults saves : List Fault) : Runtime :=
  { r with kube := { r.kube with faults := faults }, saves := saves }

def Runtime.step (r : Runtime) : Event → Runtime
  | .snapshot now s capabilities faults saves =>
    (processSnapshot cfg now s capabilities (r.facing faults saves)).2
  | .finalize id =>
    { r with
      kube := { r.kube with objects := r.kube.objects.filter fun o => !(o.deleting && o.id = id) } }
  | .restart => { r with checkpoint := r.stored, transient := [] }

end

/-! ## One deployment -/

namespace OneDeployment

def deploymentID : String := "11111111-1111-4111-8111-111111111111"

def projectID : String := "22222222-2222-4222-8222-222222222222"

def digest : String := "sha256:aaaaaaaaaaaaaaaaaaaaaaaaaaaaaaaaaaaaaaaaaaaaaaaaaaaaaaaaaaaaaaaa"

def parsers : Parsers where
  parseURL url :=
    if url == "https://git.test/app" then some { scheme := "https", host := "git.test" } else none
  parseDuration text := if text == "1m" then some (60 * 10 ^ 9) else none
  validRFC3339 _ := false
  cleanPath path := path
  decodeJSON _ := none
  validYAML _ := true
  encodedLen _ := 1000
  canonicalETag _ := digest
  validSystem _ := true

def capabilities : Capabilities :=
  { sourceKinds := [.git], rendererKinds := [.kustomize]
    fluxAPIVersions := ["source.toolkit.fluxcd.io/v1", "kustomize.toolkit.fluxcd.io/v1"]
    namespaceScope := true, platformScope := true, noCrossNamespaceRefs := true
    noRemoteKustomizeBases := true }

def cfg : Config :=
  { parsers := parsers, policy := ⟨true⟩
    cluster := { served := fun _ => true, finalized := fun _ => false } }

def assignment (generation : Int) (scope : Scope) (target : String) : Assignment :=
  { deploymentID := deploymentID, targetID := projectID, projectID := projectID
    generation := generation, specDigest := digest, action := .apply, scope := scope
    source :=
      { kind := .git, url := "https://git.test/app"
        revision := "0123456789012345678901234567890123456789" }
    renderer :=
      { kind := .kustomize
        kustomize := some
          { targetNamespace := target, serviceAccount := (names projectID deploymentID).applier
            prune := true } }
    policy := { interval := "1m", timeout := "1m", prune := true } }

def snapshotOf (generation : Int) (a : Assignment) : Snapshot :=
  { protocolVersion := "2.0", snapshotGeneration := generation, eTag := digest
    fullSnapshot := true, assignments := [a] }

def snapshot (generation : Int) (a : Assignment) : Event :=
  .snapshot 0 (snapshotOf generation a) capabilities [] []

def fresh : Runtime := { kube := { objects := [] } }

end OneDeployment

end Astronomer.Agent
