import Astronomer.Base.ObjectStore
import Astronomer.Agent.Materializer

/-!
# The executor

`executor.go`: every Kubernetes call of workload delivery. The cluster is an object
store; which kinds its API server serves and which objects some controller holds
with a finalizer are the cluster's business and do not change.
-/

namespace Astronomer.Agent

structure Cluster where
  served : ResourceKind → Bool
  finalized : ObjectIdentity → Bool

abbrev Kube := Server ObjectIdentity Content

variable (cluster : Cluster)

def apiFailure (context : String) : Err := context ++ ": kubernetes API call failed"

def applyObject (object : Object) : Effect Kube Err Unit := do
  Effect.require (object.1.kind.namespaced == (object.1.namespaceName != ""))
    ("object " ++ object.1.text ++ " has an invalid namespace boundary")
  Server.call (fun os =>
    if cluster.served object.1.kind then (.ok (), Server.put object.1 object.2 os)
    else (.error (apiFailure ("apply " ++ object.1.text)), os))
    (apiFailure ("apply " ++ object.1.text))

def apply (m : Materialization) : Effect Kube Err Unit := do
  Effect.require (!m.objects.isEmpty) "delivery materialization is empty"
  Effect.each (applyObject cluster) m.objects

def listTargets (scope : Scope) (m : Materialization) : List (ResourceKind × String) :=
  [(.secret, m.controlNamespace), (.serviceAccount, m.controlNamespace),
   (.role, m.targetNamespace), (.roleBinding, m.targetNamespace),
   (.gitRepository, m.controlNamespace), (.ociRepository, m.controlNamespace),
   (.helmRepository, m.controlNamespace), (.kustomization, m.controlNamespace),
   (.helmRelease, m.controlNamespace)] ++
  (if scope = .platform then [(.clusterRoleBinding, "")] else [])

/-- The objects of one kind, in one namespace if the kind has namespaces, that carry
the labels of a deployment. -/
def selected (deploymentID : String) (target : ResourceKind × String)
    (os : List (Stored ObjectIdentity Content)) : List Object :=
  (os.filter fun o => o.id.kind = target.1 &&
    (!target.1.namespaced || o.id.namespaceName == target.2) &&
    o.content.managedFor deploymentID).map fun o => (o.id, o.content)

def listObjects (deploymentID : String) (target : ResourceKind × String) :
    Effect Kube Err (List Object) := do
  let page ← Server.call (fun os =>
      (.ok (if cluster.served target.1 then selected deploymentID target os else []), os))
    (apiFailure ("list in \"" ++ target.2 ++ "\""))
  Effect.require (decide (page.length ≤ 64))
    ("refusing unbounded prune candidate set in \"" ++ target.2 ++ "\"")
  pure page

def listAll (deploymentID : String) : List (ResourceKind × String) → Effect Kube Err (List Object)
  | [] => pure []
  | target :: targets => do
    let page ← listObjects cluster deploymentID target
    let rest ← listAll deploymentID targets
    pure (page ++ rest)

def existing (a : Assignment) (m : Materialization) : Effect Kube Err (List Object) :=
  listAll cluster a.deploymentID (listTargets a.scope m)

/-- `Executor.delete`; an object that is not there is deleted already. With foreground
propagation the object stays until its dependents are gone. -/
def deleteObject (context : String) (foreground : Bool) (i : ObjectIdentity) :
    Effect Kube Err Unit :=
  Server.call (fun os => (.ok (), Server.drop (foreground || cluster.finalized i) i os))
    (apiFailure (context ++ i.text))

def prune (ids : List ObjectIdentity) : Effect Kube Err Unit :=
  Effect.each (deleteObject cluster "prune " false) ids

/-! ## Deletion -/

def Content.suspended (c : Content) : Content :=
  { c with
    body := c.body.map fun e =>
      match e with
      | ("spec", .map spec) => ("spec", .map (spec.filter (·.1 != "suspend") ++
          [("suspend", .bool true)]))
      | other => other }

variable (b : Boundary)

def suspend (b : Boundary) (m : Materialization) (i : ObjectIdentity) : Effect Kube Err Unit := do
  Effect.ofExcept (wrap ("suspend orphaned " ++ i.text) (validatePruneIdentity b m i))
  Server.call (fun os => (.ok (), Server.edit i
      (fun o => { o with content := o.content.suspended }) os))
    (apiFailure ("suspend orphaned " ++ i.text))

def existsWithFence (i : ObjectIdentity) : Effect Kube Err Bool := do
  let found ← Server.call (fun os => (.ok (Server.find? i os), os))
    (apiFailure ("read deletion candidate " ++ i.text))
  match found with
  | none => pure false
  | some o => do
    Effect.require (o.content.managedFor b.deploymentID &&
        o.content.annotations.specDigest == b.specDigest &&
        o.content.annotations.generation == some b.generation)
      ("refusing deletion because object fence changed: " ++ i.text)
    pure true

def deletePresent (context : String) (foreground : Bool) (i : ObjectIdentity) :
    Effect Kube Err Bool := do
  let present ← existsWithFence b i
  if present then do
    deleteObject cluster context foreground i
    pure true
  else pure false

def deleteStage (b : Boundary) (context : String) (foreground : Bool) :
    List ObjectIdentity → Effect Kube Err Bool
  | [] => pure false
  | i :: ids => do
    let present ← deletePresent cluster b context foreground i
    let rest ← deleteStage b context foreground ids
    pure (present || rest)

def validateDeletionBoundary (tombstone : Deletion) : Except Err Unit :=
  require (tombstone.deploymentID == b.deploymentID && decide (b.generation < tombstone.generation))
    "deletion tombstone does not supersede the accepted assignment"

/-- `Executor.BeginDeletion`: true only when every recorded object is gone. The
reconciler goes first and alone, so that Flux can run its finalizer. -/
def beginDeletion (tombstone : Deletion) (m : Materialization) (recorded : List ObjectIdentity) :
    Effect Kube Err Bool := do
  Effect.ofExcept (validateDeletionBoundary b tombstone)
  if tombstone.orphan then do
    Effect.each (suspend b m) (recorded.filter fun i => i.kind.isReconciler || i.kind.isSource)
    pure true
  else do
    let ids := (sortDeleteOrder recorded).filter (·.kind ≠ .namespaceKind)
    Effect.each (fun i => Effect.ofExcept (validatePruneIdentity b m i)) ids
    let reconcilerPresent ← deleteStage cluster b "delete reconciler " true
      (ids.filter (·.kind.isReconciler))
    if reconcilerPresent then pure false
    else do
      let remaining ← deleteStage cluster b "delete " false (ids.filter (!·.kind.isReconciler))
      pure (!remaining)

end Astronomer.Agent
