import Mathlib.Data.List.Sort
import Astronomer.Agent.Validator

/-!
# From an assignment to Kubernetes objects

`materializer.go`: the complete, ordered object graph of one assignment, and which
of the objects already on the cluster a new graph makes stale. Nothing here talks
to Kubernetes.
-/

namespace Astronomer.Agent

inductive ResourceKind where
  | namespaceKind | secret | serviceAccount | role | roleBinding | clusterRoleBinding
  | gitRepository | ociRepository | helmRepository | kustomization | helmRelease
  deriving DecidableEq

def ResourceKind.gvk : ResourceKind → String × String × String
  | .namespaceKind => ("", "v1", "Namespace")
  | .secret => ("", "v1", "Secret")
  | .serviceAccount => ("", "v1", "ServiceAccount")
  | .role => ("rbac.authorization.k8s.io", "v1", "Role")
  | .roleBinding => ("rbac.authorization.k8s.io", "v1", "RoleBinding")
  | .clusterRoleBinding => ("rbac.authorization.k8s.io", "v1", "ClusterRoleBinding")
  | .gitRepository => ("source.toolkit.fluxcd.io", "v1", "GitRepository")
  | .ociRepository => ("source.toolkit.fluxcd.io", "v1", "OCIRepository")
  | .helmRepository => ("source.toolkit.fluxcd.io", "v1", "HelmRepository")
  | .kustomization => ("kustomize.toolkit.fluxcd.io", "v1", "Kustomization")
  | .helmRelease => ("helm.toolkit.fluxcd.io", "v2", "HelmRelease")

def ResourceKind.namespaced : ResourceKind → Bool
  | .namespaceKind | .clusterRoleBinding => false
  | _ => true

def ResourceKind.isReconciler : ResourceKind → Bool
  | .kustomization | .helmRelease => true
  | _ => false

def ResourceKind.isSource : ResourceKind → Bool
  | .gitRepository | .ociRepository | .helmRepository => true
  | _ => false

structure ObjectIdentity where
  kind : ResourceKind
  (namespaceName name : String)
  deriving DecidableEq

def ObjectIdentity.text (i : ObjectIdentity) : String :=
  let (group, version, kind) := i.kind.gvk
  (if group == "" then "core" else group) ++ "/" ++ version ++ ", Kind=" ++ kind ++ " " ++
    i.namespaceName ++ "/" ++ i.name

structure Labels where
  managedBy : String := ""
  deploymentID : String := ""
  projectIDHash : String := ""

structure Annotations where
  specDigest : String := ""
  configurationDigest : String := ""
  generation : Option Int := none

structure Content where
  labels : Labels
  annotations : Annotations := {}
  body : List (String × Value) := []

abbrev Object := ObjectIdentity × Content

def managedByValue : String := "astronomer-agent"

def Content.managedFor (c : Content) (deploymentID : String) : Bool :=
  c.labels.managedBy == managedByValue && c.labels.deploymentID == deploymentID

structure Materialization where
  (controlNamespace targetNamespace : String)
  objects : List Object := []

/-! ## The objects of an assignment -/

variable (a : Assignment)

def managedObject (kind : ResourceKind) (namespaceName name : String)
    (body : List (String × Value)) : Object :=
  (⟨kind, namespaceName, name⟩,
    { labels :=
        { managedBy := managedByValue, deploymentID := a.deploymentID
          projectIDHash := projectHash a.projectID }
      annotations :=
        { specDigest := a.specDigest, configurationDigest := a.configurationDigest
          generation := some a.generation }
      body := body })

def projectNamespace : Object :=
  (⟨.namespaceKind, "", a.names.controlNamespace⟩,
    { labels := { managedBy := managedByValue, projectIDHash := projectHash a.projectID } })

def secretObject (name : String) (data : SecretData) : Object :=
  managedObject a .secret a.names.controlNamespace name
    [("type", .str (if data.length == 1 && data.has ".dockerconfigjson"
        then "kubernetes.io/dockerconfigjson" else "Opaque")),
     ("data", .map (data.map fun e => (e.1, .bytes e.2)))]

def serviceAccountObject : Object :=
  managedObject a .serviceAccount a.names.controlNamespace a.names.applier
    [("automountServiceAccountToken", .bool false)]

def strings (ss : List String) : Value := .list (ss.map .str)

def workloadVerbs : Value :=
  strings ["create", "delete", "deletecollection", "get", "list", "patch", "update", "watch"]

def workloadRule (group : String) (resources : List String) : Value :=
  .map [("apiGroups", strings [group]), ("resources", strings resources), ("verbs", workloadVerbs)]

def namespaceRoleObject : Object :=
  managedObject a .role a.targetNamespace a.names.applier
    [("rules", .list
      [workloadRule "" ["configmaps", "endpoints", "events", "persistentvolumeclaims", "pods",
         "pods/log", "secrets", "services"],
       workloadRule "apps" ["daemonsets", "deployments", "replicasets", "statefulsets",
         "controllerrevisions"],
       workloadRule "batch" ["cronjobs", "jobs"],
       workloadRule "autoscaling" ["horizontalpodautoscalers"],
       workloadRule "networking.k8s.io" ["ingresses", "networkpolicies"],
       workloadRule "policy" ["poddisruptionbudgets"],
       workloadRule "coordination.k8s.io" ["leases"],
       workloadRule "discovery.k8s.io" ["endpointslices"]])]

def bindingBody (roleKind roleName : String) : List (String × Value) :=
  [("roleRef", .map [("apiGroup", .str "rbac.authorization.k8s.io"), ("kind", .str roleKind),
      ("name", .str roleName)]),
   ("subjects", .list [.map [("kind", .str "ServiceAccount"), ("name", .str a.names.applier),
      ("namespace", .str a.names.controlNamespace)]])]

def namespaceRoleBindingObject : Object :=
  managedObject a .roleBinding a.targetNamespace a.names.applier
    (bindingBody a "Role" a.names.applier)

def platformRoleBindingObject : Object :=
  managedObject a .clusterRoleBinding "" a.names.applier
    (bindingBody a "ClusterRole" "astronomer-delivery-platform-applier")

def nameRef (name : String) : Value := .map [("name", .str name)]

def optional (c : Bool) (key : String) (v : Value) : List (String × Value) :=
  if c then [(key, v)] else []

def ociVerification : List (String × Value) :=
  match a.source.verify with
  | none => []
  | some v =>
    [("verify", .map ([("provider", .str v.provider)] ++
      optional (a.source.trustSecret != "") "secretRef" (nameRef a.names.trustSecret) ++
      optional (!v.oidcIdentities.isEmpty) "matchOIDCIdentity"
        (.list (v.oidcIdentities.map fun i =>
          .map [("issuer", .str i.issuer), ("subject", .str i.subject)]))))]

/-- The Secret references of an OCI source (`setOCICredentialReferences`): a Secret
with TLS entries is the certificate Secret too, and is the login Secret only with
login entries. Without credential material the reference stays as it is. -/
def ociSecretReferences : List (String × Value) :=
  let secretRef := optional (a.source.credentialSecret != "") "secretRef"
    (nameRef a.names.authSecret)
  match a.credential with
  | none => secretRef
  | some c =>
    let has (keys : List String) := c.data.any fun e => keys.contains e.1
    (if has ["username", "password", ".dockerconfigjson"] then secretRef else []) ++
      optional (has ["caFile", "certFile", "keyFile"]) "certSecretRef" (nameRef a.names.authSecret)

def commonSourceSpec (url : String) : List (String × Value) :=
  [("interval", .str a.policy.interval), ("url", .str url),
   ("suspend", .bool (a.action == .suspend))] ++
    optional (a.source.provider != "" && a.source.provider != "generic") "provider"
      (.str a.source.provider)

def chartURL (url chart : String) : String :=
  (if hasSuffix url "/" then String.ofList url.toList.dropLast else url) ++ "/" ++
    (if hasPrefix chart "/" then String.ofList (chart.toList.drop 1) else chart)

def sourceResource : SourceKind → ResourceKind
  | .git => .gitRepository
  | .helmHTTP => .helmRepository
  | .ociArtifact | .helmOCI => .ociRepository

def sourceSpec : List (String × Value) :=
  let s := a.source
  let secretRef := optional (s.credentialSecret != "") "secretRef" (nameRef a.names.authSecret)
  match s.kind with
  | .git =>
    commonSourceSpec a s.url ++ secretRef ++ [("ref", .map [("commit", .str s.revision)])] ++
      (match s.verify with
       | some v => [("verify", .map [("mode", .str v.mode),
           ("secretRef", nameRef a.names.trustSecret)])]
       | none => [])
  | .ociArtifact =>
    commonSourceSpec a s.url ++ ociSecretReferences a ++
      [("ref", .map [("digest", .str s.digest)])] ++ ociVerification a
  | .helmHTTP => commonSourceSpec a s.url ++ secretRef
  | .helmOCI =>
    commonSourceSpec a (chartURL s.url s.chart) ++ ociSecretReferences a ++
      [("ref", .map [("digest", .str s.digest)])] ++ ociVerification a

def sourceObject : Object :=
  managedObject a (sourceResource a.source.kind) a.names.controlNamespace a.names.source
    [("spec", .map (sourceSpec a))]

def sourceKindName : SourceKind → String
  | .git => "GitRepository"
  | .helmHTTP => "HelmRepository"
  | .ociArtifact | .helmOCI => "OCIRepository"

def fluxPath (path : String) : String :=
  let rest := if hasPrefix path "./" then String.ofList (path.toList.drop 2) else path
  if rest == "" || rest == "." then "./" else "./" ++ rest

def dependencies (names : List String) : List (String × Value) :=
  optional (!names.isEmpty) "dependsOn" (.list (names.map nameRef))

def kustomizationSpec (config : KustomizeRenderer) : List (String × Value) :=
  [("interval", .str a.policy.interval), ("timeout", .str a.policy.timeout),
   ("path", .str (fluxPath a.source.path)), ("prune", .bool config.prune),
   ("wait", .bool config.wait), ("serviceAccountName", .str a.names.applier),
   ("sourceRef", .map [("kind", .str (sourceKindName a.source.kind)),
     ("name", .str a.names.source)]),
   ("suspend", .bool (a.action == .suspend)),
   ("targetNamespace", .str config.targetNamespace)] ++
  optional (a.policy.retryInterval != "") "retryInterval" (.str a.policy.retryInterval) ++
  optional (!config.patches.isEmpty) "patches"
    (.list (config.patches.map fun patch => .map [("patch", .str patch)])) ++
  optional (!config.substitutions.isEmpty) "postBuild"
    (.map [("substitute", .map (config.substitutions.map fun e => (e.1, .str e.2)))]) ++
  optional (!config.healthChecks.isEmpty) "healthChecks"
    (.list (config.healthChecks.map fun h =>
      .map ([("apiVersion", .str h.apiVersion), ("kind", .str h.kind), ("name", .str h.name)] ++
        optional (h.namespaceName != "") "namespace" (.str h.namespaceName)))) ++
  dependencies config.dependencyNames

def helmReleaseSpec (config : HelmRenderer) (values : Option Value) : List (String × Value) :=
  [("interval", .str a.policy.interval), ("timeout", .str a.policy.timeout),
   ("releaseName", .str config.releaseName), ("targetNamespace", .str config.targetNamespace),
   ("serviceAccountName", .str a.names.applier), ("suspend", .bool (a.action == .suspend)),
   ("install", .map [("createNamespace", .bool true),
     ("remediation", .map [("retries", .int config.installRetries)])]),
   ("upgrade", .map [("remediation", .map [("retries", .int config.upgradeRetries),
     ("strategy", .str config.upgradeRemediation)])]),
   ("test", .map [("enable", .bool config.enableTests)]),
   ("driftDetection", .map [("mode", .str config.driftMode)])] ++
  (if a.source.kind = .helmOCI then
    [("chartRef", .map [("kind", .str "OCIRepository"), ("name", .str a.names.source)])]
   else
    [("chart", .map
      [("metadata",
        .map [("labels", .map [("app.kubernetes.io/managed-by", .str managedByValue)])]),
       ("spec", .map [("chart", .str config.chart), ("version", .str config.version),
         ("sourceRef",
          .map [("kind", .str "HelmRepository"), ("name", .str a.names.source)])])])]) ++
  (match values with
   | some v => [("values", v)]
   | none => []) ++
  optional (!config.valueSecretRefs.isEmpty) "valuesFrom"
    (.list (config.valueSecretRefs.map fun ref =>
      .map [("kind", .str "Secret"), ("name", .str ref.name), ("valuesKey", .str ref.key),
        ("targetPath", .str ref.targetPath)])) ++
  dependencies config.dependencyNames

def decodeValues (p : Parsers) (config : HelmRenderer) : Except Err (Option Value) :=
  if config.values == "" then .ok none
  else some <$> orError (p.decodeJSON config.values) "decode Helm values"

/-- `reconcilerObject`. A renderer whose configuration is missing never gets here:
`Renderer.validate` refuses it. -/
def reconcilerObject (p : Parsers) (a : Assignment) : Except Err Object :=
  match a.renderer.kind with
  | .kustomize => do
    let config ← orError a.renderer.kustomize "nil kustomize configuration"
    pure (managedObject a .kustomization a.names.controlNamespace a.names.base
      [("spec", .map (kustomizationSpec a config))])
  | .helm => do
    let config ← orError a.renderer.helm "nil helm configuration"
    let values ← decodeValues p config
    pure (managedObject a .helmRelease a.names.controlNamespace a.names.base
      [("spec", .map (helmReleaseSpec a config values))])

def renameTLSEntries (kind : SourceKind) (auth : SecretData) : SecretData :=
  if kind = .helmOCI || kind = .ociArtifact then
    auth.map fun e =>
      (([("caFile", "ca.crt"), ("certFile", "tls.crt"), ("keyFile", "tls.key")].lookup e.1).getD
        e.1, e.2)
  else auth

def secretFor (name : String) (data : SecretData) : List Object :=
  if data.isEmpty then [] else [secretObject a name data]

def scopeObjects : List Object :=
  match a.scope with
  | .namespaced => [namespaceRoleObject a, namespaceRoleBindingObject a]
  | .platform => [platformRoleBindingObject a]

def buildAssignment (p : Parsers) (capabilities : Capabilities) (policy : ValidationPolicy)
    (a : Assignment) : Except Err Materialization := do
  validateAssignment p capabilities policy a
  let (auth, trust) ← partitionCredential a.credential
  let reconciler ← reconcilerObject p a
  pure
    { controlNamespace := a.names.controlNamespace
      targetNamespace := a.targetNamespace
      objects := [projectNamespace a] ++
        secretFor a a.names.authSecret (renameTLSEntries a.source.kind auth) ++
        secretFor a a.names.trustSecret trust ++ [serviceAccountObject a] ++ scopeObjects a ++
        [sourceObject a, reconciler] }

/-! ## Prune -/

structure Boundary where
  (deploymentID projectID : String)
  generation : Int
  specDigest : String
  action : Action
  scope : Scope

def Assignment.boundary (a : Assignment) : Boundary :=
  ⟨a.deploymentID, a.projectID, a.generation, a.specDigest, a.action, a.scope⟩

def prunable (scope : Scope) : ResourceKind → Bool
  | .namespaceKind => false
  | .clusterRoleBinding => scope == .platform
  | _ => true

def validatePruneIdentity (b : Boundary) (m : Materialization) (i : ObjectIdentity) :
    Except Err Unit := do
  require (prunable b.scope i.kind) ("refusing to prune unexpected managed kind " ++ i.text)
  require ((names b.projectID b.deploymentID).ofDeployment.contains i.name)
    ("refusing to prune unexpected managed name " ++ i.text)
  if i.namespaceName == "" then
    require (b.scope == .platform && i.kind == .clusterRoleBinding &&
        i.name == (names b.projectID b.deploymentID).applier)
      ("refusing to prune unexpected cluster-scoped object " ++ i.text)
  else do
    require (i.namespaceName == m.controlNamespace || i.namespaceName == m.targetNamespace)
      ("refusing to prune object outside assignment namespaces: " ++ i.text)
    require (!(i.namespaceName == m.targetNamespace && i.kind != .role && i.kind != .roleBinding))
      ("refusing to prune non-RBAC object from workload namespace: " ++ i.text)

def deleteRank : ResourceKind → Nat
  | .kustomization | .helmRelease => 0
  | .gitRepository | .ociRepository | .helmRepository => 1
  | .roleBinding | .clusterRoleBinding => 2
  | .role => 3
  | .secret => 4
  | .serviceAccount => 5
  | .namespaceKind => 100

def deleteBefore (i j : ObjectIdentity) : Prop :=
  deleteRank i.kind < deleteRank j.kind ∨
    (deleteRank i.kind = deleteRank j.kind ∧ i.text ≤ j.text)
deriving Decidable

def sortDeleteOrder (ids : List ObjectIdentity) : List ObjectIdentity :=
  ids.insertionSort deleteBefore

def staleCandidate (a : Assignment) (m : Materialization) (candidate : Object) :
    Except Err Bool := do
  if !candidate.2.managedFor a.deploymentID then pure false
  else do
    require (candidate.2.labels.projectIDHash == projectHash a.projectID)
      ("managed prune candidate " ++ candidate.1.text ++ " has a mismatched project boundary")
    if m.objects.any fun o => o.1 = candidate.1 then pure false
    else do
      validatePruneIdentity a.boundary m candidate.1
      pure true

def planPrune (a : Assignment) (m : Materialization) (existing : List Object) :
    Except Err (List ObjectIdentity) := do
  let stale ← existing.foldlM (fun stale candidate => do
    let isStale ← staleCandidate a m candidate
    pure (if isStale then stale ++ [candidate.1] else stale)) []
  pure (sortDeleteOrder stale)

end Astronomer.Agent
