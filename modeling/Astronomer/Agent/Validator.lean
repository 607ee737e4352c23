import Astronomer.Agent.Names

/-!
# What the agent accepts

`validator.go`: every assignment is checked against the capabilities of the local
controllers and the enrolment policy before anything is written to the cluster. A
zero `Capabilities` permits nothing.
-/

namespace Astronomer.Agent

open Delivery (trimSpace)

structure Capabilities where
  sourceKinds : List SourceKind := []
  rendererKinds : List RendererKind := []
  fluxAPIVersions : List String := []
  namespaceScope : Bool := false
  platformScope : Bool := false
  noCrossNamespaceRefs : Bool := false
  noRemoteKustomizeBases : Bool := false

structure ValidationPolicy where
  allowPlatformScope : Bool := false

def rendererBoundary (r : Renderer) : String × String :=
  match r.kustomize, r.helm with
  | some k, _ => (k.targetNamespace, k.serviceAccount)
  | none, some h => (h.targetNamespace, h.serviceAccount)
  | none, none => ("", "")

def Assignment.targetNamespace (a : Assignment) : String := (rendererBoundary a.renderer).1

def Assignment.names (a : Assignment) : ObjectNames := Agent.names a.projectID a.deploymentID

/-! ## Credentials -/

abbrev SecretData := List (String × List UInt8)

def SecretData.has (data : SecretData) (key : String) : Bool := data.any fun e => e.1 == key

def credentialKeyMap : List (String × String) :=
  [("identity", "identity"), ("known_hosts", "known_hosts"), ("username", "username"),
   ("password", "password"), ("bearerToken", "bearerToken"), ("ca.crt", "ca.crt"),
   ("tls.crt", "tls.crt"), ("tls.key", "tls.key"), ("certFile", "certFile"),
   ("keyFile", "keyFile"), ("caFile", "caFile"), ("dockerconfigjson", ".dockerconfigjson"),
   ("trust.cosign.pub", "cosign.pub"), ("trust.pgp.asc", "pgp.asc"),
   ("trust.notation.policy.json", "trustpolicy.json"), ("trust.notation.ca.pem", "ca.pem")]

def partitionCredential (credential : Option Credential) : Except Err (SecretData × SecretData) :=
  match credential with
  | none => .ok ([], [])
  | some c =>
    c.data.foldlM (fun (auth, trust) (key, value) => do
      let secretKey ← orError (credentialKeyMap.lookup key)
        ("credential key \"" ++ key ++ "\" is not an allowlisted Flux Secret key")
      pure (if hasPrefix key "trust." then (auth, trust ++ [(secretKey, value)])
        else (auth ++ [(secretKey, value)], trust))) ([], [])

def authenticationRule (kind : SourceKind) (scheme : String) (data : SecretData) :
    List String × Except Err Unit :=
  let both a b := data.has a == data.has b
  match kind with
  | .git =>
    if scheme == "ssh" then
      (["identity", "known_hosts", "password"],
        require (data.has "identity" && data.has "known_hosts")
          "authenticated SSH git sources require identity and known_hosts")
    else
      (["username", "password", "bearerToken", "ca.crt", "tls.crt", "tls.key"], do
        require (!(data.has "bearerToken" && (data.has "username" || data.has "password")))
          "git bearer and basic authentication cannot be combined"
        require (both "tls.crt" "tls.key")
          "git client TLS certificate and key must be supplied together")
  | .helmHTTP =>
    (["username", "password", "certFile", "keyFile", "caFile"],
      require (both "certFile" "keyFile")
        "Helm client TLS certificate and key must be supplied together")
  | .ociArtifact | .helmOCI =>
    (["username", "password", ".dockerconfigjson", "certFile", "keyFile", "caFile"], do
      require (!(data.has ".dockerconfigjson" && data.length != 1))
        "docker config authentication cannot be combined with other OCI keys"
      require (both "certFile" "keyFile")
        "OCI client TLS certificate and key must be supplied together")

variable (p : Parsers) (capabilities : Capabilities) (policy : ValidationPolicy) (a : Assignment)

def validateAuthenticationKeys (s : Source) (data : SecretData) : Except Err Unit :=
  if data.isEmpty then .ok ()
  else do
    let rule := authenticationRule s.kind (((p.parseURL s.url).map (·.scheme)).getD "") data
    rule.2
    require (data.all fun e => rule.1.contains e.1) "authentication key is unsupported"

/-! ## Sources -/

def validateSourceRendererPair : Except Err Unit :=
  match a.renderer.kind with
  | .kustomize => do
    require (a.source.kind == .git || a.source.kind == .ociArtifact)
      "kustomize renderer cannot consume this source kind"
    require (a.source.chart == "") "kustomize source cannot declare a Helm chart"
  | .helm => do
    require (a.source.kind == .helmHTTP || a.source.kind == .helmOCI)
      "helm renderer cannot consume this source kind"
    require (a.source.path == "") "helm source cannot declare a kustomize path"
    require (a.renderer.helm.any fun h =>
        a.source.chart == h.chart && a.source.revision == h.version)
      "helm renderer chart and version must equal the immutable resolved source"

def allowedProviders : SourceKind → List String
  | .git => ["", "generic", "azure", "github"]
  | .helmHTTP => ["", "generic"]
  | .ociArtifact | .helmOCI => ["", "generic", "aws", "azure", "gcp"]

def validateSecretReference (reference expected : String) (data : SecretData)
    (wrongName noData noReference : Err) : Except Err Unit :=
  if reference != "" then do
    require (reference == expected) wrongName
    require (!data.isEmpty) noData
  else require data.isEmpty noReference

def validateOCIVerification (s : Source) (v : Verify) (trust : SecretData) : Except Err Unit := do
  require (s.kind == .ociArtifact || s.kind == .helmOCI)
    "source verification is unsupported for this source kind"
  require (v.provider == "cosign" || v.provider == "notation")
    ("unsupported OCI verification provider \"" ++ v.provider ++ "\"")
  require (v.mode == "") "OCI verification does not accept a git verification mode"
  require (decide (v.oidcIdentities.length ≤ 16)) "OCI verification identity count exceeds 16"
  require (!(s.trustSecret == "" && v.oidcIdentities.isEmpty))
    "OCI verification requires trust keys or bounded OIDC identities"
  require (v.oidcIdentities.all fun i =>
      i.issuer != "" && i.subject != "" && decide (goLen i.issuer ≤ 2048) &&
        decide (goLen i.subject ≤ 2048))
    "OCI verification contains an invalid OIDC identity"
  if v.provider == "cosign" then do
    require (s.trustSecret == "" || (trust.length == 1 && trust.has "cosign.pub"))
      "cosign key verification requires exactly one cosign public key"
    require (s.trustSecret == "" || v.oidcIdentities.isEmpty)
      "cosign key and keyless OIDC verification cannot be combined"
  else do
    require (v.oidcIdentities.isEmpty && trust.has "trustpolicy.json" && decide (2 ≤ trust.length))
      "notation verification requires a trust policy and certificate material"
    require (trust.all fun e =>
        e.1 == "trustpolicy.json" || hasSuffix e.1 ".crt" || hasSuffix e.1 ".pem")
      "notation trust key is not a policy or certificate"

def validateSourcePolicy (n : ObjectNames) : Except Err Unit := do
  let s := a.source
  require ((allowedProviders s.kind).contains s.provider)
    ("provider \"" ++ s.provider ++ "\" is not supported for this source kind")
  let (auth, trust) ← partitionCredential a.credential
  validateSecretReference s.credentialSecret n.authSecret auth
    "credential Secret must be deterministic"
    "credential Secret reference has no authentication material"
    "authentication material has no credential Secret reference"
  validateAuthenticationKeys p s auth
  validateSecretReference s.trustSecret n.trustSecret trust
    "trust Secret must be deterministic"
    "trust Secret reference has no trust material"
    "trust material has no trust Secret reference"
  require (a.credential.isNone || decide (0 < auth.length + trust.length))
    "credential contains no recognized Flux Secret keys"
  match s.verify with
  | none => require (s.trustSecret == "") "trust Secret requires a source verification policy"
  | some v =>
    if s.kind = .git then
      require (v.provider == "pgp" && ["HEAD", "Tag", "TagAndHEAD"].contains v.mode &&
          s.trustSecret != "" && v.oidcIdentities.isEmpty && trust.length == 1 &&
          trust.has "pgp.asc")
        "git verification requires PGP trust and HEAD, Tag, or TagAndHEAD mode"
    else validateOCIVerification s v trust

/-! ## Renderers -/

def validDependencyName (s : String) : Bool :=
  s.toList.take 2 == ['d', '-'] && hexRun 32 (s.toList.drop 2)

def validateDependencies (names : List String) : Except Err Unit := do
  require (names.all validDependencyName)
    "dependency is not a deterministic workload deployment name"
  require (decide names.Nodup) "duplicate dependency"

def validSubstitutionKey (s : String) : Bool :=
  s.toList.head?.any (fun c => c.isAlpha || c == '_') &&
    s.toList.all fun c => c.isAlphanum || c == '_'

def validateKustomizeDetails (config : KustomizeRenderer) : Except Err Unit := do
  require (config.prune == a.policy.prune)
    "kustomize prune setting must equal the released reconciliation policy"
  require (decide (config.patches.length ≤ 256) && decide (config.substitutions.length ≤ 256) &&
      decide (config.healthChecks.length ≤ 256) && decide (config.dependencyNames.length ≤ 256))
    "kustomize renderer collection exceeds 256 entries"
  require (config.patches.all fun patch => trimSpace patch != "") "kustomize patch is empty"
  require (config.patches.all p.validYAML)
    "kustomize patch is not one valid YAML/JSON document"
  require (config.substitutions.all fun e =>
      validSubstitutionKey e.1 && decide (goLen e.2 ≤ 64 * 1024))
    "kustomize substitution is invalid"
  require (config.healthChecks.all fun h =>
      h.apiVersion != "" && h.kind != "" && h.name != "" &&
        decide (goLen h.apiVersion + goLen h.kind + goLen h.name ≤ 768))
    "kustomize health check is invalid"
  require (config.healthChecks.all fun h =>
      !(a.scope == .namespaced && h.namespaceName != "" && h.namespaceName != a.targetNamespace))
    "namespace-scoped health check escapes the target namespace"
  validateDependencies config.dependencyNames

def escapesChart (chart : String) : Bool :=
  (chart.toList.zip chart.toList.tail).any (· == ('.', '.')) || hasPrefix chart "/"

def validateHelmDetails (config : HelmRenderer) : Except Err Unit := do
  require (!escapesChart config.chart && decide (goLen config.chart ≤ 255) &&
      !escapesChart a.source.chart)
    "helm chart name is invalid"
  require (decide (0 ≤ config.installRetries) && decide (config.installRetries ≤ 30) &&
      decide (0 ≤ config.upgradeRetries) && decide (config.upgradeRetries ≤ 30))
    "helm remediation retries must be between zero and 30"
  require (config.upgradeRemediation == "rollback" || config.upgradeRemediation == "uninstall")
    "helm upgrade remediation must be rollback or uninstall"
  require (["enabled", "warn", "disabled"].contains config.driftMode)
    "helm drift mode must be enabled, warn, or disabled"
  require (decide (config.dependencyNames.length ≤ 256))
    "helm dependency collection exceeds 256 entries"
  validateDependencies config.dependencyNames

def validateDuration (label value : String) : Except Err Unit :=
  require ((p.parseDuration value).any fun d =>
      decide (5 * 10 ^ 9 ≤ d) && decide (d ≤ 24 * 3600 * 10 ^ 9))
    (label ++ " must be between 5s and 24h")

def validateRendererDetails : Except Err Unit := do
  match a.renderer.kind with
  | .kustomize => (a.renderer.kustomize.map (validateKustomizeDetails p a)).getD (.ok ())
  | .helm => (a.renderer.helm.map (validateHelmDetails a)).getD (.ok ())
  validateDuration p "interval" a.policy.interval
  validateDuration p "timeout" a.policy.timeout
  if a.policy.retryInterval == "" then pure ()
  else validateDuration p "retry interval" a.policy.retryInterval

def requiredFluxAPIVersions : List String :=
  ["source.toolkit.fluxcd.io/v1",
    if a.renderer.kind = .kustomize then "kustomize.toolkit.fluxcd.io/v1"
    else "helm.toolkit.fluxcd.io/v2"]

/-! ## Assignments and snapshots -/

def validateAssignment : Except Err Unit := do
  wrap "protocol assignment" (a.validate p)
  require (capabilities.sourceKinds.contains a.source.kind)
    "source kind is not advertised by this agent"
  require (capabilities.rendererKinds.contains a.renderer.kind)
    "renderer is not advertised by this agent"
  require (!(a.scope == .namespaced && !capabilities.namespaceScope))
    "namespace-scoped delivery is not advertised by this agent"
  require (!(a.scope == .platform && (!capabilities.platformScope || !policy.allowPlatformScope)))
    "platform-scoped delivery lacks capability or explicit authorization"
  require (a.targetNamespace != "astronomer-delivery-system" &&
      !hasPrefix a.targetNamespace "astronomer-delivery-p-")
    ("target namespace \"" ++ a.targetNamespace ++ "\" is reserved for delivery control resources")
  require ((rendererBoundary a.renderer).2 == a.names.applier)
    ("renderer service account must be deterministic \"" ++ a.names.applier ++ "\"")
  validateSourceRendererPair a
  validateSourcePolicy p a a.names
  validateRendererDetails p a
  require ((requiredFluxAPIVersions a).all capabilities.fluxAPIVersions.contains)
    "required Flux API is not advertised by this agent"

def validateSnapshotEntry (total i : Nat) (a : Assignment) : Except Err Nat := do
  require (decide (p.encodedLen a ≤ 16 * 1024 * 1024))
    ("assignment " ++ toString i ++ " exceeds 16777216-byte materialization limit")
  require (decide (total + p.encodedLen a ≤ 64 * 1024 * 1024))
    "snapshot exceeds 67108864-byte materialization limit"
  wrap ("assignment " ++ toString i) (validateAssignment p capabilities policy a)
  pure (total + p.encodedLen a)

def validateSnapshot (s : Snapshot) : Except Err Unit := do
  wrap "protocol snapshot" (s.validate p)
  if s.notModified then pure ()
  else do
    require (capabilities.noCrossNamespaceRefs && capabilities.noRemoteKustomizeBases)
      "delivery controllers lack required cross-namespace or remote-base isolation"
    let _ ← s.assignments.zipIdx.foldlM (fun total (a, i) =>
      validateSnapshotEntry p capabilities policy total i a) 0

end Astronomer.Agent
