import Mathlib.Data.List.Sort
import Mathlib.Data.String.Basic
import Astronomer.Agent.Names

/-!
# Building a delivery snapshot

`internal/delivery/provider`: `build` reads the desired deployments of a cluster and makes the
response and the two digests that number it; `hydrateCredentials` adds the secrets afterwards,
so that no digest covers them. Decoding and hashing are the `Library`.
-/

namespace Astronomer.DeliveryProvider

open List Agent

abbrev Bytes := List UInt8

structure Sealed where
  keyID : String := ""
  algorithm : String := ""
  ciphertext : Bytes := []
  nonce : Bytes := []

def Sealed.isZero (s : Sealed) : Bool :=
  s.keyID == "" && s.algorithm == "" && s.ciphertext.isEmpty

/-! ## The rows -/

inductive RowAction where
  | apply | suspend | delete
  deriving DecidableEq

def RowAction.onWire : RowAction → Option Action
  | .apply => some .apply
  | .suspend => some .suspend
  | .delete => none

inductive AuthMode where
  | none | basic | bearer | ssh | workloadIdentity
  deriving DecidableEq

structure AssignmentRow where
  (id targetID clusterID projectID sourceID : String)
  action : RowAction
  removed : Bool := false
  desiredGeneration : Int
  desiredSpecDigest : String
  desiredConfigurationDigest : Option String := none
  desiredOverrides : String
  renderer : RendererKind
  (rendererSpec reconciliationPolicy trustPolicy : String)
  scope : Scope
  sourceType : SourceKind
  (url resolvedRevision artifactDigest : String)
  authMode : AuthMode
  credentialEpoch : Int
  credential : Sealed := {}
  caBundle : Sealed := {}

structure SystemReleaseRow where
  release : String
  credentialEpoch : Int
  registryCredential : Sealed := {}

/-! ## What the stored texts decode to -/

structure KustomizeSpec where
  (path targetNamespace : String)
  patches : List String := []

structure HelmSpec where
  (chart chartVersion releaseName targetNamespace : String)
  values : String := ""
  valueSecretRefs : List ValueSecretRef := []
  installRetries : Nat := 0
  upgradeRetries : Nat := 0
  test : Bool := false

structure RendererSpec where
  kind : RendererKind
  kustomize : Option KustomizeSpec := none
  helm : Option HelmSpec := none

structure TargetOverrides where
  helmValues : String := ""
  patches : List String := []

inductive DriftPolicy where
  | ignore | detect | repair

structure ReconciliationPolicy where
  (interval retryInterval timeout : Int)
  (prune wait : Bool)
  drift : DriftPolicy

inductive SignatureProvider where
  | unset | cosignKey | cosignKeyless | git
  deriving DecidableEq

structure TrustPolicy where
  allowUnsigned : Bool
  provider : SignatureProvider := .unset
  identity : String := ""
  issuer : String := ""
  keyRef : String := ""

structure Canonical where
  protocolVersion : String
  (snapshotGeneration credentialEpoch : Int)
  system : Option String
  assignments : List Assignment
  deletions : List Deletion
  deriving DecidableEq

def byDeployment {α : Type} (idOf : α → String) (xs : List α) : List α :=
  xs.insertionSort fun x y => idOf x ≤ idOf y

def metadata (a : Assignment) : Assignment := { a with credential := none }

def canonical (s : Snapshot) : Canonical :=
  { protocolVersion := s.protocolVersion
    snapshotGeneration := s.snapshotGeneration
    credentialEpoch := s.credentialEpoch
    system := s.system
    assignments := byDeployment Assignment.deploymentID (s.assignments.map metadata)
    deletions := byDeployment Deletion.deploymentID s.deletions }

structure CredentialGeneration where
  deploymentID : String
  epoch : Int
  publicCA : String := ""
  publicSigner : String := ""

/-- The library functions behind the provider: strict JSON decoding with the checks of
package `model`, the hashes, and the decryptor. -/
structure Library where
  parsers : Parsers
  digest : Canonical → String
  etag_eq : ∀ s, parsers.canonicalETag s = digest (canonical s)
  credentialDigest : List CredentialGeneration → Int → String
  decodeRenderer : String → Except Err RendererSpec
  validateRenderer : RendererSpec → Except Err Unit
  decodeOverrides : String → Except Err TargetOverrides
  validateOverrides : TargetOverrides → Except Err Unit
  decodePolicy : String → Except Err ReconciliationPolicy
  validatePolicy : ReconciliationPolicy → Except Err Unit
  decodeTrust : String → Except Err TrustPolicy
  validateTrust : TrustPolicy → Except Err Unit
  mergeHelmValues : String → String → Except Err String
  durationText : Int → String
  systemRelease : String → Except Err String
  decrypt : Option (Sealed → Except Err Bytes)
  decodeValues : Bytes → Except Err (List (String × Bytes))
  validJSON : Bytes → Bool
  validateInventory : String → Except Err Unit

/-- The provider's own material, and whether the catalog approves of an assignment is
asked of `authorizeBuiltinCA` at every build. -/
structure Provider extends Library where
  builtinCA : Bytes := []
  builtinCAIdentity : String := ""
  builtinSigningKey : Bytes := []
  builtinSigningKeyRef : String := ""
  builtinSigningIdentity : String := ""

abbrev Authorizer := AssignmentRow → Assignment → Except Err Bool

/-! ## An assignment -/

def verification (trust : TrustPolicy) : Verify :=
  { provider := if trust.provider = .git then "pgp" else "cosign"
    mode := if trust.provider = .git then "HEAD" else ""
    oidcIdentities :=
      if trust.provider = .cosignKeyless then [⟨trust.issuer, trust.identity⟩] else [] }

def driftMode : DriftPolicy → String
  | .repair => "enabled"
  | .detect => "warn"
  | .ignore => "disabled"

def trimDotSlash (path : String) : String :=
  if hasPrefix path "./" then String.ofList (path.toList.drop 2) else path

/-- The switch over the renderer: the path and the chart of the source, and the renderer.
`Validate` has made sure that the pointer of the kind is set. -/
def compileRenderer (lib : Library) (row : AssignmentRow) (renderer : RendererSpec)
    (overrides : TargetOverrides) (policy : ReconciliationPolicy) :
    Except Err (String × String × Renderer) :=
  let n := names row.projectID row.id
  match renderer.kind with
  | .kustomize => do
    require (overrides.helmValues == "")
      "helm values overrides cannot be applied by a kustomize renderer"
    let k ← orError renderer.kustomize "invalid memory address or nil pointer dereference"
    pure (trimDotSlash k.path, "",
      { kind := .kustomize
        kustomize := some
          { targetNamespace := k.targetNamespace, serviceAccount := n.applier
            prune := policy.prune, wait := policy.wait
            patches := k.patches ++ overrides.patches } })
  | .helm => do
    require overrides.patches.isEmpty "kubernetes patches cannot be applied by a helm renderer"
    let h ← orError renderer.helm "invalid memory address or nil pointer dereference"
    let values ← wrap "merge frozen helm values overrides"
      (lib.mergeHelmValues h.values overrides.helmValues)
    pure ("", h.chart,
      { kind := .helm
        helm := some
          { chart := h.chart, version := h.chartVersion, releaseName := h.releaseName
            targetNamespace := h.targetNamespace, serviceAccount := n.applier
            values := values, valueSecretRefs := h.valueSecretRefs
            installRetries := h.installRetries, upgradeRetries := h.upgradeRetries
            upgradeRemediation := "rollback", enableTests := h.test
            driftMode := driftMode policy.drift } })

def compileAssignmentMetadata (lib : Library) (row : AssignmentRow) : Except Err Assignment := do
  let renderer ← wrap "decode renderer" (lib.decodeRenderer row.rendererSpec)
  wrap "validate renderer" (lib.validateRenderer renderer)
  require (renderer.kind == row.renderer) "renderer column and immutable renderer spec disagree"
  let overrides ← wrap "decode frozen target overrides" (lib.decodeOverrides row.desiredOverrides)
  wrap "validate frozen target overrides" (lib.validateOverrides overrides)
  let policy ← wrap "decode reconciliation policy" (lib.decodePolicy row.reconciliationPolicy)
  wrap "validate reconciliation policy" (lib.validatePolicy policy)
  let trust ← wrap "decode trust policy" (lib.decodeTrust row.trustPolicy)
  wrap "validate trust policy" (lib.validateTrust trust)
  let n := names row.projectID row.id
  let (path, chart, rendered) ← compileRenderer lib row renderer overrides policy
  let action ← orError row.action.onWire "unsupported action \"delete\""
  let assignment : Assignment :=
    { deploymentID := row.id, targetID := row.targetID, projectID := row.projectID
      generation := row.desiredGeneration, specDigest := row.desiredSpecDigest
      configurationDigest := row.desiredConfigurationDigest.getD ""
      action := action, scope := row.scope
      source :=
        { kind := row.sourceType, url := row.url
          revision := if row.sourceType = .ociArtifact then row.artifactDigest
            else row.resolvedRevision
          digest := row.artifactDigest, path := path, chart := chart
          verify := if trust.allowUnsigned then none else some (verification trust)
          credentialSecret :=
            if row.authMode ≠ .none ∨ row.caBundle.keyID ≠ "" then n.authSecret else ""
          trustSecret :=
            if trust.allowUnsigned = false ∧ trust.keyRef ≠ "" then n.trustSecret else "" }
      renderer := rendered
      policy :=
        { interval := lib.durationText policy.interval
          retryInterval := lib.durationText policy.retryInterval
          timeout := lib.durationText policy.timeout, prune := policy.prune } }
  assignment.validate lib.parsers
  pure assignment

/-! ## Public trust -/

def builtinCAEligible (row : AssignmentRow) : Bool :=
  row.scope == .platform && row.sourceType == .helmOCI && row.authMode == .none &&
    row.credential.keyID == "" && row.caBundle.keyID == ""

variable (p : Provider) (authorize : Authorizer)

def builtinSigningPolicyMatches (row : AssignmentRow) : Bool :=
  match p.decodeTrust row.trustPolicy with
  | .ok trust => trust.provider == .cosignKey && trust.keyRef == p.builtinSigningKeyRef &&
      !trust.allowUnsigned
  | .error _ => false

def applyBuiltinCAMetadata (row : AssignmentRow) (assignment : Assignment) :
    Except Err (Assignment × String) :=
  if p.builtinCA.isEmpty || !builtinCAEligible row then .ok (assignment, "")
  else if !p.builtinSigningKey.isEmpty && !builtinSigningPolicyMatches p row then
    .ok (assignment, "")
  else
    match authorize row assignment with
    | .error _ => .error "builtin source TLS trust authorization failed"
    | .ok false => .ok (assignment, "")
    | .ok true => .ok ({ assignment with
        source := { assignment.source with
          credentialSecret := (names row.projectID row.id).authSecret } }, p.builtinCAIdentity)

def builtinSigningAuthorization (row : AssignmentRow) (assignment : Assignment) :
    Except Err String :=
  if p.builtinSigningKey.isEmpty || !builtinCAEligible row then .ok ""
  else if !builtinSigningPolicyMatches p row then .ok ""
  else
    match authorize row assignment with
    | .error _ => .error "builtin public signing trust authorization failed"
    | .ok false => .ok ""
    | .ok true => .ok p.builtinSigningIdentity

/-! ## build -/

structure TrustBinding where
  deploymentID : String
  (ca signingKey : Bool)

structure Draft where
  assignments : List Assignment := []
  deletions : List Deletion := []
  credentialGenerations : List CredentialGeneration := []
  bindings : List TrustBinding := []

def Draft.add (clusterID : String) (d : Draft) (row : AssignmentRow) : Except Err Draft := do
  require (row.clusterID == clusterID)
    ("assignment " ++ row.id ++ " crossed the authenticated cluster boundary")
  if row.action = .delete then
    pure { d with deletions := d.deletions ++
      [⟨row.id, row.desiredGeneration, row.desiredSpecDigest, false, ""⟩] }
  else do
    let compiled ← wrap ("assignment " ++ row.id) (compileAssignmentMetadata p.toLibrary row)
    let (assignment, caIdentity) ← applyBuiltinCAMetadata p authorize row compiled
    let signerIdentity ← builtinSigningAuthorization p authorize row assignment
    pure
      { d with
        assignments := d.assignments ++ [assignment]
        credentialGenerations := d.credentialGenerations ++
          [⟨row.id, row.credentialEpoch, caIdentity, signerIdentity⟩]
        bindings := d.bindings ++ [⟨row.id, caIdentity != "", signerIdentity != ""⟩] }

def objectLimit : Nat := 20000

def buildRows (clusterID : String) (rows : List AssignmentRow) : Except Err Draft := do
  require (decide (rows.length ≤ objectLimit)) "delivery snapshot exceeds object limit"
  let d ← rows.foldlM (Draft.add p authorize clusterID) {}
  pure
    { d with
      assignments := byDeployment Assignment.deploymentID d.assignments
      deletions := byDeployment Deletion.deploymentID d.deletions
      credentialGenerations :=
        byDeployment CredentialGeneration.deploymentID d.credentialGenerations }

structure Built where
  response : Snapshot
  rows : List AssignmentRow
  systemRelease : Option SystemReleaseRow
  (contentDigest credentialDigest : String)
  bindings : List TrustBinding

def content (s : Snapshot) : Canonical :=
  canonical { s with snapshotGeneration := 1, credentialEpoch := 0 }

def systemMetadata : Option SystemReleaseRow → Except Err (Option String)
  | none => pure none
  | some row => some <$> p.systemRelease row.release

def buildSystem (rows : List AssignmentRow) (d : Draft) (system : Option SystemReleaseRow) :
    Except Err Built := do
  let release ← systemMetadata p system
  let response : Snapshot :=
    { protocolVersion := "2.0", snapshotGeneration := 0, eTag := "", fullSnapshot := true
      system := release, assignments := d.assignments, deletions := d.deletions }
  pure
    { response, rows, systemRelease := system
      contentDigest := p.digest (content response)
      credentialDigest := p.credentialDigest d.credentialGenerations
        ((system.map SystemReleaseRow.credentialEpoch).getD 0)
      bindings := d.bindings }

/-! ## Credentials -/

def setKey (key : String) (value : Bytes) (data : List (String × Bytes)) : List (String × Bytes) :=
  data.filter (fun entry => entry.1 != key) ++ [(key, value)]

def decryptCredential (decrypt : Sealed → Except Err Bytes) (sourceType : SourceKind)
    (sealed sealedCA : Sealed) : Except Err (List (String × Bytes)) := do
  let data ← if sealed.isZero then pure [] else do
    let buffer ← wrap "decrypt source credential" (decrypt sealed)
    wrap "decode source credential" (p.decodeValues buffer)
  if sealedCA.isZero then pure data else do
    let plain ← wrap "decrypt source CA" (decrypt sealedCA)
    pure (setKey (if sourceType = .git then "ca.crt" else "caFile") plain data)

def assignmentCredential (credentialEpoch : Int) (bindings : List TrustBinding)
    (row : AssignmentRow) (a : Assignment) : Except Err (Option Credential) := do
  let needsAuth := a.source.credentialSecret != ""
  let needsTrust := a.source.trustSecret != ""
  if !needsAuth && !needsTrust then pure none else do
    require (p.decrypt.isSome || (row.credential.keyID == "" && row.caBundle.keyID == ""))
      "source credential decryptor is unavailable"
    let stored ← decryptCredential p
      (p.decrypt.getD fun _ => .error "source credential decryptor is unavailable")
      row.sourceType row.credential row.caBundle
    let binding := (bindings.find? (·.deploymentID == row.id)).getD ⟨row.id, false, false⟩
    let withCA := if binding.ca then setKey "caFile" p.builtinCA stored else stored
    let data := if binding.signingKey then setKey "trust.cosign.pub" p.builtinSigningKey withCA
      else withCA
    let hasTrust := data.any fun entry => hasPrefix entry.1 "trust."
    let hasAuth := data.any fun entry => !hasPrefix entry.1 "trust."
    require (!data.isEmpty && hasAuth == needsAuth && hasTrust == needsTrust)
      ("source " ++ row.sourceID ++ " credential shape does not match its non-secret metadata")
    pure (some
      { version := if binding.ca || binding.signingKey then credentialEpoch
          else row.credentialEpoch
        data := data })

def checkRegistryCredential (system : Option SystemReleaseRow) : Except Err Unit :=
  match system with
  | none => pure ()
  | some row =>
    if row.registryCredential.keyID == "" then pure () else do
      let decrypt ← orError p.decrypt "system registry credential decryptor is unavailable"
      let material ← wrap "decrypt system registry credential" (decrypt row.registryCredential)
      require (p.validJSON material)
        "system registry credential is not valid docker configuration JSON"

def hydrateRow (bindings : List TrustBinding) (response : Snapshot) (row : AssignmentRow) :
    Except Err Snapshot :=
  match response.assignments.find? (·.deploymentID == row.id) with
  | none => pure response
  | some a => do
    match ← assignmentCredential p response.credentialEpoch bindings row a with
    | none => pure response
    | some credential =>
      pure { response with
        assignments := response.assignments.map fun a =>
          if a.deploymentID = row.id then { a with credential := some credential } else a }

def hydrateCredentials (b : Built) (response : Snapshot) : Except Err Snapshot := do
  checkRegistryCredential p b.systemRelease
  b.rows.foldlM (hydrateRow p b.bindings) response

/-! ## What a built snapshot carries -/

def entries (s : Snapshot) : List (String × Int) :=
  s.assignments.map (fun a => (a.deploymentID, a.generation)) ++
    s.deletions.map fun t => (t.deploymentID, t.generation)

def AssignmentRow.entry (row : AssignmentRow) : String × Int := (row.id, row.desiredGeneration)

variable {p authorize} {row : AssignmentRow} {rows : List AssignmentRow} {d d' : Draft}
  {clusterID : String} {b : Built} {s s' : Snapshot}

theorem compileAssignmentMetadata_entry {lib} {a : Assignment}
    (h : compileAssignmentMetadata lib row = .ok a) :
    (a.deploymentID, a.generation) = row.entry := by
  simp only [compileAssignmentMetadata, bind_eq_ok] at h
  obtain ⟨_, -, _, -, _, -, _, -, _, -, _, -, _, -, _, -, _, -, ⟨path, chart, rendered⟩, -, h⟩ := h
  simp only [pure_eq_ok] at h
  obtain ⟨_, -, _, -, rfl⟩ := h
  rfl

theorem applyBuiltinCAMetadata_entry {identity} {a a' : Assignment}
    (h : applyBuiltinCAMetadata p authorize row a = .ok (a', identity)) :
    (a'.deploymentID, a'.generation) = (a.deploymentID, a.generation) := by
  unfold applyBuiltinCAMetadata at h
  split at h
  · cases h
    rfl
  · split at h
    · cases h
      rfl
    · split at h
      · cases h
      · cases h
        rfl
      · cases h
        rfl

def Draft.entries (d : Draft) : List (String × Int) :=
  d.assignments.map (fun a => (a.deploymentID, a.generation)) ++
    d.deletions.map fun t => (t.deploymentID, t.generation)

theorem mem_entries_of_add (h : d.add p authorize clusterID row = .ok d') {e} (he : e ∈ d'.entries)
    : e ∈ d.entries ∨ e = row.entry := by
  simp only [Draft.add, bind_eq_ok, require_eq_ok] at h
  obtain ⟨_, -, h⟩ := h
  split at h
  · simp only [pure_eq_ok] at h
    subst h
    simp only [Draft.entries, map_append, map_cons, map_nil, mem_append,
      mem_singleton] at he ⊢
    tauto
  · simp only [bind_eq_ok, pure_eq_ok] at h
    obtain ⟨compiled, hc, ⟨assignment, identity⟩, hca, h⟩ := h
    dsimp only at h
    obtain ⟨_, -, rfl⟩ := h
    have hen : (assignment.deploymentID, assignment.generation) = row.entry :=
      (applyBuiltinCAMetadata_entry hca).trans (compileAssignmentMetadata_entry (wrap_eq_ok.mp hc))
    simp only [Draft.entries, map_append, map_cons, map_nil, mem_append,
      mem_singleton, hen] at he ⊢
    tauto

theorem exists_row_of_buildRows (h : buildRows p authorize clusterID rows = .ok d)
    {e : String × Int} (he : e ∈ d.entries) : ∃ row ∈ rows, e = row.entry := by
  simp only [buildRows, bind_eq_ok, pure_eq_ok] at h
  obtain ⟨_, -, d0, hl, rfl⟩ := h
  have hs : e ∈ d0.entries := by
    simpa only [Draft.entries, byDeployment, mem_append, mem_map, mem_insertionSort] using he
  refine foldlM_invariant (P := fun d : Draft => ∀ e ∈ d.entries, ∃ row ∈ rows, e = row.entry)
    (fun d d' row hr hd ha e he => ?_) hl (by simp [Draft.entries]) e hs
  rcases mem_entries_of_add ha he with he | rfl
  · exact hd e he
  · exact ⟨row, hr, rfl⟩

theorem buildSystem_eq_ok {system} (h : buildSystem p rows d system = .ok b) :
    entries b.response = d.entries ∧ b.rows = rows ∧
      b.contentDigest = p.digest (content b.response) ∧ b.response.fullSnapshot ∧
      b.response.notModified = false := by
  simp only [buildSystem, bind_eq_ok, pure_eq_ok] at h
  obtain ⟨_, -, rfl⟩ := h
  exact ⟨rfl, rfl, rfl, rfl, rfl⟩

/-! ## Hydration changes credentials only -/

def SameMetadata (s s' : Snapshot) : Prop :=
  { s with assignments := s.assignments.map metadata } =
    { s' with assignments := s'.assignments.map metadata }

theorem hydrateRow_same {bindings} (h : hydrateRow p bindings s row = .ok s') :
    SameMetadata s' s := by
  unfold hydrateRow at h
  split at h
  · cases h
    rfl
  · obtain ⟨credential, -, h⟩ := bind_eq_ok.mp h
    cases credential with
    | none =>
      cases h
      rfl
    | some credential =>
      cases h
      simp only [SameMetadata, map_map]
      congr 1
      refine map_congr_left fun a _ => ?_
      by_cases heq : a.deploymentID = row.id
      · simp only [Function.comp_apply, if_pos heq]
        rfl
      · simp only [Function.comp_apply, if_neg heq]

theorem hydrateCredentials_same (h : hydrateCredentials p b s = .ok s') : SameMetadata s' s := by
  simp only [hydrateCredentials, bind_eq_ok] at h
  obtain ⟨_, -, hl⟩ := h
  exact foldlM_invariant (P := fun s' : Snapshot => SameMetadata s' s)
    (fun _ _ _ _ hs hr => (hydrateRow_same hr).trans hs) hl rfl

theorem SameMetadata.canonical_eq (h : SameMetadata s s') : canonical s = canonical s' := by
  simp only [SameMetadata, Snapshot.mk.injEq] at h
  simp only [canonical, h]

theorem SameMetadata.entries_eq (h : SameMetadata s s') : entries s = entries s' := by
  simp only [SameMetadata, Snapshot.mk.injEq] at h
  have hm : s.assignments.map (fun a => (a.deploymentID, a.generation)) =
      s'.assignments.map fun a => (a.deploymentID, a.generation) := by
    have hb := congrArg (List.map fun a : Assignment => (a.deploymentID, a.generation))
      h.2.2.2.2.2.2.1
    rw [map_map, map_map] at hb
    exact hb
  simp only [entries, hm, h]

end Astronomer.DeliveryProvider
