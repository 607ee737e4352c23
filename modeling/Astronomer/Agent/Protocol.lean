import Astronomer.Delivery.Basic

/-!
# The delivery protocol, version 2.0

What the server sends to the agent of a cluster, and the checks of `pkg/protocol` that every
party makes before it acts on it. Library code that only decides whether a text parses, and
the hash over the canonical JSON, are `Parsers`.
-/

namespace Astronomer.Agent

open List
open Delivery (goBytes isLowerHex trimSpace)

abbrev Err := String

def wrap {α : Type} (context : String) (x : Except Err α) : Except Err α :=
  x.mapError fun err => context ++ ": " ++ err

@[simp] theorem wrap_eq_ok {α : Type} {context : String} {x : Except Err α} {a : α} :
    wrap context x = .ok a ↔ x = .ok a := by
  cases x <;> simp [wrap, Except.mapError]

inductive SourceKind where
  | git | ociArtifact | helmHTTP | helmOCI
  deriving DecidableEq

inductive RendererKind where
  | kustomize | helm
  deriving DecidableEq

inductive Action where
  | apply | suspend
  deriving DecidableEq

inductive Scope where
  | namespaced | platform
  deriving DecidableEq

structure OIDCIdentity where
  (issuer subject : String)
  deriving DecidableEq

structure Verify where
  provider : String
  mode : String := ""
  oidcIdentities : List OIDCIdentity := []
  deriving DecidableEq

structure Source where
  kind : SourceKind
  (url revision : String)
  digest : String := ""
  path : String := ""
  chart : String := ""
  provider : String := ""
  credentialSecret : String := ""
  trustSecret : String := ""
  verify : Option Verify := none
  deriving DecidableEq

structure HealthCheck where
  (apiVersion kind name : String)
  namespaceName : String := ""
  deriving DecidableEq

structure KustomizeRenderer where
  (targetNamespace serviceAccount : String)
  prune : Bool
  wait : Bool := false
  patches : List String := []
  substitutions : List (String × String) := []
  healthChecks : List HealthCheck := []
  dependencyNames : List String := []
  deriving DecidableEq

structure ValueSecretRef where
  (name key targetPath : String)
  deriving DecidableEq

structure HelmRenderer where
  (chart version releaseName targetNamespace serviceAccount : String)
  values : String := ""
  valueSecretRefs : List ValueSecretRef := []
  installRetries : Int := 0
  upgradeRetries : Int := 0
  upgradeRemediation : String
  enableTests : Bool := false
  driftMode : String
  dependencyNames : List String := []
  deriving DecidableEq

structure Renderer where
  kind : RendererKind
  kustomize : Option KustomizeRenderer := none
  helm : Option HelmRenderer := none
  deriving DecidableEq

structure Policy where
  interval : String
  retryInterval : String := ""
  timeout : String
  prune : Bool
  deriving DecidableEq

structure Credential where
  version : Int
  data : List (String × List UInt8)
  deriving DecidableEq

structure Assignment where
  (deploymentID targetID projectID : String)
  generation : Int
  specDigest : String
  configurationDigest : String := ""
  action : Action
  scope : Scope
  source : Source
  renderer : Renderer
  policy : Policy
  credential : Option Credential := none
  deriving DecidableEq

structure Deletion where
  deploymentID : String
  generation : Int
  specDigest : String
  orphan : Bool := false
  deadline : String := ""
  deriving DecidableEq

/-- `DeliveryStateResponseV2`. The signed system release in it is handled by a
manager of its own and is only its text here. -/
structure Snapshot where
  protocolVersion : String
  snapshotGeneration : Int
  eTag : String
  notModified : Bool := false
  fullSnapshot : Bool
  system : Option String := none
  assignments : List Assignment := []
  deletions : List Deletion := []
  credentialEpoch : Int := 0

structure URL where
  (scheme host : String)
  rawQuery : String := ""
  fragment : String := ""
  hasPassword : Bool := false

inductive Value where
  | bool (b : Bool)
  | int (n : Int)
  | str (s : String)
  | bytes (bs : List UInt8)
  | list (vs : List Value)
  | map (entries : List (String × Value))

structure Parsers where
  parseURL : String → Option URL
  parseDuration : String → Option Int
  validRFC3339 : String → Bool
  cleanPath : String → String
  decodeJSON : String → Option Value
  validYAML : String → Bool
  encodedLen : Assignment → Nat
  canonicalETag : Snapshot → String
  validSystem : String → Bool

/-! ## The patterns of `pkg/protocol` -/

def goLen (s : String) : Nat := s.utf8ByteSize

def hasPrefix (s start : String) : Bool := start.toList.isPrefixOf s.toList

def hasSuffix (s ending : String) : Bool := ending.toList.isSuffixOf s.toList

def isHexChar (c : Char) : Bool := ('0' ≤ c && c ≤ '9') || ('a' ≤ c && c ≤ 'f')

def hexRun (n : Nat) (cs : List Char) : Bool := cs.length == n && cs.all isHexChar

/-- `uuidPattern`: `8-4-4-4-12` lowercase hex digits, with a version of 1 to 5 and a
variant of `8`, `9`, `a` or `b`. -/
def validUUID (s : String) : Bool :=
  let cs := s.toList
  hexRun 8 (cs.take 8) && (cs.drop 8).take 1 == ['-'] &&
  hexRun 4 ((cs.drop 9).take 4) && (cs.drop 13).take 1 == ['-'] &&
  hexRun 4 ((cs.drop 14).take 4) && (cs.drop 18).take 1 == ['-'] &&
  hexRun 4 ((cs.drop 19).take 4) && (cs.drop 23).take 1 == ['-'] &&
  hexRun 12 (cs.drop 24) &&
  (cs.drop 14).head?.any (fun c => ['1', '2', '3', '4', '5'].contains c) &&
  (cs.drop 19).head?.any (fun c => ['8', '9', 'a', 'b'].contains c)

def validDigest (s : String) : Bool := Delivery.Digest.valid s

def validCommit (s : String) : Bool := hexRun 40 s.toList || hexRun 64 s.toList

def isLowerAlnum (c : Char) : Bool := ('0' ≤ c && c ≤ '9') || ('a' ≤ c && c ≤ 'z')

def isAlnum (c : Char) : Bool := isLowerAlnum c || ('A' ≤ c && c ≤ 'Z')

def bracketed (outer inner : Char → Bool) (cs : List Char) : Bool :=
  cs.head?.any outer && cs.getLast?.any outer && cs.all inner

def validDNSLabel (s : String) : Bool :=
  decide (goLen s ≤ 63) && bracketed isLowerAlnum (fun c => isLowerAlnum c || c == '-') s.toList

def validSecretKey (s : String) : Bool :=
  decide (goLen s ≤ 253) &&
    bracketed isAlnum (fun c => isAlnum c || c == '-' || c == '.' || c == '_') s.toList

def isHelmRange (s : String) : Bool :=
  s.toList.any fun c => [',', '*', '<', '>', '=', '~', '^', '|', ' ', '\t', '\n', '\x0b',
    '\x0c', '\r'].contains c

/-! ## Validate -/

variable (p : Parsers)

def Source.validate (s : Source) : Except Err Unit := do
  let parsed ← orError ((p.parseURL s.url).filter fun u =>
      u.host != "" && u.rawQuery == "" && u.fragment == "")
    "source URL must be an absolute credential-free URL without query or fragment"
  require (!parsed.hasPassword) "source URL must not contain a password"
  require (s.path == "" || !(hasPrefix s.path "/" || p.cleanPath s.path == ".." ||
      hasPrefix (p.cleanPath s.path) "../"))
    "source path must be relative and cannot traverse parents"
  require (s.credentialSecret == "" || validDNSLabel s.credentialSecret)
    "invalid source credential Secret name"
  require (s.trustSecret == "" || validDNSLabel s.trustSecret)
    "invalid source trust Secret name"
  match s.kind with
  | .git => do
    require (parsed.scheme == "ssh" || parsed.scheme == "https")
      "git source URL scheme must be ssh or https"
    require (validCommit s.revision) "git source revision must be a full immutable commit"
  | .ociArtifact => do
    require (parsed.scheme == "oci") "OCI artifact URL scheme must be oci"
    require (validDigest s.digest && s.revision == s.digest)
      "OCI artifact revision must equal its sha256 digest"
  | .helmHTTP | .helmOCI => do
    require (parsed.scheme == (if s.kind = .helmHTTP then "https" else "oci"))
      "Helm source URL scheme does not match its source kind"
    require (s.chart != "" && s.revision != "" && !isHelmRange s.revision)
      "Helm source requires a chart and exact version"
    require (validDigest s.digest) "Helm source requires a resolved sha256 artifact digest"

def Renderer.validate (r : Renderer) : Except Err Unit :=
  match r.kind with
  | .kustomize => do
    let config ← orError (if r.helm.isNone then r.kustomize else none)
      "kustomize renderer must set only kustomize configuration"
    require (validDNSLabel config.targetNamespace && validDNSLabel config.serviceAccount)
      "kustomize target namespace and service account are required"
    require (decide ((config.patches.map goLen).sum ≤ 256 * 1024))
      "kustomize patches exceed size limit"
  | .helm => do
    let config ← orError (if r.kustomize.isNone then r.helm else none)
      "helm renderer must set only helm configuration"
    require (config.chart != "" && config.version != "" && config.releaseName != "" &&
        validDNSLabel config.targetNamespace && validDNSLabel config.serviceAccount)
      "helm chart, version, release, target namespace, and service account are required"
    require (decide (goLen config.values ≤ 1024 * 1024) &&
        (config.values == "" || (p.decodeJSON config.values).isSome))
      "helm values must be valid bounded JSON"
    require (decide (config.valueSecretRefs.length ≤ 64))
      "helm value Secret references exceed count limit"
    require (config.valueSecretRefs.all fun ref =>
        validDNSLabel ref.name && validSecretKey ref.key && trimSpace ref.targetPath != "" &&
          decide (goLen ref.targetPath ≤ 1024))
      "helm value Secret reference is invalid"
    require (decide config.valueSecretRefs.Nodup) "helm value Secret references must be unique"

def Assignment.validate (a : Assignment) : Except Err Unit := do
  require (validUUID a.deploymentID && validUUID a.targetID && validUUID a.projectID)
    "deployment, target, and project IDs must be canonical UUIDs"
  require (decide (1 ≤ a.generation) && validDigest a.specDigest)
    "generation and spec digest are required"
  require (a.configurationDigest == "" || validDigest a.configurationDigest)
    "configuration digest is invalid"
  a.source.validate p
  a.renderer.validate p
  require (a.policy.interval != "") "policy interval is required"
  require (a.policy.timeout != "") "policy timeout is required"
  require (p.parseDuration a.policy.interval).isSome "policy interval"
  require (p.parseDuration a.policy.timeout).isSome "policy timeout"
  require (a.policy.retryInterval == "" || (p.parseDuration a.policy.retryInterval).isSome)
    "policy retry interval"
  match a.credential with
  | none => pure ()
  | some credential => do
    require (decide (1 ≤ credential.version) && !credential.data.isEmpty &&
        decide (credential.data.length ≤ 32))
      "credential material has invalid version or key count"
    require (credential.data.all fun entry =>
        validSecretKey entry.1 && !entry.2.isEmpty && decide (entry.2.length ≤ 256 * 1024))
      "credential material key is invalid"

def Deletion.validate (i : Nat) (d : Deletion) : Except Err Unit := do
  require (validUUID d.deploymentID && decide (1 ≤ d.generation) && validDigest d.specDigest)
    ("deletion " ++ toString i ++ " is invalid")
  require (d.deadline == "" || p.validRFC3339 d.deadline)
    ("deletion " ++ toString i ++ " deadline")

/-- The two loops of `DeliveryStateResponseV2.Validate`: each entry is checked, then
looked up among the deployments `seen` so far, which the next one sees too. -/
def validateEntries {α : Type} (idOf : α → String) (check : Nat → α → Except Err Unit) :
    Nat → List α → List String → Except Err (List String)
  | _, [], seen => .ok seen
  | i, x :: xs, seen => do
    check i x
    require (!seen.contains (idOf x)) ("duplicate deployment \"" ++ idOf x ++ "\"")
    validateEntries idOf check (i + 1) xs (idOf x :: seen)

def Snapshot.validate (r : Snapshot) : Except Err Unit := do
  require (r.protocolVersion == "2.0") "unsupported delivery protocol version"
  require (decide (1 ≤ r.snapshotGeneration) && decide (0 ≤ r.credentialEpoch))
    "invalid snapshot generation or credential epoch"
  if r.notModified then
    require (!r.fullSnapshot && r.system.isNone && r.assignments.isEmpty &&
        r.deletions.isEmpty && r.eTag != "")
      "not-modified response must contain only snapshot metadata"
  else do
    require r.fullSnapshot "delivery protocol v2 requires a full snapshot"
    require (decide (r.assignments.length ≤ 10000) && decide (r.deletions.length ≤ 10000))
      "delivery snapshot exceeds object limit"
    require (r.system.all p.validSystem) "system release"
    let seen ← validateEntries Assignment.deploymentID
      (fun i a => wrap ("assignment " ++ toString i) (a.validate p)) 0 r.assignments []
    let _ ← validateEntries Deletion.deploymentID (Deletion.validate p) 0 r.deletions seen
    require (r.eTag != "" && r.eTag == p.canonicalETag r)
      "delivery snapshot ETag does not match canonical content"

/-! ## What a valid snapshot is -/

variable {p}

theorem validateEntries_eq_ok {α : Type} {idOf : α → String} {check : Nat → α → Except Err Unit}
    {i : Nat} {xs : List α} {seen seen' : List String}
    (h : validateEntries idOf check i xs seen = .ok seen') :
    (∀ x ∈ xs, (∃ j, check j x = .ok ()) ∧ idOf x ∉ seen) ∧ (xs.map idOf).Nodup ∧
      ∀ id, id ∈ seen' ↔ id ∈ xs.map idOf ∨ id ∈ seen := by
  induction xs generalizing i seen with
  | nil =>
    cases h
    simp
  | cons x xs ih =>
    simp only [validateEntries, bind_eq_ok, require_eq_ok] at h
    obtain ⟨_, hc, _, hf, hrest⟩ := h
    obtain ⟨ha, hnd, hsn⟩ := ih hrest
    have hn : idOf x ∉ seen := by simpa using hf
    refine ⟨forall_mem_cons.mpr ⟨⟨⟨i, hc⟩, hn⟩, fun y hy => ?_⟩, ?_, fun id => ?_⟩
    · exact ⟨(ha y hy).1, fun hmem => (ha y hy).2 (mem_cons_of_mem _ hmem)⟩
    · refine nodup_cons.mpr ⟨fun hmem => ?_, hnd⟩
      obtain ⟨y, hy, heq⟩ := mem_map.mp hmem
      exact (ha y hy).2 (heq ▸ mem_cons_self)
    · rw [hsn, map_cons, mem_cons, mem_cons]
      tauto

theorem Assignment.validUUID_of_validate {a : Assignment} (h : a.validate p = .ok ()) :
    validUUID a.deploymentID := by
  simp only [Assignment.validate, bind_eq_ok, require_eq_ok, Bool.and_eq_true] at h
  obtain ⟨_, ⟨⟨hid, -⟩, -⟩, -⟩ := h
  exact hid

theorem Deletion.validUUID_of_validate {i : Nat} {t : Deletion} (h : t.validate p i = .ok ()) :
    validUUID t.deploymentID := by
  simp only [Deletion.validate, bind_eq_ok, require_eq_ok, Bool.and_eq_true] at h
  obtain ⟨_, ⟨⟨hid, -⟩, -⟩, -⟩ := h
  exact hid

theorem Snapshot.assignments_of_notModified {s : Snapshot} (h : s.validate p = .ok ())
    (hs : s.notModified) : s.assignments = [] := by
  simp only [Snapshot.validate, bind_eq_ok, require_eq_ok, hs, if_true, Bool.and_eq_true,
    List.isEmpty_iff] at h
  obtain ⟨_, -, _, -, ⟨⟨-, ha⟩, -⟩, -⟩ := h
  exact ha

theorem Snapshot.ids_of_validate {s : Snapshot} (h : s.validate p = .ok ()) :
    (s.assignments.map (·.deploymentID) ++ s.deletions.map (·.deploymentID)).Nodup ∧
      (∀ a ∈ s.assignments, validUUID a.deploymentID) ∧
      ∀ t ∈ s.deletions, validUUID t.deploymentID := by
  simp only [Snapshot.validate, bind_eq_ok, require_eq_ok] at h
  obtain ⟨_, -, _, -, h⟩ := h
  split at h
  · simp only [require_eq_ok, Bool.and_eq_true, List.isEmpty_iff] at h
    obtain ⟨⟨⟨-, hag⟩, hdl⟩, -⟩ := h
    simp [hag, hdl]
  · simp only [bind_eq_ok, require_eq_ok] at h
    obtain ⟨_, -, _, -, _, -, seen, hsn, _, hd, -⟩ := h
    obtain ⟨hal, hnd, hmem⟩ := validateEntries_eq_ok hsn
    obtain ⟨hal', hnd', -⟩ := validateEntries_eq_ok hd
    refine ⟨nodup_append.mpr ⟨hnd, hnd', fun id hid id' hid' heq => ?_⟩, fun a ha => ?_,
      fun t ht => ?_⟩
    · obtain ⟨t, ht, rfl⟩ := mem_map.mp hid'
      exact (hal' t ht).2 ((hmem _).mpr (.inl (heq ▸ hid)))
    · obtain ⟨⟨i, hc⟩, -⟩ := hal a ha
      exact Assignment.validUUID_of_validate (wrap_eq_ok.mp hc)
    · obtain ⟨⟨i, hc⟩, -⟩ := hal' t ht
      exact Deletion.validUUID_of_validate hc

end Astronomer.Agent
