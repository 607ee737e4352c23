import Mathlib.Data.List.Dedup
import Astronomer.Base.Sorting
import Astronomer.Delivery.Cohorts

/-!
# Cluster selection

`internal/delivery/placement`: `Evaluate` gives every candidate cluster one disposition and
binds selector, identity and dispositions into a digest. A map is the list of its entries;
`cloneStringMap` puts them in key order.
-/

namespace Astronomer.Delivery.Selection

/-! ## Data -/

inductive ErrorCode where
  | invalidInput | duplicateClusterConflict | previewStale | allConfirmationRequired
  deriving DecidableEq

inductive Failure where
  | error (code : ErrorCode) (clusterID : UUID) (cause : String)
  | digest (cause : String)
  deriving DecidableEq

def invalidInput (cause : String) : Failure := .error .invalidInput 0 cause

inductive CompatibilityStatus where
  | compatible | incompatible | unknown
  | other (text : String)
  deriving DecidableEq

structure Candidate where
  (id projectID : UUID)
  name : String
  labels : List (String × String) := []
  groupIDs : List UUID := []
  capabilities : List (String × String) := []
  connected : Bool
  compatibility : CompatibilityStatus
  compatibilityReason : String := ""
  decommissioning : Bool := false
  deriving DecidableEq

structure CapabilityRequirement where
  name : String
  constraint : String := ""

inductive RevisionKind where
  | gitCommit | ociDigest | helmChart
  | other (text : String)

structure ImmutableRevision where
  kind : RevisionKind
  value : String
  artifactDigest : Digest

structure SnapshotIdentity where
  targetGeneration : Nat
  bundleVersionID : UUID
  bundleSpecDigest : Digest
  resolvedRevision : ImmutableRevision

structure Request where
  placement : Placement
  allowedProjectIDs : List UUID
  candidates : List Candidate
  requiredCapabilities : List CapabilityRequirement
  identity : SnapshotIdentity

inductive DecisionReason where
  | selected | excludedSelector | excludedExplicitly | unauthorized | disconnected
  | incompatible | missingCapability | decommissioning
  deriving DecidableEq

inductive MatchReason where
  | explicitCluster | allClusters | clusterGroup | matchLabels | matchExpressions
  deriving DecidableEq

structure Decision where
  clusterID : UUID
  projectID : UUID := 0
  clusterName : String := ""
  reason : DecisionReason
  matchReasons : List MatchReason := []
  matchedGroupIDs : List UUID := []
  missingCapabilities : List String := []
  compatibilityReason : String := ""
  deriving DecidableEq

structure Result where
  decisions : List Decision
  selected : List Candidate
  (selectedCount excludedCount : Nat)
  requiresAllConfirmation : Bool
  previewDigest : Digest
  deriving DecidableEq

structure PreviewSubject where
  placement : Placement
  requiredCapabilities : List CapabilityRequirement
  identity : SnapshotIdentity
  decisions : List Decision

/-- What the package takes from code outside the repository: the label syntax of
Kubernetes, semantic versions and the canonical JSON form that is hashed. -/
structure Library where
  env : Env
  (validVersion validConstraint : String → Bool)
  satisfies (constraint version : String) : Bool
  previewDigest : PreviewSubject → Except String Digest

/-! ## The parts of `internal/delivery/model` -/

def cloneStringMap (input : List (String × String)) : List (String × String) :=
  input.insertionSort fun a b => a.1 ≤ b.1

def sortedUUIDs (values : List UUID) : List UUID := values.insertionSort (· ≤ ·)

def operatorText : LabelOperator → String
  | .isIn => "In"
  | .notIn => "NotIn"
  | .exists => "Exists"
  | .doesNotExist => "DoesNotExist"

def canonicalPlacement (env : Env) (p : Placement) : Except String Placement := do
  let violations := { p with matchLabels := cloneStringMap p.matchLabels }.validate env
  require violations.isEmpty (violationsText violations)
  return { p with
    projectIDs := sortedUUIDs p.projectIDs
    clusterIDs := sortedUUIDs p.clusterIDs
    clusterGroupIDs := sortedUUIDs p.clusterGroupIDs
    excludeClusterIDs := sortedUUIDs p.excludeClusterIDs
    matchLabels := cloneStringMap p.matchLabels
    matchExpressions :=
      (p.matchExpressions.map fun e =>
        { e with values := e.values.insertionSort (· ≤ ·) }).insertionSort
        fun a b => a.key < b.key ∨
          (a.key = b.key ∧ operatorText a.operator ≤ operatorText b.operator) }

def maxCapabilities : Nat := 128

def maxRequestedRevisionLength : Nat := 1024

variable (lib : Library)

def CapabilityRequirement.validate (r : CapabilityRequirement) : List Violation :=
  violationIf (!lib.env.isQualifiedName r.name) "name" .invalid
    "must be a Kubernetes qualified name" ++
  if 128 < r.constraint.utf8ByteSize then
    [⟨"constraint", .limitExceeded, "must be at most 128 bytes"⟩]
  else
    violationIf (r.constraint != "" && !lib.validConstraint r.constraint) "constraint" .invalid
      "must be a valid semantic-version constraint"

def capabilityRequirementsCanonical (input : List CapabilityRequirement) :
    Except String (List CapabilityRequirement) := do
  require (decide (input.length ≤ maxCapabilities)) (violationsText
    [⟨"capabilities", .limitExceeded, s!"must contain at most {maxCapabilities} entries"⟩])
  let result := input.insertionSort fun a b =>
    a.name < b.name ∨ (a.name = b.name ∧ a.constraint ≤ b.constraint)
  let violations := eachViolation result fun i requirement =>
    within s!"capabilities[{i}]" (requirement.validate lib) ++
    violationIf (decide (0 < i) && (result[i - 1]?).any fun r => r.name == requirement.name)
      s!"capabilities[{i}].name" .conflict "capability names must be unique"
  require violations.isEmpty (violationsText violations)
  return result

def isGitCommit (value : String) : Bool :=
  ((goBytes value).length == 40 || (goBytes value).length == 64) && (goBytes value).all isLowerHex

def ImmutableRevision.validate (r : ImmutableRevision) : List Violation :=
  (match r.kind with
    | .gitCommit =>
      violationIf (!isGitCommit r.value) "value" .notImmutable
        "must be a full lowercase 40- or 64-character Git commit"
    | .ociDigest =>
      violationIf (!Digest.valid r.value) "value" .notImmutable
        "must be an immutable sha256 OCI digest"
    | .helmChart =>
      if trimSpace r.value = "" ∨ maxRequestedRevisionLength < r.value.utf8ByteSize then
        [⟨"value", .notImmutable, "must be an exact bounded chart version"⟩]
      else violationIf (!lib.validVersion r.value) "value" .notImmutable
        "must be an exact semantic chart version"
    | .other _ => [⟨"kind", .unsupported, "is not a supported immutable revision kind"⟩]) ++
  violationIf (!r.artifactDigest.valid) "artifact_digest" .invalid
    "must be a canonical SHA-256 digest"

def safeCode (value : String) : Bool :=
  value != "" && decide (value.utf8ByteSize ≤ 128) &&
    value.toList.all (fun c =>
      ('a' ≤ c && c ≤ 'z') || ('0' ≤ c && c ≤ '9') || c == '_' || c == '-') &&
    !(value.toList.zip value.toList.tail).contains ('-', '-')

def SnapshotIdentity.validate (lib : Library) (i : SnapshotIdentity) : Except String Unit := do
  require (i.targetGeneration != 0) "target generation must be greater than zero"
  require (i.bundleVersionID != 0) "bundle version ID must be a non-zero UUID"
  require i.bundleSpecDigest.valid ("bundle spec digest: " ++ violationsText
    [⟨"digest", .invalid, "must use sha256 followed by 64 lowercase hexadecimal characters"⟩])
  let violations := i.resolvedRevision.validate lib
  require violations.isEmpty ("resolved revision: " ++ violationsText violations)

/-! ## Candidates -/

def canonicalUUIDSet (field : String) (input : List UUID) : Except String (List UUID) := do
  require (decide (input.length ≤ maxPlacementIDs)) s!"{field} exceeds {maxPlacementIDs} entries"
  input.zipIdx.forM fun (id, i) => do
    require (id != 0) s!"{field} contains a zero UUID"
    require (!repeatsEarlier input i) s!"{field} contains duplicate {uuidText id}"
  return input

def canonicalCandidate (candidate : Candidate) : Except String Candidate := do
  require (candidate.id != 0 && candidate.projectID != 0)
    "candidate and project IDs must be non-zero UUIDs"
  require (trimSpace candidate.name != "" && decide (candidate.name.utf8ByteSize ≤ maxNameLength))
    "candidate name must be non-empty and bounded"
  let violations := { matchLabels := cloneStringMap candidate.labels : Placement }.validate lib.env
  require violations.isEmpty ("candidate labels: " ++ violationsText violations)
  let groups ← canonicalUUIDSet "candidate group IDs" candidate.groupIDs
  require (decide (candidate.capabilities.length ≤ maxCapabilities))
    s!"candidate capabilities exceed {maxCapabilities} entries"
  (cloneStringMap candidate.capabilities).forM fun (name, version) => do
    let violations := { name : CapabilityRequirement }.validate lib
    require violations.isEmpty ("candidate capability name: " ++ violationsText violations)
    require (version == "" || lib.validVersion version)
      s!"candidate capability {name} has invalid version"
  require (match candidate.compatibility with | .other _ => false | _ => true)
    "candidate compatibility status is invalid"
  require (candidate.compatibilityReason == "" || safeCode candidate.compatibilityReason)
    "candidate compatibility reason must be a bounded machine code"
  return { candidate with
    labels := cloneStringMap candidate.labels
    groupIDs := sortedUUIDs groups
    capabilities := cloneStringMap candidate.capabilities }

def mergeCapabilities (left right : List (String × String)) :
    Except String (List (String × String)) :=
  right.foldlM (fun merged (name, version) =>
    match merged.lookup name with
    | some old =>
      if old = version then pure merged
      else throw s!"duplicate projections disagree on capability {name}"
    | none => pure (merged ++ [(name, version)])) left

def mergeCandidates (left right : Candidate) : Except String Candidate := do
  require ({ left with groupIDs := [], capabilities := [] } ==
      { right with groupIDs := [], capabilities := [] })
    "duplicate projections disagree on cluster attributes"
  let capabilities ← mergeCapabilities left.capabilities right.capabilities
  return { left with
    groupIDs := sortedUUIDs (left.groupIDs ++ right.groupIDs).dedup
    capabilities := cloneStringMap capabilities }

def addCandidate (byID : List Candidate) (raw : Candidate) : Except Failure (List Candidate) := do
  let candidate ← (canonicalCandidate lib raw).mapError invalidInput
  match byID.find? (·.id == candidate.id) with
  | some existing => do
    let merged ← (mergeCandidates existing candidate).mapError
      (.error .duplicateClusterConflict candidate.id ·)
    return byID.map fun c => if c.id = candidate.id then merged else c
  | none => return byID ++ [candidate]

def byIdentity (a b : Candidate) : Prop := a.id ≤ b.id
deriving Decidable

def canonicalCandidates (input : List Candidate) : Except Failure (List Candidate) := do
  let byID ← (input.insertionSort byIdentity).foldlM (addCandidate lib) []
  return byID.insertionSort byIdentity

/-! ## Dispositions -/

def matchesExpression (e : LabelExpression) (value : Option String) : Bool :=
  match e.operator with
  | .isIn => value.any e.values.contains
  | .notIn => !value.any e.values.contains
  | .exists => value.isSome
  | .doesNotExist => value.isNone

def «matches» (selector : Placement) (candidate : Candidate) :
    Option (List MatchReason × List UUID) :=
  if !selector.projectIDs.isEmpty && !selector.projectIDs.contains candidate.projectID then none
  else if selector.allClusters then some ([.allClusters], [])
  else if selector.clusterIDs.contains candidate.id then some ([.explicitCluster], [])
  else if selector.clusterGroupIDs.isEmpty && selector.matchLabels.isEmpty &&
      selector.matchExpressions.isEmpty then none
  else
    let matchedGroups := candidate.groupIDs.filter selector.clusterGroupIDs.contains
    if !selector.clusterGroupIDs.isEmpty && matchedGroups.isEmpty then none
    else if selector.matchLabels.any fun (key, wanted) =>
        candidate.labels.lookup key != some wanted then none
    else if selector.matchExpressions.any fun e =>
        !matchesExpression e (candidate.labels.lookup e.key) then none
    else some (
      (if selector.clusterGroupIDs.isEmpty then [] else [.clusterGroup]) ++
        (if selector.matchLabels.isEmpty then [] else [.matchLabels]) ++
        (if selector.matchExpressions.isEmpty then [] else [.matchExpressions]),
      matchedGroups)

def missingCapabilities (required : List CapabilityRequirement) (actual : List (String × String)) :
    List String :=
  required.filterMap fun requirement =>
    match actual.lookup requirement.name with
    | none => some requirement.name
    | some version =>
      if requirement.constraint = "" then none
      else if lib.validVersion version && lib.satisfies requirement.constraint version then none
      else some (requirement.name ++ "@" ++ requirement.constraint)

def disposition (selector : Placement) (capabilities : List CapabilityRequirement)
    (candidate : Candidate) : Decision :=
  let decision (reason : DecisionReason) : Decision :=
    { clusterID := candidate.id, projectID := candidate.projectID, clusterName := candidate.name
      reason }
  if selector.excludeClusterIDs.contains candidate.id then decision .excludedExplicitly
  else
    match «matches» selector candidate with
    | none => decision .excludedSelector
    | some (reasons, groups) =>
      let decision (reason : DecisionReason) : Decision :=
        { decision reason with matchReasons := reasons, matchedGroupIDs := groups }
      if candidate.decommissioning then decision .decommissioning
      else if !candidate.connected then decision .disconnected
      else if candidate.compatibility ≠ .compatible then
        { decision .incompatible with
          compatibilityReason :=
            if candidate.compatibilityReason = "" then "compatibility_unknown"
            else candidate.compatibilityReason }
      else
        match missingCapabilities lib capabilities candidate.capabilities with
        | [] => decision .selected
        | missing => { decision .missingCapability with missingCapabilities := missing }

def Decision.unauthorized (id : UUID) : Decision := { clusterID := id, reason := .unauthorized }

structure Criteria where
  placement : Placement
  capabilities : List CapabilityRequirement
  allowedProjects : List UUID

namespace Criteria

variable (lib : Library) (k : Criteria)

def authorized (candidate : Candidate) : Bool := k.allowedProjects.contains candidate.projectID

def decisionFor (candidate : Candidate) : Option Decision :=
  if k.authorized candidate then some (disposition lib k.placement k.capabilities candidate)
  else if k.placement.clusterIDs.contains candidate.id then some (.unauthorized candidate.id)
  else none

def decisions (candidates : List Candidate) : List Decision :=
  (candidates.filterMap (k.decisionFor lib) ++
    (k.placement.clusterIDs.filter fun id => !candidates.any (·.id == id)).map
      Decision.unauthorized).insertionSort fun a b => a.clusterID ≤ b.clusterID

def selected (candidates : List Candidate) : List Candidate :=
  candidates.filter fun c => k.authorized c &&
    (disposition lib k.placement k.capabilities c).reason == .selected

end Criteria

def Request.criteria (lib : Library) (request : Request) : Except Failure Criteria := do
  let placement ← (canonicalPlacement lib.env request.placement).mapError invalidInput
  let capabilities ←
    (capabilityRequirementsCanonical lib request.requiredCapabilities).mapError invalidInput
  (request.identity.validate lib).mapError invalidInput
  let allowedProjects ←
    (canonicalUUIDSet "allowed_project_ids" request.allowedProjectIDs).mapError invalidInput
  return { placement, capabilities, allowedProjects }

def evaluate (lib : Library) (request : Request) : Except Failure Result := do
  let k ← request.criteria lib
  let candidates ← canonicalCandidates lib request.candidates
  let decisions := k.decisions lib candidates
  let selected := k.selected lib candidates
  let previewDigest ← (lib.previewDigest
    { placement := k.placement, requiredCapabilities := k.capabilities
      identity := request.identity, decisions }).mapError
      fun cause => .digest ("digest placement preview: " ++ cause)
  return {
    decisions, selected
    selectedCount := selected.length
    excludedCount := decisions.length - selected.length
    requiresAllConfirmation := k.placement.allClusters
    previewDigest }

end Astronomer.Delivery.Selection
