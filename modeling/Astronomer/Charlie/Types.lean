import Astronomer.Base.Sha256
import Astronomer.Base.UUID

/-!
# Charlie: envelopes, capabilities and policy

The signed action envelope, the capability catalog and its safety invariants, the deny-wins
policy gate and the digests of `internal/charlie`. The standard library (JSON, base64,
ed25519, `strings`) is the record `Library`. Times are nanoseconds.
-/

namespace Astronomer.Charlie

abbrev Time := Int

def second : Time := 1000000000

def minute : Time := 60 * second

/-! ## Denials (`policy.go`) -/

/-- `DenialCode`: the `Denied*` and the `Reason*` constants. Constants of both
families that are the same text are one constructor. -/
inductive DenialCode where
  | featureDisabled | connectionInactive | emergencyDisabled | modeDisabled
  | destructiveCapability | disclosureChanged | authorizationDenied | auditUnavailable
  | readOnlyWrite | approvalRequired | approvalInvalid | notAutoEligible | notAllowlisted
  | scopeDenied | budgetExhausted | cooldownActive | circuitOpen | preconditionFailed
  | idempotencyRequired | verificationRequired | staleFencingEpoch | ambiguousPriorAttempt
  | maintenanceWindow
  | capabilityDestructive | productDisabled | deploymentDisabled | staleLeadership
  | disclosureDrift | productRBACDenied | readOnly | nonAutoEligible | approvalExpired
  | approvalRejected | allowlistDenied | safetyBudgetExceeded | circuitBreakerOpen
  | idempotencyConflict | executionFailed | centralUnavailable | verificationFailed
  | noSafeAction
  deriving DecidableEq

namespace DenialCode

def boundedNonExecutionReasons : List DenialCode :=
  [capabilityDestructive, productDisabled, deploymentDisabled, staleLeadership, disclosureDrift,
   productRBACDenied, scopeDenied, readOnly, nonAutoEligible, approvalRequired, approvalExpired,
   approvalRejected, allowlistDenied, safetyBudgetExceeded, cooldownActive, maintenanceWindow,
   preconditionFailed, circuitBreakerOpen, idempotencyConflict, ambiguousPriorAttempt,
   executionFailed, centralUnavailable, auditUnavailable, verificationFailed, noSafeAction]

def isBoundedNonExecutionReason (code : DenialCode) : Bool :=
  boundedNonExecutionReasons.contains code

def isActionableNonExecutionReason (code : DenialCode) : Bool :=
  code.isBoundedNonExecutionReason && code != productDisabled && code != deploymentDisabled

def normalizeNonExecutionReason (code : DenialCode) : Option DenialCode :=
  if code.isBoundedNonExecutionReason then some code else
  match code with
  | destructiveCapability => some capabilityDestructive
  | disclosureChanged => some disclosureDrift
  | authorizationDenied => some productRBACDenied
  | readOnlyWrite => some readOnly
  | approvalInvalid => some noSafeAction
  | notAutoEligible => some nonAutoEligible
  | notAllowlisted => some allowlistDenied
  | budgetExhausted => some safetyBudgetExceeded
  | circuitOpen => some circuitBreakerOpen
  | idempotencyRequired => some idempotencyConflict
  | verificationRequired => some verificationFailed
  | staleFencingEpoch => some staleLeadership
  | scopeDenied | approvalRequired | cooldownActive | preconditionFailed
  | ambiguousPriorAttempt => some code
  | _ => none

end DenialCode

inductive Mode where
  | disabled | readOnly | approval | auto
  deriving DecidableEq

inductive Effect where
  | read | write
  deriving DecidableEq

structure AuthorityInput where
  (featureEnabled connectionActive emergencyDisabled : Bool)
  mode : Mode
  effect : Effect
  (destructive disclosureCurrent liveAuthorized approvalRequested : Bool)
  interactiveApprovalRequired : Bool
  (findingResourceType findingResourceID : String)
  (approvalPresent approvalExact : Bool)
  approvalExpiresAt : Option Time
  (autoEligible allowlisted scopeAllowed budgetAvailable cooldownClear circuitClosed : Bool)
  (preconditionsMet idempotencyKeyPresent verificationDeclared : Bool)
  (fencingEpoch currentFencingEpoch : Int)
  (ambiguousPriorAttempt maintenanceClear : Bool)

def AuthorityInput.approvalCurrent (i : AuthorityInput) (now : Time) : Bool :=
  i.approvalExact && i.approvalExpiresAt.any (now < ·)

def decideAuthority (i : AuthorityInput) (now : Time) : Option DenialCode :=
  if !i.featureEnabled then some .featureDisabled
  else if !i.connectionActive then some .connectionInactive
  else if i.emergencyDisabled then some .emergencyDisabled
  else if i.mode = .disabled then some .modeDisabled
  else if i.destructive then some .destructiveCapability
  else if !i.disclosureCurrent then some .disclosureChanged
  else if !i.liveAuthorized then some .authorizationDenied
  else if i.effect = .read then none
  else if i.mode = .readOnly then some .readOnlyWrite
  else if !i.idempotencyKeyPresent then some .idempotencyRequired
  else if !i.verificationDeclared then some .verificationRequired
  else if i.fencingEpoch ≤ 0 ∨ i.fencingEpoch ≠ i.currentFencingEpoch then some .staleFencingEpoch
  else if i.ambiguousPriorAttempt then some .ambiguousPriorAttempt
  else if !i.maintenanceClear then some .maintenanceWindow
  else if !i.preconditionsMet then some .preconditionFailed
  else match i.mode with
  | .approval =>
    if !i.approvalPresent then some .approvalRequired
    else if !i.approvalCurrent now then some .approvalInvalid
    else none
  | .auto =>
    -- a requested approval never falls back to the automation path
    if i.approvalRequested then
      if !i.approvalPresent || !i.approvalCurrent now then some .approvalInvalid else none
    else if i.interactiveApprovalRequired then some .approvalRequired
    else if !i.autoEligible then some .notAutoEligible
    else if !i.allowlisted then some .notAllowlisted
    else if !i.scopeAllowed then some .scopeDenied
    else if !i.budgetAvailable then some .budgetExhausted
    else if !i.cooldownClear then some .cooldownActive
    else if !i.circuitClosed then some .circuitOpen
    else none
  | _ => some .modeDisabled

/-! ## Results and findings -/

structure FindingRecommendation where
  (title summary recommendedAction verification : String)
  executionBlockCode : DenialCode

def blockedFinding (code : DenialCode) (title summary action verification : String) :
    Option FindingRecommendation :=
  match code.normalizeNonExecutionReason with
  | none => none
  | some reason =>
    if reason.isActionableNonExecutionReason then
      some ⟨title, summary, action, verification, reason⟩
    else none

inductive ActionState where
  | proposed | approved
  | claimed | waitingApproval | blocked | deferred | dispatched | ambiguous | verifying
  | succeeded | failed | fenced
  deriving DecidableEq

structure ActionResult where
  allowed : Bool := false
  code : Option DenialCode := none
  state : ActionState
  replay : Bool := false
  result : Bytes := []
  verified : Bool := false
  finding : Option FindingRecommendation := none

def denied (code : DenialCode) : ActionResult := { code := some code, state := .blocked }

def actionableDenied (code : DenialCode) (summary : String) : ActionResult :=
  { denied code with
    finding := blockedFinding code "Charlie action requires attention" summary
      "Review the finding and current product authorization"
      "Re-read the affected management-plane resource after any approved action" }

/-! ## Capabilities (`catalog.go`, `capability_invariants.go`) -/

inductive CapabilitySource where
  | astronomerDatabase | astronomerServer | managementKubernetes | managementQueue
  deriving DecidableEq

structure CapabilityDescriptor where
  (name schemaVersion : String)
  effect : Effect
  (risk targetBounds impact reversibility rollback : String)
  source : CapabilitySource
  (rbacResource rbacVerb : String)
  acceptedFields : List String
  (maxResponseBytes timeoutSeconds : Nat)
  (destructive autoEligible idempotent requiresPrecondition requiresVerification : Bool)
  managedTargetAccess : Bool
  deriving DecidableEq

def maxActionArguments : Nat := 65536

def maxActionResult : Nat := 65536

def writeDesc (name : String) (source : CapabilitySource) (resource : String)
    (fields : List String) (auto : Bool) : CapabilityDescriptor where
  name := name
  schemaVersion := "1"
  effect := .write
  risk := "medium"
  targetBounds := "allowlisted_astronomer_management_component_only"
  impact := "bounded_management_plane_change"
  reversibility := "adapter_declared"
  rollback := "stop_and_operator_reconcile"
  source := source
  rbacResource := resource
  rbacVerb := "update"
  acceptedFields := fields
  maxResponseBytes := 65536
  timeoutSeconds := 30
  destructive := false
  autoEligible := auto
  idempotent := true
  requiresPrecondition := true
  requiresVerification := true
  managedTargetAccess := false

def readDesc (name : String) (source : CapabilitySource) (resource : String)
    (fields : List String) (maxBytes : Nat) : CapabilityDescriptor where
  name := name
  schemaVersion := "1"
  effect := .read
  risk := "low"
  targetBounds := "astronomer_management_plane_only"
  impact := "none"
  reversibility := "not_applicable"
  rollback := "not_applicable"
  source := source
  rbacResource := resource
  rbacVerb := "read"
  acceptedFields := fields
  maxResponseBytes := maxBytes
  timeoutSeconds := 10
  destructive := false
  autoEligible := false
  idempotent := false
  requiresPrecondition := false
  requiresVerification := false
  managedTargetAccess := false

/-! ## The envelope and what the standard library does with it -/

structure ActionEnvelope where
  (version deploymentID sessionID turnID actionID capability : String)
  arguments : Bytes
  (argumentDigest authorizationRef approvalID disclosureDigest : String)
  (modeRevision policyRevision fencingEpoch : Int)
  expiresAt : Time
  (idempotencyKey signature : String)

abbrev Arguments := List (String × Bytes)

structure Library where
  (trimSpace toLower : String → String)
  (decodeObject unmarshalObject : Bytes → Option Arguments)
  marshalObject : Arguments → Option Bytes
  marshalString : String → Bytes
  marshalResult : ActionResult → Option Bytes
  unmarshalResult : Bytes → Option ActionResult
  validJSON : Bytes → Bool
  signingBytes : ActionEnvelope → Option Bytes
  decodeSignature : String → Option Bytes
  verifySignature : Bytes → Bytes → Bool

namespace Library

variable (lib : Library)

def spoofableSafetyFields : List String :=
  ["effect", "risk", "destructive", "irreversible", "reversible", "reversibility", "rollback",
   "verification", "requires_verification", "idempotent", "idempotency", "auto", "auto_eligible",
   "approval", "approval_id"]

def spoofableFrom (seen : List String) : List String → Bool
  | [] => false
  | field :: fields =>
    let folded := lib.toLower (lib.trimSpace field)
    folded == "" || seen.contains folded || spoofableSafetyFields.contains folded ||
      spoofableFrom (folded :: seen) fields

def containsSpoofableSafetyField (fields : List String) : Bool := lib.spoofableFrom [] fields

def expectedWriteRBACVerb (name : String) : String :=
  if name = "astronomer.delivery.rollout_approve" then "approve"
  else if name = "astronomer.delivery.rollout_rollback" then "rollback"
  else "update"

/-- `validateV1CapabilityDescriptor(d) == nil`; the type of sources leaves
`validCapabilitySource` nothing to reject. -/
def validateV1CapabilityDescriptor (d : CapabilityDescriptor) : Bool :=
  lib.trimSpace d.name != "" && d.schemaVersion == "1" && !d.destructive &&
  !d.managedTargetAccess && 1 ≤ d.maxResponseBytes && d.maxResponseBytes ≤ maxActionResult &&
  1 ≤ d.timeoutSeconds && d.timeoutSeconds ≤ 120 && lib.trimSpace d.rbacResource != "" &&
  lib.trimSpace d.rbacVerb != "" && !lib.containsSpoofableSafetyField d.acceptedFields &&
  match d.effect with
  | .read =>
    d.risk == "low" && d.targetBounds == "astronomer_management_plane_only" &&
    d.impact == "none" && d.reversibility == "not_applicable" && d.rollback == "not_applicable" &&
    d.rbacVerb == "read" && !d.autoEligible && !d.idempotent && !d.requiresPrecondition &&
    !d.requiresVerification && !d.acceptedFields.contains "operation_id"
  | .write =>
    d.risk == "medium" &&
    d.targetBounds == "allowlisted_astronomer_management_component_only" &&
    d.impact == "bounded_management_plane_change" && d.reversibility == "adapter_declared" &&
    d.rollback == "stop_and_operator_reconcile" && d.rbacVerb == expectedWriteRBACVerb d.name &&
    d.idempotent && d.requiresPrecondition && d.requiresVerification &&
    d.acceptedFields.contains "operation_id" && d.acceptedFields.contains "resource_id"

/-! ## Digests -/

def utf8 (s : String) : Bytes := s.toByteArray.data.toList

def digestBytes (value : Bytes) : String := hexDigest (sha256 value)

def capabilityPreimage (capability : String) (canonical : Bytes) : Bytes :=
  utf8 capability ++ 0 :: canonical

def capabilityArgumentDigest (capability : String) (canonical : Bytes) : String :=
  hexDigest (sha256 (capabilityPreimage capability canonical))

def hashDelegation (reference : String) : String := digestBytes (utf8 (lib.trimSpace reference))

def resourceDigest (capability : String) (arguments : Arguments) : String :=
  match arguments.lookup "resource_id" with
  | some resourceID => digestBytes (utf8 capability ++ 0 :: utf8 "resource_id" ++ 0 :: resourceID)
  | none =>
    let kept := arguments.filter fun a => a.1 != "operation_id" && a.1 != "replicas"
    let sorted := kept.mergeSort fun a b => a.1 ≤ b.1
    digestBytes (utf8 capability ++ sorted.flatMap fun a => 0 :: utf8 a.1 ++ 0 :: a.2)

def argumentsForResourceDigest (raw : Bytes) : Arguments := (lib.unmarshalObject raw).getD []

def canonicalArguments (raw : Bytes) : Option (Bytes × Arguments) :=
  if raw.length = 0 ∨ maxActionArguments < raw.length then none
  else do
    let arguments ← lib.decodeObject raw
    let canonical ← lib.marshalObject arguments
    pure (canonical, arguments)

def bindTrustedOperationID (arguments : Arguments) (actionID : String) : Arguments :=
  ("operation_id", lib.marshalString actionID) ::
    arguments.filter fun a => a.1 != "operation_id"

end Library

end Astronomer.Charlie
