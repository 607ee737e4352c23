import Astronomer.Base.Except
import Astronomer.Charlie.Receipts

/-!
# The action guard (`action_guard.go`)

`ActionGuard.Execute` as a program over the boundary's calls, branch by branch.
The contexts of the source differ only in when they are cancelled, so a check of
one is a call that answers whether it is. Metrics and log lines are left out.
-/

namespace Astronomer.Charlie

namespace Replica

variable (g : Replica)

def capabilityByName (name : String) : Option CapabilityDescriptor :=
  g.catalog.find? fun d => d.name = name

def wellFormed (e : ActionEnvelope) (now1 now2 : Time) : Bool :=
  e.version == "charlie-action/v1" && e.deploymentID != "" && e.sessionID != "" &&
  e.turnID != "" && e.actionID != "" && e.capability != "" && e.authorizationRef != "" &&
  e.disclosureDigest != "" && 1 ≤ e.modeRevision && 1 ≤ e.policyRevision &&
  1 ≤ e.fencingEpoch && now1 < e.expiresAt && e.expiresAt ≤ now2 + 15 * minute

def argumentsAccepted (d : CapabilityDescriptor) (arguments : Arguments) : Bool :=
  arguments.all fun a => d.acceptedFields.contains a.1

def validate (e : ActionEnvelope) (now1 now2 : Time) (supported : Bool) :
    Except DenialCode (CapabilityDescriptor × Arguments) := do
  require (wellFormed e now1 now2) .authorizationDenied
  require (e.idempotencyKey == e.actionID) .idempotencyRequired
  let (canonical, arguments) ← orError (g.lib.canonicalArguments e.arguments) .idempotencyRequired
  require (e.argumentDigest == Library.capabilityArgumentDigest e.capability canonical)
    .idempotencyRequired
  let signed ← orError (g.lib.signingBytes e) .authorizationDenied
  let signature ← orError (g.lib.decodeSignature e.signature) .authorizationDenied
  require (signature.length == 64 && g.lib.verifySignature signed signature) .authorizationDenied
  let d ← orError (g.capabilityByName e.capability) .scopeDenied
  require (g.lib.validateV1CapabilityDescriptor d) .destructiveCapability
  require supported .scopeDenied
  require (argumentsAccepted d arguments) .scopeDenied
  require (g.validateCapabilityArguments d arguments) .scopeDenied
  pure (d, arguments)

/-! ## What is recorded besides -/

def recordAuditOutcome (phase : Phase) (result : ActionResult) : Program Unit := do
  let _ ← ask (.record phase result)
  pure ()

variable (e : ActionEnvelope) (d : CapabilityDescriptor) (arguments : Arguments) (durable : Bool)
  (facts : AuthorityInput)

def recordReceiptOutcome (state : ActionState) (result : ActionResult) : Program Unit := do
  let _ ← g.transition e state result
  pure ()

def recordFenced : Program ActionResult := do
  recordAuditOutcome .fenced (denied .emergencyDisabled)
  g.recordReceiptOutcome e .fenced (denied .emergencyDisabled)
  pure (denied .emergencyDisabled)

def blockedAdvice : Option DenialCode → String × String
  | some .auditUnavailable => ("high",
    "Restore product audit storage, then retry the exact action; no approval, automation " ++
      "budget, or product operation was consumed.")
  | some .readOnlyWrite => ("warning",
    "Keep read-only mode, or change to approval-required mode and review the exact " ++
      "proposed action.")
  | some .approvalRequired => ("warning",
    "Review the exact proposed action and approve or reject it from the Charlie approval queue.")
  | some .approvalInvalid => ("warning",
    "Refresh the approval queue; the prior approval is expired, changed, or already consumed.")
  | some .notAutoEligible => ("warning",
    "Use approval-required mode for this action; it is not eligible for unattended execution.")
  | some .notAllowlisted => ("warning",
    "Review the central allowlist and local action policy, or use approval-required mode.")
  | some .budgetExhausted | some .cooldownActive | some .circuitOpen => ("warning",
    "Review the local action budget, cooldown, and circuit state before retrying or " ++
      "approving manually.")
  | some .scopeDenied | some .authorizationDenied => ("warning",
    "Review the initiating identity and exact product-owned resource permissions.")
  | some .preconditionFailed | some .verificationRequired => ("warning",
    "Re-read the affected management-plane resource and verify the required safety preconditions.")
  | some .maintenanceWindow => ("warning",
    "Wait for the product maintenance window to reopen, then re-evaluate the proposed action.")
  | some .staleFencingEpoch | some .ambiguousPriorAttempt | some .idempotencyRequired => ("high",
    "Do not retry blindly; reconcile the prior action receipt and current leader epoch first.")
  | some .destructiveCapability => ("high",
    "Use an operator-owned workflow outside Charlie; destructive actions are prohibited.")
  | _ => ("warning",
    "Review the finding and current Charlie permissions before deciding whether to proceed.")

def blockedActionFindingInput (resourceType resourceID capability : String) (mode : Mode)
    (code : Option DenialCode) : FindingInput where
  installationID := g.installID
  resourceType := resourceType
  resourceID := resourceID
  capability := capability
  mode := mode
  code := code
  severity := (blockedAdvice code).1
  title := "Charlie recommends an operator decision"
  summary :=
    "Charlie identified a management-plane action that current product policy did not permit."
  recommendedAction := (blockedAdvice code).2
  riskImpact :=
    "No action was dispatched; the condition may continue until an operator decides or " ++
      "policy changes."
  verification :=
    "Re-read the affected management-plane resource and confirm the finding state after " ++
      "the decision."

def recordActionableFinding (result : ActionResult) : Program ActionResult :=
  if result.finding.isNone then pure result
  else if !g.findings || g.installID == "" || d.name == "" || facts.findingResourceType == "" ||
      facts.findingResourceID == "" then
    pure { result with finding := none }
  else do
    let recorded ← ask (.recordBlocked (g.blockedActionFindingInput facts.findingResourceType
      facts.findingResourceID d.name facts.mode result.code))
    if recorded then pure result else pure { result with finding := none }

def recordPolicyDenial (result : ActionResult) (phase : Phase) : Program ActionResult := do
  recordAuditOutcome phase result
  g.recordActionableFinding d facts result

def isRetryableExecutionFinding (code : Option DenialCode) : Bool :=
  code = some .verificationRequired || code = some .ambiguousPriorAttempt

def recordExecutionFinding (result : ActionResult) : Program ActionResult :=
  match result.code with
  | none => pure result
  | some code =>
    if d.effect ≠ .write ∨ isRetryableExecutionFinding (some code) = false then pure result
    else g.recordActionableFinding d facts
      { result with
        finding := blockedFinding code "Charlie action requires verification"
          "The product action did not produce a safely verified terminal result."
          "Reconcile the durable operation receipt before retrying any action."
          ("Re-read the affected management-plane resource and compare it with the " ++
            "operation receipt.")
          <|> result.finding }

def outageFacts : Option AuthorityInput → Program (Option AuthorityInput)
  | some facts => pure (some facts)
  | none => ask (.evaluate arguments)

def recordAuditUnavailable (knownFacts : Option AuthorityInput) : Program ActionResult :=
  let result := actionableDenied .auditUnavailable "Required product audit storage is unavailable"
  let silent := { result with finding := none }
  if d.effect ≠ .write ∨ g.lib.validateV1CapabilityDescriptor d = false then pure silent
  else do
    match ← outageFacts arguments knownFacts with
    | none => pure silent
    | some facts =>
      if !facts.featureEnabled || !facts.connectionActive || facts.emergencyDisabled ||
          facts.mode == .disabled then pure silent
      else if (← ask .operationErr) then pure silent
      else g.recordActionableFinding d facts result

/-! ## Execution (`executeAndVerify`) -/

/-- A call that did not end in a verified result: audit, receipt, finding. The state
the receipt is left in is `receiptState` of the result's, once the audit is known. -/
def settleFailure (result : ActionResult) (receiptState : ActionState → ActionState) :
    Program ActionResult := do
  let stored ← ask (.record .failed result)
  let settled := if stored then result else { result with state := .ambiguous }
  if durable then
    g.recordReceiptOutcome e (receiptState settled.state) settled
    g.recordExecutionFinding d facts settled
  else pure settled

def settleInterrupted : Program ActionResult :=
  g.settleFailure e d durable facts
    { allowed := true, code := some .ambiguousPriorAttempt, state := .ambiguous }
    (fun _ => .ambiguous)

def settleSuccess (result : ActionResult) : Program ActionResult := do
  let ambiguous : ActionResult :=
    { allowed := true, code := some .ambiguousPriorAttempt, state := .ambiguous }
  if (← ask (.record .succeeded result)) then
    if durable then
      match ← g.transition e .succeeded result with
      | .ok () => pure result
      | .error _ => g.recordExecutionFinding d facts ambiguous
    else pure result
  else if durable then
    g.recordReceiptOutcome e .ambiguous ambiguous
    g.recordExecutionFinding d facts ambiguous
  else pure { allowed := true, state := .ambiguous }

def stoppedByFence : Program Bool :=
  if durable then ask .fenceClosed else pure false

def callWasCanceled : Program Bool :=
  if durable then ask .callCanceled else pure false

def verifyResult (resultBytes : Bytes) : Program ActionResult := do
  if (← ask .callErr) then
    if (← stoppedByFence durable) then g.recordFenced e
    else g.settleInterrupted e d durable facts
  else if min d.maxResponseBytes maxActionResult < resultBytes.length ∨
      g.lib.validJSON resultBytes = false then
    g.settleFailure e d durable facts
      { allowed := true, code := some .ambiguousPriorAttempt, state := .failed } id
  else
    let success : ActionResult :=
      { allowed := true, state := .succeeded, result := resultBytes, verified := true }
    if d.requiresVerification then
      let verified ← ask (.verify d arguments (some resultBytes))
      if (← ask .callErr) then
        if (← stoppedByFence durable) then g.recordFenced e
        else g.settleInterrupted e d durable facts
      else if verified ≠ some true then
        g.settleFailure e d durable facts
          { allowed := true, code := some .verificationRequired, state := .failed } id
      else g.settleSuccess e d durable facts success
    else g.settleSuccess e d durable facts success

def invoke : Program ActionResult := do
  match ← ask (.execute d arguments) with
  | some resultBytes => g.verifyResult e d arguments durable facts resultBytes
  | none =>
    let settle := g.settleFailure e d durable facts
      { allowed := true, code := some .ambiguousPriorAttempt, state := .failed }
      (fun _ => .ambiguous)
    if (← callWasCanceled durable) then
      if (← stoppedByFence durable) then g.recordFenced e else settle
    else settle

def executeAndVerify : Program ActionResult :=
  if g.lib.validateV1CapabilityDescriptor d = false then do
    recordAuditOutcome .denied (denied .destructiveCapability)
    if durable then g.recordReceiptOutcome e .blocked (denied .destructiveCapability)
    pure (denied .destructiveCapability)
  else if durable then do
    if (← ask .operationErr) then g.recordFenced e
    else
      match ← g.transition e .dispatched { allowed := true, state := .dispatched } with
      | .error _ =>
        if (← ask .operationErr) then g.recordFenced e
        else do
          recordAuditOutcome .failed (denied .ambiguousPriorAttempt)
          pure (denied .ambiguousPriorAttempt)
      | .ok () =>
        if (← ask .operationErr) then g.recordFenced e
        else g.invoke e d arguments true facts
  else g.invoke e d arguments false facts

/-! ## `Execute` -/

def auditOutage : Program ActionResult := do
  if (← ask .operationErr) then g.recordFenced e
  else
    match ← g.transition e .blocked (denied .auditUnavailable) with
    | .error _ => pure (denied .auditUnavailable)
    | .ok () => g.recordAuditUnavailable d arguments (some facts)

def commitAuthority : Program CommitAnswer :=
  if g.lib.validateV1CapabilityDescriptor d = false then pure .committed
  else ask (.commit arguments facts)

def deferAction (resultBytes : Bytes) : Program ActionResult := do
  let result : ActionResult := { allowed := true, state := .deferred, result := resultBytes }
  if (← ask (.record .deferred result)) then
    match ← g.transition e .deferred result with
    | .ok () => pure result
    | .error _ => pure (denied .ambiguousPriorAttempt)
  else
    g.recordReceiptOutcome e .blocked (denied .authorizationDenied)
    pure (denied .authorizationDenied)

def commitAndExecute : Program ActionResult := do
  match ← g.commitAuthority d arguments facts with
  | .committed =>
    if (← ask .operationErr) then g.recordFenced e
    else g.executeAndVerify e d arguments true facts
  | .deferred resultBytes =>
    if (← ask .operationErr) then g.recordFenced e
    else g.deferAction e resultBytes
  | .failed =>
    if (← ask .operationErr) then g.recordFenced e
    else
      let result := actionableDenied .approvalInvalid
        "The exact approval or automation budget was already consumed or changed"
      g.recordReceiptOutcome e .blocked result
      g.recordPolicyDenial d facts result .denied

def auditAndCommit : Program ActionResult := do
  if (← ask .operationErr) then g.recordFenced e
  else if g.lib.validateV1CapabilityDescriptor d = false then
    recordAuditOutcome .fenced (denied .destructiveCapability)
    g.recordReceiptOutcome e .blocked (denied .destructiveCapability)
    pure (denied .destructiveCapability)
  else if !(← ask (.record .approved { allowed := true, state := .approved })) then
    g.auditOutage e d arguments facts
  else if (← ask .operationErr) then g.recordFenced e
  else if !(← ask (.record .dispatched { allowed := true, state := .dispatched })) then
    g.auditOutage e d arguments facts
  else if (← ask .operationErr) then g.recordFenced e
  else g.commitAndExecute e d arguments facts

def dispatchClaimed : Program ActionResult := do
  if (← ask .operationErr) then g.recordFenced e
  else
    match ← ask (.evaluate arguments) with
    | none =>
      if (← ask .operationErr) then g.recordFenced e
      else
        recordAuditOutcome .fenced (denied .authorizationDenied)
        g.recordReceiptOutcome e .blocked (denied .authorizationDenied)
        pure (denied .authorizationDenied)
    | some facts =>
      let now ← ask .now
      match decideAuthority facts now with
      | some code =>
        let result := actionableDenied code "Product policy changed before dispatch"
        g.recordReceiptOutcome e .blocked result
        g.recordPolicyDenial d facts result .fenced
      | none => g.auditAndCommit e d arguments facts

def replayResult (result : ActionResult) : Program ActionResult :=
  if result.code = some .auditUnavailable ∧ d.effect = .write then do
    let fresh ← g.recordAuditUnavailable d arguments (some facts)
    pure { fresh with replay := true }
  else if d.effect = .write ∧ isRetryableExecutionFinding result.code = true then do
    let fresh ← g.recordExecutionFinding d facts { result with replay := true }
    pure { fresh with replay := true }
  else pure { result with replay := true }

def claimAndDispatch : Program ActionResult := do
  if (← ask .operationErr) then
    recordAuditOutcome .fenced (denied .emergencyDisabled)
    pure (denied .emergencyDisabled)
  else
    match ← g.claim e d with
    | none =>
      recordAuditOutcome .denied (denied .ambiguousPriorAttempt)
      pure (denied .ambiguousPriorAttempt)
    | some (.replay stored) =>
      let result ← g.replayResult d arguments facts stored
      recordAuditOutcome .replayed result
      pure result
    | some .ambiguous =>
      let result ← g.recordExecutionFinding d facts
        (actionableDenied .ambiguousPriorAttempt
          "A prior attempt has an ambiguous outcome and requires reconciliation")
      recordAuditOutcome .denied result
      pure result
    | some .conflict =>
      recordAuditOutcome .denied (denied .idempotencyRequired)
      pure (denied .idempotencyRequired)
    | some .claimed => g.dispatchClaimed e d arguments

def writeFenced : Program Bool :=
  if d.effect = .write then ask .operationErr else pure false

def authorize : Program ActionResult := do
  match ← ask (.evaluate arguments) with
  | none =>
    if (← writeFenced d) then
      recordAuditOutcome .fenced (denied .emergencyDisabled)
      pure (denied .emergencyDisabled)
    else
      recordAuditOutcome .denied (denied .authorizationDenied)
      pure (denied .authorizationDenied)
  | some facts =>
    let now ← ask .now
    match decideAuthority facts now with
    | some code =>
      g.recordPolicyDenial d facts (actionableDenied code
        "Charlie identified an action that current product policy does not permit") .denied
    | none =>
      match d.effect with
      | .read => g.executeAndVerify e d arguments false facts
      | .write => g.claimAndDispatch e d arguments facts

def propose : Program ActionResult := do
  if (← ask (.record .proposed { state := .proposed })) then g.authorize e d arguments
  else
    if (← writeFenced d) then
      recordAuditOutcome .fenced (denied .emergencyDisabled)
      pure (denied .emergencyDisabled)
    else g.recordAuditUnavailable d arguments none

def reject (code : DenialCode) : Program ActionResult := do
  if (← ask (.record .proposed { state := .proposed })) then
    recordAuditOutcome .denied (denied code)
    pure (denied code)
  else pure (denied code)

def execute : Program ActionResult := do
  let now1 ← ask .now
  let now2 ← ask .now
  let supported ← ask (.supportsCapability e.capability)
  match g.validate e now1 now2 supported with
  | .error code => reject code
  | .ok (d, arguments) =>
    match d.effect with
    | .read => g.propose e d arguments
    | .write =>
      if (← ask .beginWrite) then
        g.propose e d (g.lib.bindTrustedOperationID arguments e.actionID)
      else pure (denied .emergencyDisabled)

end Replica

end Astronomer.Charlie
