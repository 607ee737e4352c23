import Astronomer.Charlie.Guard

/-!
# The receipt reconciler (`action_reconciler.go`)

After a crash a receipt is left behind with a lease that runs out. The
reconciler takes it over and asks only the capability's read-only postcondition:
it never repeats the action.
-/

namespace Astronomer.Charlie

namespace Replica

variable (g : Replica)

def decryptArguments (receipt : Receipt) (descriptor : Option CapabilityDescriptor) :
    Program (Option Arguments) :=
  match descriptor with
  | none => pure none
  | some d =>
    if d.effect ≠ .write ∨ d.requiresVerification = false ∨ receipt.effect ≠ .write ∨
        receipt.arguments.keyID = "" then pure none
    else do
      match ← ask (.decrypt receipt.arguments) with
      | none => pure none
      | some plain =>
        if plain.length = 0 ∨ maxActionArguments < plain.length then pure none else
        match g.lib.canonicalArguments plain with
        | none => pure none
        | some (canonical, arguments) =>
          if Library.digestBytes canonical ≠ receipt.argumentDigest ∨
              argumentsAccepted d arguments = false ∨
              g.validateCapabilityArguments d arguments = false then pure none
          else pure (some (g.lib.bindTrustedOperationID arguments receipt.charlieActionID))

def finish (receipt : Receipt) (next : ActionState) (result : ActionResult) : Program Bool := do
  match ← g.sealResult result with
  | .error _ => pure false
  | .ok (encoded, sealed) =>
    match ← ask (.transitionReceipt
      { nextState := next
        resultDigest := Library.digestBytes encoded
        resultStatus := result.state
        result := sealed
        id := receipt.id
        expectedState := receipt.state
        leaseOwner := g.leaseOwner
        fencingEpoch := receipt.fencingEpoch }) with
    | none => pure false
    | some updated => ask (.recordReconciliation updated next)

def ambiguousReceiptLease : Time := 45 * second

def ambiguousReceiptVerificationLimit : Time := 15 * minute

def verificationOverdue (receipt : Receipt) (now : Time) : Bool :=
  receipt.dispatchedAt.getD receipt.createdAt + ambiguousReceiptVerificationLimit ≤ now

def reconcile (receipt : Receipt) (now : Time) : Program Bool :=
  -- a claimed receipt was never dispatched: it is blocked without a postcondition
  if receipt.state = .claimed then
    g.finish receipt .blocked { code := some .ambiguousPriorAttempt, state := .blocked }
  else do
    let descriptor := g.capabilityByName receipt.capability
    match descriptor, ← g.decryptArguments receipt descriptor with
    | some d, some arguments =>
      let verified ← ask (.verify d arguments none)
      if verified = some true then
        g.finish receipt .succeeded { allowed := true, state := .succeeded, verified := true }
      else if verificationOverdue receipt now then
        g.finish receipt .failed { allowed := true, state := .failed }
      else g.finish receipt .ambiguous { allowed := true, state := .ambiguous }
    | _, _ => g.finish receipt .failed { allowed := true, state := .failed }

def maxAmbiguousReceiptReconcileBatch : Nat := 100

def reconcileBatch : Nat → Program Unit
  | 0 => pure ()
  | n + 1 => do
    let now ← ask .now
    match ← ask (.claimAmbiguousReceipt g.leaseOwner (now + ambiguousReceiptLease)) with
    | .claimed receipt => if (← g.reconcile receipt now) then reconcileBatch n else pure ()
    | .noRows => pure ()
    | .failed => pure ()

def runOnce : Program Unit := g.reconcileBatch maxAmbiguousReceiptReconcileBatch

end Replica

end Astronomer.Charlie
