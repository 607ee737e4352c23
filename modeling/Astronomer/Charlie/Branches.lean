import Astronomer.Charlie.Guard

/-!
# The side branches of the guard

A path of `Execute` that does not lead to the executor records, stores and reports what
happened. A protocol that allows such calls is kept on all of these branches.
-/

namespace Astronomer.Charlie

def Side : Op → Prop
  | .claimReceipt _ | .getReceipt _ | .transitionReceipt _ | .commit _ _ | .execute _ _ => False
  | _ => True

structure Tolerates {κ : Type} (P : Protocol Op Ans κ) (g : Replica) (e : ActionEnvelope) :
    Prop where
  side : ∀ s op, Side op → P.allowed s op
  transition : ∀ next result, (g.transition e next result).Keeps P

theorem validReceiptTransition_claimed {current next}
    (h : validReceiptTransition current next) :
    next ≠ .claimed ∧ (next = .deferred → current = .claimed) ∧
      (next = .dispatched → current = .claimed) := by
  revert h
  cases current <;> cases next <;> decide

namespace Replica

theorem sealResult_only {result} {g : Replica} :
    (g.sealResult result).Only Side := by
  unfold sealResult
  split
  · exact Prog.only_pure
  split
  · exact Prog.only_pure
  refine (Prog.only_ask trivial).bind fun answer => ?_
  split
  · exact Prog.only_pure
  · split <;> exact Prog.only_pure

theorem decryptResult_only {r} {g : Replica} : (g.decryptResult r).Only Side := by
  unfold decryptResult
  split
  · exact Prog.only_pure
  split
  · exact Prog.only_pure
  refine (Prog.only_ask trivial).bind fun answer => ?_
  split
  · exact Prog.only_pure
  split
  · exact Prog.only_pure
  split
  · exact Prog.only_pure
  split
  · exact Prog.only_pure
  split <;> exact Prog.only_pure

end Replica

namespace Tolerates

open Replica

variable {κ : Type} {P : Protocol Op Ans κ} {g : Replica} {e : ActionEnvelope}
  {d : CapabilityDescriptor} {arguments : Arguments} {facts : AuthorityInput}
  {result : ActionResult} {durable : Bool}

section

variable (hP : Tolerates P g e)

include hP

theorem side_keeps {op} (h : Side op) : (ask op).Keeps P := Prog.keeps_ask fun s => hP.side s op h

theorem side_bind {α : Type} {op : Op} {f : Ans op → Program α}
    (h : Side op) (hf : ∀ a, (f a).Keeps P) : (ask op >>= f).Keeps P :=
  (hP.side_keeps h).bind hf

/-! ## Records -/

theorem recordAuditOutcome {phase : Phase} : (recordAuditOutcome phase result).Keeps P :=
  hP.side_bind trivial fun _ => Prog.keeps_pure

theorem audited {phase x} :
    (do Replica.recordAuditOutcome phase result; pure x : Program ActionResult).Keeps P :=
  hP.recordAuditOutcome.bind fun _ => Prog.keeps_pure

theorem recordReceiptOutcome {state : ActionState} :
    (g.recordReceiptOutcome e state result).Keeps P :=
  (hP.transition state result).bind fun _ => Prog.keeps_pure

theorem recordFenced : (g.recordFenced e).Keeps P :=
  hP.recordAuditOutcome.bind fun _ => hP.recordReceiptOutcome.bind fun _ => Prog.keeps_pure

theorem recordActionableFinding :
    (g.recordActionableFinding d facts result).Keeps P := by
  unfold Replica.recordActionableFinding
  split
  · exact Prog.keeps_pure
  split
  · exact Prog.keeps_pure
  refine hP.side_bind trivial fun recorded => ?_
  split <;> exact Prog.keeps_pure

theorem recordPolicyDenial {phase} : (g.recordPolicyDenial d facts result phase).Keeps P :=
  hP.recordAuditOutcome.bind fun _ => hP.recordActionableFinding

theorem recordExecutionFinding :
    (g.recordExecutionFinding d facts result).Keeps P := by
  unfold Replica.recordExecutionFinding
  split
  · exact Prog.keeps_pure
  split
  · exact Prog.keeps_pure
  · exact hP.recordActionableFinding

theorem outageFacts {known} :
    (outageFacts arguments known).Keeps P := by
  cases known with
  | some facts => exact Prog.keeps_pure
  | none => exact hP.side_keeps trivial

theorem recordAuditUnavailable {known : Option AuthorityInput} :
    (g.recordAuditUnavailable d arguments known).Keeps P := by
  unfold Replica.recordAuditUnavailable
  dsimp only
  split
  · exact Prog.keeps_pure
  refine hP.outageFacts.bind fun resolved => ?_
  split
  · exact Prog.keeps_pure
  split
  · exact Prog.keeps_pure
  refine hP.side_bind trivial fun stopped => ?_
  split
  · exact Prog.keeps_pure
  · exact hP.recordActionableFinding

/-! ## After the executor -/

theorem settleFailure {receiptState : ActionState → ActionState} :
    (g.settleFailure e d durable facts result receiptState).Keeps P := by
  unfold Replica.settleFailure
  refine hP.side_bind trivial fun stored => ?_
  dsimp only
  split
  · exact hP.recordReceiptOutcome.bind fun _ => hP.recordExecutionFinding
  · exact Prog.keeps_pure

theorem settleInterrupted : (g.settleInterrupted e d durable facts).Keeps P := hP.settleFailure

theorem settleSuccess :
    (g.settleSuccess e d durable facts result).Keeps P := by
  unfold Replica.settleSuccess
  refine hP.side_bind trivial fun stored => ?_
  split
  · split
    · refine (hP.transition _ _).bind fun answer => ?_
      split
      · exact Prog.keeps_pure
      · exact hP.recordExecutionFinding
    · exact Prog.keeps_pure
  · split
    · exact hP.recordReceiptOutcome.bind fun _ => hP.recordExecutionFinding
    · exact Prog.keeps_pure

theorem stoppedByFence : (stoppedByFence durable).Keeps P := by
  cases durable
  · exact Prog.keeps_pure
  · exact hP.side_keeps trivial

theorem callWasCanceled : (callWasCanceled durable).Keeps P := by
  cases durable
  · exact Prog.keeps_pure
  · exact hP.side_keeps trivial

theorem writeFenced : (writeFenced d).Keeps P := by
  unfold Replica.writeFenced
  split
  · exact hP.side_keeps trivial
  · exact Prog.keeps_pure

theorem interrupted :
    (do if (← Replica.stoppedByFence durable) then g.recordFenced e
        else g.settleInterrupted e d durable facts).Keeps P := by
  refine hP.stoppedByFence.bind fun stopped => ?_
  split
  · exact hP.recordFenced
  · exact hP.settleInterrupted

theorem verifyResult {resultBytes : Bytes} :
    (g.verifyResult e d arguments durable facts resultBytes).Keeps P := by
  unfold Replica.verifyResult
  refine hP.side_bind trivial fun ended => ?_
  split
  · exact hP.interrupted
  split
  · exact hP.settleFailure
  dsimp only
  split
  · refine hP.side_bind trivial fun verified => hP.side_bind trivial fun ended => ?_
    split
    · exact hP.interrupted
    split
    · exact hP.settleFailure
    · exact hP.settleSuccess
  · exact hP.settleSuccess

theorem invoke {s} (h : P.allowed s (.execute d arguments)) :
    (g.invoke e d arguments durable facts).Follows P (fun _ _ => True) s := by
  refine Prog.Follows.bind (M := fun _ _ => True) ⟨h, fun _ => trivial⟩ fun s' answer _ => ?_
  split
  · exact hP.verifyResult s'
  · refine hP.callWasCanceled.bind (fun cancelled => ?_) s'
    split
    · refine hP.stoppedByFence.bind fun stopped => ?_
      split
      · exact hP.recordFenced
      · exact hP.settleFailure
    · exact hP.settleFailure

/-! ## Before the executor -/

theorem unsafeDescriptor {phase x} :
    (do Replica.recordAuditOutcome phase result
        if durable then g.recordReceiptOutcome e .blocked result
        pure x : Program ActionResult).Keeps P := by
  refine hP.recordAuditOutcome.bind fun _ => ?_
  split
  · exact hP.recordReceiptOutcome.bind fun _ => Prog.keeps_pure
  · exact Prog.keeps_pure

theorem auditOutage : (g.auditOutage e d arguments facts).Keeps P := by
  unfold Replica.auditOutage
  refine hP.side_bind trivial fun fenced => ?_
  split
  · exact hP.recordFenced
  refine (hP.transition _ _).bind fun answer => ?_
  split
  · exact Prog.keeps_pure
  · exact hP.recordAuditUnavailable

theorem deferAction {resultBytes : Bytes} :
    (g.deferAction e resultBytes).Keeps P := by
  unfold Replica.deferAction
  dsimp only
  refine hP.side_bind trivial fun stored => ?_
  split
  · refine (hP.transition _ _).bind fun answer => ?_
    split <;> exact Prog.keeps_pure
  · exact hP.recordReceiptOutcome.bind fun _ => Prog.keeps_pure

theorem replayResult :
    (g.replayResult d arguments facts result).Keeps P := by
  unfold Replica.replayResult
  split
  · exact hP.recordAuditUnavailable.bind fun _ => Prog.keeps_pure
  split
  · exact hP.recordExecutionFinding.bind fun _ => Prog.keeps_pure
  · exact Prog.keeps_pure

theorem reject {code : DenialCode} : (reject code).Keeps P := by
  refine hP.side_bind trivial fun stored => ?_
  split
  · exact hP.audited
  · exact Prog.keeps_pure

end

end Tolerates

end Astronomer.Charlie
