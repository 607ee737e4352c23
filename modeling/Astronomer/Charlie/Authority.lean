import Astronomer.Base.History
import Astronomer.Charlie.Recovery
import Astronomer.Charlie.Tokens

/-!
# No side effect without audited authority

What has to have happened, and in which order, before `Execute` calls the executor for a write
capability: each step below is the one before it and then one more exchange.
-/

namespace Astronomer.Charlie

variable {P : History Op Ans → Prop}

open History

/-! ## The way to the executor -/

/-- The envelope's signature and argument digest hold, and its capability is `d`, which is
invoked with the disclosed arguments under the action's own operation identifier. -/
structure Verified (g : Replica) (e : ActionEnvelope) (d : CapabilityDescriptor)
    (arguments : Arguments) : Prop where
  signature : ∃ signed signature, g.lib.signingBytes e = some signed ∧
    g.lib.decodeSignature e.signature = some signature ∧ signature.length = 64 ∧
    g.lib.verifySignature signed signature
  digest : ∃ canonical disclosed,
    g.lib.canonicalArguments e.arguments = some (canonical, disclosed) ∧
    e.argumentDigest = Library.capabilityArgumentDigest e.capability canonical ∧
    arguments = g.lib.bindTrustedOperationID disclosed e.actionID
  capability : g.capabilityByName e.capability = some d

section Stages

variable (g : Replica) (e : ActionEnvelope) (d : CapabilityDescriptor) (arguments : Arguments)
  (facts : AuthorityInput)

def Admitted : History Op Ans → Prop :=
  Then (fun _ => Verified g e d arguments) ⟨.beginWrite, true⟩

def Proposed : History Op Ans → Prop :=
  Then (Admitted g e d arguments) ⟨.record .proposed { state := .proposed }, true⟩

def Held (p : ReceiptTable.ClaimParams) (r : Receipt) : Prop :=
  Replica.sameAction p r ∧ r.state = .claimed ∧ r.leaseOwner = p.leaseOwner ∧
    r.auditCorrelationID = p.auditCorrelationID

def Claimed (h : History Op Ans) : Prop :=
  ∃ p r, p.charlieActionID = e.actionID ∧
    (Then (Proposed g e d arguments) ⟨.claimReceipt p, some r⟩ h ∨
      Held p r ∧ Then (Then (Proposed g e d arguments) ⟨.claimReceipt p, none⟩)
        ⟨.getReceipt e.actionID, some r⟩ h)

def Allowed (h : History Op Ans) : Prop :=
  ∃ now, decideAuthority facts now = none ∧
    Then (Then (Claimed g e d arguments) ⟨.evaluate arguments, some facts⟩) ⟨.now, now⟩ h

def Approved : History Op Ans → Prop :=
  Then (Allowed g e d arguments facts)
    ⟨.record .approved { allowed := true, state := .approved }, true⟩

def DispatchAudited : History Op Ans → Prop :=
  Then (Approved g e d arguments facts)
    ⟨.record .dispatched { allowed := true, state := .dispatched }, true⟩

def Committed : History Op Ans → Prop :=
  Then (DispatchAudited g e d arguments facts) ⟨.commit arguments facts, .committed⟩

def Dispatched (h : History Op Ans) : Prop :=
  ∃ facts p r r', p.id = r.id ∧ p.expectedState = .claimed ∧ p.nextState = .dispatched ∧
    Then (Then (Committed g e d arguments facts) ⟨.getReceipt e.actionID, some r⟩)
      ⟨.transitionReceipt p, some r'⟩ h

end Stages

def authorityPermit (g : Replica) (e : ActionEnvelope) (h : History Op Ans) : Op → Prop
  | .execute d arguments => d.effect = .write → Dispatched g e d arguments h
  | .commit arguments facts => ∃ d, DispatchAudited g e d arguments facts h
  | _ => True

def guardPermit (g : Replica) (e : ActionEnvelope) (k : Token) (h : History Op Ans) (op : Op) :
    Prop :=
  authorityPermit g e h op ∧
    (dispatchProtocol e.actionID).allowed ((dispatchProtocol e.actionID).after k h) op

section Lasting

variable {g : Replica} {e : ActionEnvelope} {d : CapabilityDescriptor} {arguments : Arguments}
  {facts : AuthorityInput}

theorem lasting_claimed : Lasting (Claimed g e d arguments) := by
  rintro h more ⟨p, r, hp, ht | ⟨hh, ht⟩⟩
  · exact ⟨p, r, hp, .inl (lasting_then h more ht)⟩
  · exact ⟨p, r, hp, .inr ⟨hh, lasting_then h more ht⟩⟩

theorem lasting_allowed : Lasting (Allowed g e d arguments facts) := by
  rintro h more ⟨now, hd, ht⟩
  exact ⟨now, hd, lasting_then h more ht⟩

theorem lasting_dispatched : Lasting (Dispatched g e d arguments) := by
  rintro h more ⟨facts, p, r, r', hid, hf, hto, ht⟩
  exact ⟨facts, p, r, r', hid, hf, hto, lasting_then h more ht⟩

end Lasting

namespace Replica

variable {g : Replica} {e : ActionEnvelope} {d : CapabilityDescriptor} {arguments : Arguments}
  {facts : AuthorityInput} {result : ActionResult} {h : History Op Ans} {k : Token}

theorem verified_of_validate {now1 now2 supported}
    (hv : g.validate e now1 now2 supported = .ok (d, arguments)) :
    Verified g e d (g.lib.bindTrustedOperationID arguments e.actionID) := by
  simp only [validate, bind_eq_ok, require_eq_ok, orError_eq_ok, pure_eq_ok, Prod.mk.injEq,
    beq_iff_eq, Bool.and_eq_true, exists_const, Prod.exists] at hv
  obtain ⟨-, -, canonical, disclosed, hp, hdg, signed, hs, signature, hsg,
    ⟨hl, hvr⟩, d', hd, -, -, -, -, rfl, rfl⟩ := hv
  exact ⟨⟨signed, signature, hs, hsg, hl, hvr⟩, ⟨canonical, disclosed, hp, hdg, rfl⟩, hd⟩

/-! ## The receipt store -/

theorem permit_side {op} (hop : Side op) : guardPermit g e k h op := by
  refine ⟨?_, (hop.idle.allowed _).1⟩
  cases op <;> first | exact hop.elim | trivial

theorem after_side {op} {actionID : String} (answer : Ans op) (hop : Side op) :
    (dispatchProtocol actionID).after k (h ++ [⟨op, answer⟩]) =
      (dispatchProtocol actionID).after k h :=
  Protocol.after_snoc.trans ((hop.idle.allowed _).2 answer)

theorem transition_authorized {next : ActionState} (hl : Lasting P) (hP : P h) :
    (g.transition e next result).Follows (recorded (guardPermit g e k))
      (fun h' answer => P h' ∧ (answer = .ok () → (next = .dispatched →
        ((dispatchProtocol e.actionID).after k h').permit) ∧ ∃ p r r', p.id = r.id ∧
        p.nextState = next ∧ validReceiptTransition p.expectedState next ∧
        Then (Then P ⟨.getReceipt e.actionID, some r⟩) ⟨.transitionReceipt p, some r'⟩ h')) h := by
  unfold transition
  refine Prog.follows_ask_bind ⟨trivial, rfl⟩ fun answer => ?_
  cases answer with
  | none => exact ⟨hl _ _ hP, by simp⟩
  | some r =>
    have hr : Then P ⟨.getReceipt e.actionID, some r⟩
        (h ++ [⟨.getReceipt e.actionID, some r⟩]) := .snoc hP
    have hm : r.id ∈ ((dispatchProtocol e.actionID).after k
        (h ++ [⟨.getReceipt e.actionID, some r⟩])).mine := by
      rw [Protocol.after_snoc]
      exact List.mem_cons_self
    dsimp only
    split
    · exact ⟨hr.earlier hl, by simp⟩
    split
    · exact ⟨hr.earlier hl, by simp⟩
    rename_i hv
    have hside : ∀ h op answer, Side op → Then P ⟨.getReceipt e.actionID, some r⟩ h ∧
        r.id ∈ ((dispatchProtocol e.actionID).after k h).mine →
        Then P ⟨.getReceipt e.actionID, some r⟩ (h ++ [⟨op, answer⟩]) ∧
          r.id ∈ ((dispatchProtocol e.actionID).after k (h ++ [⟨op, answer⟩])).mine := by
      intro h op answer hop ⟨hr, hm⟩
      rw [after_side answer hop]
      exact ⟨lasting_then _ _ hr, hm⟩
    refine (sealResult_only.follows_recorded (fun _ _ => permit_side) hside ⟨hr, hm⟩).bind ?_
    rintro h1 sealing ⟨hr, hm⟩
    rcases sealing with err | ⟨encoded, sealed⟩
    · exact ⟨hr.earlier hl, by simp⟩
    have hv : validReceiptTransition r.state next := by simpa using hv
    obtain ⟨hc, hdf, hd⟩ := validReceiptTransition_claimed hv
    refine Prog.follows_ask_bind ⟨trivial, hc, hdf, fun h => ⟨hd h, hm⟩⟩ fun answer => ?_
    cases answer with
    | none => exact ⟨hl _ _ (hr.earlier hl), by simp⟩
    | some r' =>
      refine ⟨hl _ _ (hr.earlier hl), fun _ => ⟨fun hn => ?_, _, r, r', rfl, rfl, hv, .snoc hr⟩⟩
      simp [Protocol.after_snoc, dispatchProtocol, hn]

theorem guard_tolerates (g : Replica) (e : ActionEnvelope) (k : Token) :
    Tolerates (recorded (guardPermit g e k)) g e where
  side _ _ hop := permit_side hop
  transition _ _ _ :=
    (transition_authorized (P := fun _ => True) (fun _ _ _ => trivial) trivial).mono
      fun _ _ _ => trivial

theorem side_follows {α : Type} {Q : History Op Ans → α → Prop}
    {op : Op} {f : Ans op → Program α} (hop : Side op) (hl : Lasting P) (hP : P h)
    (hf : ∀ a h', P h' → (f a).Follows (recorded (guardPermit g e k)) Q h') :
    (ask op >>= f).Follows (recorded (guardPermit g e k)) Q h :=
  ⟨permit_side hop, fun a => hf a _ (hl _ _ hP)⟩

theorem resolveExisting_authorized {p : ReceiptTable.ClaimParams} {r : Receipt} (hl : Lasting P)
    (hP : P h) :
    (g.resolveExisting p r).Follows (recorded (guardPermit g e k))
      (fun h' disposition => disposition = some .claimed → Held p r ∧ P h') h := by
  unfold resolveExisting
  split
  · exact fun h => nomatch h
  rename_i hs
  split
  next hh => exact fun _ => ⟨⟨by simpa using hs, hh⟩, hP⟩
  split
  all_goals first
    | exact fun h => nomatch h
    | refine (decryptResult_only.follows_recorded (fun _ _ => permit_side)
        (fun h _ _ _ => hl h _) hP).bind ?_
      intro h' answer _
      cases answer <;> exact fun h => nomatch h

theorem claim_authorized (hP : Proposed g e d arguments h) :
    (g.claim e d).Follows (recorded (guardPermit g e k))
      (fun h' disposition => disposition = some .claimed → Claimed g e d arguments h') h := by
  unfold claim
  refine side_follows trivial lasting_then hP fun sealed h hP => ?_
  split
  · exact fun h => nomatch h
  split
  · exact fun h => nomatch h
  refine side_follows trivial lasting_then hP fun connection h hP => ?_
  split
  · exact fun h => nomatch h
  split
  · exact fun h => nomatch h
  refine side_follows trivial lasting_then hP fun session h hP => ?_
  split
  · exact fun h => nomatch h
  split
  · exact fun h => nomatch h
  refine side_follows trivial lasting_then hP fun now h hP => ?_
  refine side_follows trivial lasting_then hP fun correlation h hP => ?_
  refine Prog.follows_ask_bind ⟨trivial, trivial⟩ fun row => ?_
  cases row with
  | some r => exact fun _ => ⟨_, r, rfl, .inl (.snoc hP)⟩
  | none =>
    refine Prog.follows_ask_bind ⟨trivial, rfl⟩ fun existing => ?_
    cases existing with
    | none => exact fun h => nomatch h
    | some r =>
      refine (resolveExisting_authorized lasting_then (Then.snoc (Then.snoc hP))).mono ?_
      intro h' disposition hc hd
      obtain ⟨hh, ht⟩ := hc hd
      exact ⟨_, r, rfl, .inr ⟨hh, ht⟩⟩

/-! ## The guard -/

theorem executeAndVerify_authorized (hP : Committed g e d arguments facts h) :
    (g.executeAndVerify e d arguments true facts).Follows (recorded (guardPermit g e k))
      (fun _ _ => True) h := by
  unfold executeAndVerify
  split
  · exact (guard_tolerates g e k).unsafeDescriptor h
  refine side_follows trivial lasting_then hP fun fenced h hP => ?_
  split
  · exact (guard_tolerates g e k).recordFenced h
  refine (transition_authorized lasting_then hP).bind fun h answer hmv => ?_
  cases answer with
  | error err =>
    refine side_follows trivial lasting_then hmv.1 fun fenced h _ => ?_
    split
    · exact (guard_tolerates g e k).recordFenced h
    · exact (guard_tolerates g e k).audited h
  | ok u =>
    obtain ⟨hperm, p, r, r', hid, hn, hv, ht⟩ := hmv.2 rfl
    have hf : p.expectedState = .claimed := (validReceiptTransition_claimed hv).2.2 rfl
    have hd : Dispatched g e d arguments h := ⟨facts, p, r, r', hid, hf, hn, ht⟩
    refine Prog.follows_ask_bind (permit_side trivial) fun fenced => ?_
    split
    · exact (guard_tolerates g e k).recordFenced _
    · refine (guard_tolerates g e k).invoke ⟨fun _ => lasting_dispatched _ _ hd, fun _ => ?_⟩
      rw [after_side fenced trivial]
      exact hperm rfl

theorem executeAndVerify_read (hr : d.effect = .read) :
    (g.executeAndVerify e d arguments false facts).Keeps (recorded (guardPermit g e k)) := by
  unfold executeAndVerify
  split
  · exact (guard_tolerates g e k).unsafeDescriptor
  · exact fun h => (guard_tolerates g e k).invoke ⟨fun hw => by simp [hr] at hw,
      fun hw => by simp [hr] at hw⟩

theorem commitAndExecute_authorized (hs : g.lib.validateV1CapabilityDescriptor d)
    (hP : DispatchAudited g e d arguments facts h) :
    (g.commitAndExecute e d arguments facts).Follows (recorded (guardPermit g e k))
      (fun _ _ => True) h := by
  unfold commitAndExecute commitAuthority
  rw [if_neg (by simp [hs])]
  refine Prog.follows_ask_bind ⟨⟨d, hP⟩, trivial⟩ fun answer => ?_
  cases answer with
  | committed =>
    refine side_follows trivial lasting_then (.snoc hP) fun fenced h hP => ?_
    split
    · exact (guard_tolerates g e k).recordFenced h
    · exact executeAndVerify_authorized hP
  | deferred resultBytes =>
    refine side_follows trivial lasting_then (.snoc hP) fun fenced h _ => ?_
    split
    · exact (guard_tolerates g e k).recordFenced h
    · exact (guard_tolerates g e k).deferAction h
  | failed =>
    refine side_follows trivial lasting_then (.snoc hP) fun fenced h _ => ?_
    split
    · exact (guard_tolerates g e k).recordFenced h
    · exact ((guard_tolerates g e k).recordReceiptOutcome.bind fun _ =>
        (guard_tolerates g e k).recordPolicyDenial) h

theorem auditAndCommit_authorized (hP : Allowed g e d arguments facts h) :
    (g.auditAndCommit e d arguments facts).Follows (recorded (guardPermit g e k))
      (fun _ _ => True) h := by
  unfold auditAndCommit
  refine side_follows trivial lasting_allowed hP fun fenced h hP => ?_
  split
  · exact (guard_tolerates g e k).recordFenced h
  split
  · exact ((guard_tolerates g e k).recordAuditOutcome.bind fun _ =>
      (guard_tolerates g e k).recordReceiptOutcome.bind fun _ => Prog.keeps_pure) h
  rename_i hs
  refine Prog.follows_ask_bind (permit_side trivial) fun approved => ?_
  cases approved with
  | false => exact (guard_tolerates g e k).auditOutage _
  | true =>
    refine side_follows trivial lasting_then (.snoc hP) fun fenced h hP => ?_
    split
    · exact (guard_tolerates g e k).recordFenced h
    refine Prog.follows_ask_bind (permit_side trivial) fun dispatched => ?_
    cases dispatched with
    | false => exact (guard_tolerates g e k).auditOutage _
    | true =>
      refine side_follows trivial lasting_then (.snoc hP) fun fenced h hP => ?_
      split
      · exact (guard_tolerates g e k).recordFenced h
      · exact commitAndExecute_authorized (by simpa using hs) hP

theorem dispatchClaimed_authorized (hP : Claimed g e d arguments h) :
    (g.dispatchClaimed e d arguments).Follows (recorded (guardPermit g e k))
      (fun _ _ => True) h := by
  unfold dispatchClaimed
  refine side_follows trivial lasting_claimed hP fun fenced h hP => ?_
  split
  · exact (guard_tolerates g e k).recordFenced h
  refine Prog.follows_ask_bind (permit_side trivial) fun answer => ?_
  cases answer with
  | none =>
    refine Prog.follows_ask_bind (permit_side trivial) fun fenced => ?_
    split
    · exact (guard_tolerates g e k).recordFenced _
    · exact ((guard_tolerates g e k).recordAuditOutcome.bind fun _ =>
        (guard_tolerates g e k).recordReceiptOutcome.bind fun _ => Prog.keeps_pure) _
  | some facts =>
    have he : Then (Claimed g e d arguments) ⟨.evaluate arguments, some facts⟩
        (h ++ [⟨.evaluate arguments, some facts⟩]) := .snoc hP
    refine Prog.follows_ask_bind (permit_side trivial) fun now => ?_
    cases hd : decideAuthority facts now with
    | some code =>
      dsimp only
      exact ((guard_tolerates g e k).recordReceiptOutcome.bind fun _ =>
        (guard_tolerates g e k).recordPolicyDenial) _
    | none =>
      dsimp only
      exact auditAndCommit_authorized ⟨now, hd, .snoc he⟩

theorem claimAndDispatch_authorized (hP : Proposed g e d arguments h) :
    (g.claimAndDispatch e d arguments facts).Follows (recorded (guardPermit g e k))
      (fun _ _ => True) h := by
  unfold claimAndDispatch
  refine side_follows trivial lasting_then hP fun fenced h hP => ?_
  split
  · exact (guard_tolerates g e k).audited h
  refine (claim_authorized hP).bind fun h disposition hc => ?_
  split
  · exact (guard_tolerates g e k).audited h
  · exact ((guard_tolerates g e k).replayResult.bind fun _ =>
      (guard_tolerates g e k).audited) h
  · exact ((guard_tolerates g e k).recordExecutionFinding.bind fun _ =>
      (guard_tolerates g e k).audited) h
  · exact (guard_tolerates g e k).audited h
  · exact dispatchClaimed_authorized (hc rfl)

theorem authorize_authorized (hP : d.effect = .write → Proposed g e d arguments h) :
    (g.authorize e d arguments).Follows (recorded (guardPermit g e k)) (fun _ _ => True) h := by
  unfold authorize
  refine side_follows (P := fun h => d.effect = .write → Proposed g e d arguments h) trivial
    (fun h more hP hw => lasting_then h more (hP hw)) hP fun answer h hP => ?_
  split
  · refine ((guard_tolerates g e k).writeFenced.bind fun fenced => ?_) h
    split <;> exact (guard_tolerates g e k).audited
  · refine side_follows (P := fun h => d.effect = .write → Proposed g e d arguments h) trivial
      (fun h more hP hw => lasting_then h more (hP hw)) hP fun now h hP => ?_
    split
    · exact (guard_tolerates g e k).recordPolicyDenial h
    split
    next hr => exact executeAndVerify_read hr h
    next hw => exact claimAndDispatch_authorized (hP hw)

theorem propose_authorized (hP : d.effect = .write → Admitted g e d arguments h) :
    (g.propose e d arguments).Follows (recorded (guardPermit g e k)) (fun _ _ => True) h := by
  unfold propose
  refine Prog.follows_ask_bind (permit_side trivial) fun stored => ?_
  cases stored with
  | true => exact authorize_authorized fun hw => .snoc (hP hw)
  | false =>
    refine ((guard_tolerates g e k).writeFenced.bind fun fenced => ?_) _
    split
    · exact (guard_tolerates g e k).audited
    · exact (guard_tolerates g e k).recordAuditUnavailable

theorem execute_authorized : (g.execute e).Follows (recorded (guardPermit g e k))
    (fun _ _ => True) h := by
  unfold execute
  refine Prog.follows_ask_bind (permit_side trivial) fun now1 => ?_
  refine Prog.follows_ask_bind (permit_side trivial) fun now2 => ?_
  refine Prog.follows_ask_bind (permit_side trivial) fun supported => ?_
  split
  · exact (guard_tolerates g e k).reject _
  rename_i d disclosed hv
  split
  next hr => exact propose_authorized fun hw => by simp [hr] at hw
  next =>
    refine Prog.follows_ask_bind (permit_side trivial) fun admitted => ?_
    cases admitted with
    | true => exact propose_authorized fun _ => .snoc (verified_of_validate hv)
    | false => exact trivial

theorem execute_keeps : (g.execute e).Keeps (dispatchProtocol e.actionID) := fun _ =>
  (execute_authorized (h := [])).of_recorded fun _ _ hp => hp.2

/-- **No side effect without audited, single-use authority.** Before `Execute` calls the
executor for a write capability, the envelope was verified and admitted by the fence, proposed,
claimed and allowed, approval and dispatch were audited, and the commit and the receipt's move
succeeded, in this order; before it calls `authority.Commit`, both audits are stored. -/
theorem write_needs_authority (g : Replica) (e : ActionEnvelope) (h : History Op Ans) (op : Op)
    (k : Ans op → Program ActionResult) (hr : (g.execute e).Reaches h (.call op k)) :
    (∀ d arguments, op = .execute d arguments → d.effect = .write → Dispatched g e d arguments h) ∧
    ∀ arguments facts, op = .commit arguments facts →
      ∃ d, DispatchAudited g e d arguments facts h := by
  have hp : authorityPermit g e h op :=
    ((execute_authorized (k := ⟨false, []⟩) (h := [])).of_reaches hr).1.1
  constructor
  · rintro d arguments rfl hw
    exact hp hw
  · rintro arguments facts rfl
    exact hp

end Replica

/-! ## The task retry, on the way to its dispatch -/

namespace RetryTask

def permitted : AuthorityInput where
  featureEnabled := true
  connectionActive := true
  emergencyDisabled := false
  mode := .auto
  effect := .write
  destructive := false
  disclosureCurrent := true
  liveAuthorized := true
  approvalRequested := false
  interactiveApprovalRequired := false
  findingResourceType := ""
  findingResourceID := ""
  approvalPresent := false
  approvalExact := false
  approvalExpiresAt := none
  autoEligible := true
  allowlisted := true
  scopeAllowed := true
  budgetAvailable := true
  cooldownClear := true
  circuitClosed := true
  preconditionsMet := true
  idempotencyKeyPresent := true
  verificationDeclared := true
  fencingEpoch := 1
  currentFencingEpoch := 1
  ambiguousPriorAttempt := false
  maintenanceClear := true

def willing : (op : Op) → Ans op
  | .now => 0
  | .evaluate _ => some permitted
  | .commit _ _ => .committed
  | .getConnection _ => some ⟨UUID.nil, true, false⟩
  | .getSession _ => some ⟨UUID.nil, UUID.nil, .active⟩
  | .claimReceipt _ | .getReceipt _ | .transitionReceipt _ => some claimed
  | op => oracle op

def callsWrite : Program ActionResult → Bool
  | .call (.execute d _) _ => d.effect = .write
  | _ => false

theorem retry_dispatched : ∃ d arguments h, d.effect = .write ∧
    Dispatched replica envelope d arguments h := by
  have hc : callsWrite (Prog.advance willing 29 [] (replica.execute envelope)).2 := by
    decide +kernel
  have hr := Prog.reaches_advance willing 29 (.refl (x := replica.execute envelope))
  generalize Prog.advance willing 29 [] (replica.execute envelope) = stand at hc hr
  obtain ⟨h, y⟩ := stand
  unfold callsWrite at hc
  split at hc
  next d arguments k hy =>
    obtain rfl : y = _ := hy
    have hw : d.effect = .write := by simpa using hc
    exact ⟨d, arguments, h, hw,
      (Replica.write_needs_authority replica envelope h _ _ hr).1 d arguments rfl hw⟩
  · cases hc

end RetryTask

end Astronomer.Charlie
