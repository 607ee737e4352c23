import Astronomer.Charlie.System

/-!
# Reconciling what the guard has written

The guard's digest covers the capability's name, a zero byte and the arguments; the
reconciler compares it with the digest of the arguments alone. So a receipt left behind by a
crash ends as failed, unless the two hashes agree.
-/

namespace Astronomer.Charlie

structure Receipt.SameAction (r r0 : Receipt) : Prop where
  charlieActionID : r.charlieActionID = r0.charlieActionID
  capability : r.capability = r0.capability
  effect : r.effect = r0.effect
  argumentDigest : r.argumentDigest = r0.argumentDigest
  arguments : r.arguments = r0.arguments
  fencingEpoch : r.fencingEpoch = r0.fencingEpoch

structure Cipher where
  encrypt : Bytes → Option Sealed
  decrypt : Sealed → Option Bytes
  decrypt_encrypt : ∀ {plain sealed}, encrypt plain = some sealed → decrypt sealed = some plain
  keyID_ne : ∀ {plain sealed}, encrypt plain = some sealed → sealed.keyID ≠ ""

/-- Surroundings in which a reconciler pass meets no failure: the cipher works, the
postcondition holds, and a result can be stored. -/
structure Cipher.Serves (c : Cipher) (lib : Library) (oracle : (op : Op) → Ans op) : Prop where
  decrypt : ∀ sealed, oracle (.decrypt sealed) = c.decrypt sealed
  encrypt : ∀ plain, oracle (.encrypt plain) = c.encrypt plain
  verify : ∀ d arguments, oracle (.verify d arguments none) = some true
  stores : ∀ result, ∃ encoded sealed, lib.marshalResult result = some encoded ∧
    encoded.length ≠ 0 ∧ encoded.length ≤ maxStoredResult ∧
    c.encrypt encoded = some sealed ∧ sealed.isZero = false

def reliable (taken finished : Moment) (oracle : (op : Op) → Ans op) :
    (op : Op) → World → Ans op × World
  | .claimAmbiguousReceipt owner lease =>
    World.serve taken .none oracle "" (.claimAmbiguousReceipt owner lease)
  | op => World.serve finished .none oracle "" op

def Library.DigestsAgree (lib : Library) (e : ActionEnvelope) : Prop :=
  ∀ canonical arguments, lib.canonicalArguments e.arguments = some (canonical, arguments) →
    Library.capabilityArgumentDigest e.capability canonical = Library.digestBytes canonical

namespace Replica

variable {g : Replica} {e : ActionEnvelope} {d : CapabilityDescriptor} {arguments : Arguments}
  {canonical : Bytes} {now1 now2 : Time} {supported : Bool}

structure Accepted (g : Replica) (e : ActionEnvelope) (d : CapabilityDescriptor)
    (arguments : Arguments) (canonical : Bytes) : Prop where
  parsed : g.lib.canonicalArguments e.arguments = some (canonical, arguments)
  digest : e.argumentDigest = Library.capabilityArgumentDigest e.capability canonical
  descriptor : g.capabilityByName e.capability = some d
  accepted : argumentsAccepted d arguments
  valid : g.validateCapabilityArguments d arguments

theorem accepted_of_validate (h : g.validate e now1 now2 supported = .ok (d, arguments)) :
    ∃ canonical, g.Accepted e d arguments canonical := by
  simp only [validate, bind_eq_ok, require_eq_ok, orError_eq_ok, pure_eq_ok, Prod.mk.injEq,
    beq_iff_eq, exists_const, Prod.exists] at h
  obtain ⟨-, -, canonical, arguments', hp, hdg, -, -, -, -, -, d', hd, -, -, ha, hv, rfl, rfl⟩ := h
  exact ⟨canonical, hp, hdg, hd, ha, hv⟩

theorem Accepted.size (h : g.Accepted e d arguments canonical) :
    ¬ (e.arguments.length = 0 ∨ maxActionArguments < e.arguments.length) := by
  intro hsz
  have hp := h.parsed
  rw [Library.canonicalArguments, if_pos hsz] at hp
  cases hp

theorem Accepted.name (h : g.Accepted e d arguments canonical) : d.name = e.capability := by
  simpa using List.find?_some h.descriptor

/-! ## One pass over a receipt the guard has written -/

section Pass

variable {c : Cipher} {oracle : (op : Op) → Ans op} {taken finished : Moment} {w : World}
  {r : Receipt} {sealed : Sealed} {connection session correlation : UUID} {now0 : Time}
  {m0 : Moment}

theorem decryptArguments_exec (hs : c.Serves g.lib oracle)
    (ha : g.Accepted e d arguments canonical) (hw : d.effect = .write)
    (hv : d.requiresVerification) (hsl : c.encrypt e.arguments = some sealed)
    (hr : r.SameAction ((g.claimParams e d connection session sealed now0 correlation).row m0)) :
    (g.decryptArguments r (some d)).exec (reliable taken finished oracle) w =
      (if Library.digestBytes canonical = e.argumentDigest then
        some (g.lib.bindTrustedOperationID arguments e.actionID) else none, w) := by
  have hk : r.arguments.keyID ≠ "" := by
    rw [hr.arguments]
    exact c.keyID_ne hsl
  have hef : r.effect = .write := hr.effect.trans hw
  have hd : oracle (.decrypt r.arguments) = some e.arguments := by
    rw [hs.decrypt, hr.arguments]
    exact c.decrypt_encrypt hsl
  have hdg : r.argumentDigest = e.argumentDigest := hr.argumentDigest
  have han : r.charlieActionID = e.actionID := hr.charlieActionID
  simp only [decryptArguments, hw, hv, hef, hk, ne_eq, not_true_eq_false,
    Bool.true_eq_false, or_self, if_false, Prog.exec_bind, Prog.exec_ask, reliable, World.serve,
    hd, ha.size, ha.parsed, ha.accepted, ha.valid, hdg,
    han, or_false]
  by_cases h : Library.digestBytes canonical = e.argumentDigest <;> simp [h]

theorem finish_exec (taken finished : Moment) (hs : c.Serves g.lib oracle)
    (hr : w.receipts.get e.actionID = some r)
    (how : r.leaseOwner = g.leaseOwner) (next : ActionState) (result : ActionResult) :
    ∃ w' r', ((g.finish r next result).exec (reliable taken finished oracle) w).2 = w' ∧
      w'.calls = w.calls ∧ w'.receipts.get e.actionID = some r' ∧ r'.state = next := by
  obtain ⟨encoded, sealed', hm, hnn, hb, he, hn⟩ := hs.stores result
  have hsz : ¬ (encoded.length = 0 ∨ maxStoredResult < encoded.length) := by omega
  let p : ReceiptTable.TransitionParams := {
      nextState := next
      resultDigest := Library.digestBytes encoded
      resultStatus := result.state
      result := sealed'
      id := r.id
      expectedState := r.state
      leaseOwner := g.leaseOwner
      fencingEpoch := r.fencingEpoch }
  have ha : p.accepts r := by simp [p, ReceiptTable.TransitionParams.accepts, how]
  obtain ⟨t', ht, hg⟩ := ReceiptTable.transition_of_accepts finished hr ha
  refine ⟨{ w with receipts := t' }, _, ?_, rfl, hg, rfl⟩
  simp only [finish, sealResult, hm, hsz, if_false, Prog.exec_bind, Prog.exec_ask,
    reliable, World.serve, hs.encrypt, he, hn, Bool.false_eq_true,
    Prog.exec_pure, World.statement, p] at ht ⊢
  rw [ht]
  rfl

theorem reconcile_exec (taken finished : Moment) (now : Time) (hsr : c.Serves g.lib oracle)
    (ha : g.Accepted e d arguments canonical) (hw : d.effect = .write)
    (hv : d.requiresVerification) (hsl : c.encrypt e.arguments = some sealed)
    (hs : r.SameAction ((g.claimParams e d connection session sealed now0 correlation).row m0))
    (hst : r.state ≠ .claimed) (hr : w.receipts.get e.actionID = some r)
    (how : r.leaseOwner = g.leaseOwner) :
    ∃ w' r', ((g.reconcile r now).exec (reliable taken finished oracle) w).2 = w' ∧
      w'.receipts.get e.actionID = some r' ∧
      if Library.digestBytes canonical = e.argumentDigest then
        w'.calls = .verify d (g.lib.bindTrustedOperationID arguments e.actionID) :: w.calls ∧
          r'.state = .succeeded
      else w'.calls = w.calls ∧ r'.state = .failed := by
  have hd : g.capabilityByName r.capability = some d := by
    rw [hs.capability]
    show g.capabilityByName d.name = some d
    rw [ha.name, ha.descriptor]
  by_cases hdg : Library.digestBytes canonical = e.argumentDigest
  · let w1 : World := { w with
      calls := .verify d (g.lib.bindTrustedOperationID arguments e.actionID) :: w.calls }
    obtain ⟨w', r', hw', hc, hg, hn⟩ := finish_exec (w := w1) taken finished hsr hr how .succeeded
        { allowed := true, state := .succeeded, verified := true }
    refine ⟨w', r', ?_, hg, ?_⟩
    · rw [reconcile, if_neg hst, hd]
      simp only [Prog.exec_bind, decryptArguments_exec hsr ha hw hv hsl
        hs, hdg, if_true, Prog.exec_ask, reliable, World.serve, hsr.verify]
      exact hw'
    · rw [if_pos hdg]
      exact ⟨hc, hn⟩
  · obtain ⟨w', r', hw', hc, hg, hn⟩ :=
      finish_exec taken finished hsr hr how .failed { allowed := true, state := .failed }
    refine ⟨w', r', ?_, hg, ?_⟩
    · rw [reconcile, if_neg hst, hd]
      simp only [Prog.exec_bind, decryptArguments_exec hsr ha hw hv hsl hs, hdg, if_false]
      exact hw'
    · rw [if_neg hdg]
      exact ⟨hc, hn⟩

theorem reconcileBatch_exec (taken finished : Moment) (owner : String) (hsr : c.Serves g.lib oracle)
    (ha : g.Accepted e d arguments canonical) (hw : d.effect = .write)
    (hv : d.requiresVerification) (hsl : c.encrypt e.arguments = some sealed)
    (hs : r.SameAction ((g.claimParams e d connection session sealed now0 correlation).row m0))
    (hst : r.state = .dispatched ∨ r.state = .verifying ∨ r.state = .ambiguous)
    (hc : w.receipts.candidate taken = some r) :
    ∃ w' r', ((({ g with leaseOwner := owner } : Replica).reconcileBatch 1).exec
        (reliable taken finished oracle) w).2 = w' ∧ w'.receipts.get e.actionID = some r' ∧
      if Library.digestBytes canonical = e.argumentDigest then
        w'.calls = .verify d (g.lib.bindTrustedOperationID arguments e.actionID) :: w.calls ∧
          r'.state = .succeeded
      else w'.calls = w.calls ∧ r'.state = .failed := by
  let g' : Replica := { g with leaseOwner := owner }
  let lease := oracle .now + ambiguousReceiptLease
  let r' := (ReceiptTable.takeOver taken owner lease).set r
  have ha' : g'.Accepted e d arguments canonical :=
    ⟨ha.parsed, ha.digest, ha.descriptor, ha.accepted, ha.valid⟩
  have hs' : r'.SameAction
      ((g'.claimParams e d connection session sealed now0 correlation).row m0) :=
    ⟨hs.charlieActionID, hs.capability, hs.effect, hs.argumentDigest, hs.arguments, hs.fencingEpoch⟩
  have hst' : r'.state ≠ .claimed := by
    rcases hst with h | h | h <;> simp [r', ReceiptTable.takeOver, h]
  obtain ⟨t, hcm, hg⟩ := ReceiptTable.claimAmbiguous_of_candidate owner lease hc
  have hcm' : w.receipts.claimAmbiguous taken owner (oracle .now + ambiguousReceiptLease) =
      some (t, r') := hcm
  rw [show r.charlieActionID = e.actionID from hs.charlieActionID] at hg
  obtain ⟨w', r'', hw', hg', he⟩ :=
    reconcile_exec (g := g') (w := { w with receipts := t }) taken finished (oracle .now) hsr
      ha' hw hv hsl hs' hst' hg rfl
  refine ⟨w', r'', ?_, hg', he⟩
  rw [← hw']
  simp only [reconcileBatch, Prog.exec_bind, Prog.exec_ask, reliable, World.serve, hcm',
    World.statement]
  split <;> rfl

/-- **The round trip**: a receipt the guard wrote and a crash left behind is verified
with the envelope's arguments and ends as succeeded, exactly when the two digests agree. -/
theorem reconcile_recovers_iff (owner : String)
    (hvalid : g.validate e now1 now2 supported = .ok (d, arguments)) (hwrite : d.effect = .write)
    (hverification : d.requiresVerification) (hseal : c.encrypt e.arguments = some sealed)
    (hsame : r.SameAction ((g.claimParams e d connection session sealed now0 correlation).row m0))
    (hstate : r.state = .dispatched ∨ r.state = .verifying ∨ r.state = .ambiguous)
    (hcandidate : w.receipts.candidate taken = some r) (hserves : c.Serves g.lib oracle) :
    let w' := ((({ g with leaseOwner := owner } : Replica).reconcileBatch 1).exec
      (reliable taken finished oracle) w).2
    (w'.calls = .verify d (g.lib.bindTrustedOperationID arguments e.actionID) :: w.calls ∧
      (w'.receipts.get e.actionID).map Receipt.state = some .succeeded) ↔
    g.lib.DigestsAgree e := by
  obtain ⟨canonical, ha⟩ := accepted_of_validate hvalid
  obtain ⟨w', r', hw', hg, he⟩ := reconcileBatch_exec taken finished owner hserves ha
    hwrite hverification hseal hsame hstate hcandidate
  have hag : g.lib.DigestsAgree e ↔ Library.digestBytes canonical = e.argumentDigest := by
    rw [ha.digest]
    constructor
    · intro h
      exact (h canonical arguments ha.parsed).symm
    · intro h canonical' arguments' h'
      obtain ⟨rfl, rfl⟩ := Prod.mk.inj (Option.some.inj (ha.parsed.symm.trans h'))
      exact h.symm
  intro w2
  rw [hag, show w2 = w' from hw', hg]
  by_cases hdg : Library.digestBytes canonical = e.argumentDigest
  · rw [if_pos hdg] at he
    simp [hdg, he.1, he.2]
  · rw [if_neg hdg] at he
    simp [hdg, he.1]

end Pass

end Replica

/-! ## A task retry whose server crashed after the dispatch -/

namespace RetryTask

def raw : Bytes :=
  Library.utf8 "\x7b\"operation_id\":\"op-1\",\"resource_id\":\"local\",\"task_id\":\"t-1\"\x7d"

def arguments : Arguments :=
  [("operation_id", Library.utf8 "\"op-1\""), ("resource_id", Library.utf8 "\"local\""),
   ("task_id", Library.utf8 "\"t-1\"")]

def descriptor : CapabilityDescriptor :=
  writeDesc "astronomer.queue.retry_task" .managementQueue "monitoring"
    ["resource_id", "task_id", "operation_id"] true

def library : Library where
  trimSpace := id
  toLower := id
  decodeObject b := if b = raw then some arguments else none
  unmarshalObject b := if b = raw then some arguments else none
  marshalObject a := if a = arguments then some raw else none
  marshalString s := Library.utf8 ("\"" ++ s ++ "\"")
  marshalResult _ := some [123, 125]
  unmarshalResult _ := none
  validJSON _ := true
  signingBytes _ := some []
  decodeSignature _ := some (List.replicate 64 0)
  verifySignature _ _ := true

def replica : Replica where
  lib := library
  catalog := [descriptor]
  validateCapabilityArguments _ _ := true
  leaseOwner := "server-0"
  findings := false
  installID := ""

def envelope : ActionEnvelope where
  version := "charlie-action/v1"
  deploymentID := "deployment"
  sessionID := "session"
  turnID := "turn"
  actionID := "action"
  capability := "astronomer.queue.retry_task"
  arguments := raw
  argumentDigest := Library.capabilityArgumentDigest "astronomer.queue.retry_task" raw
  authorizationRef := "authorization"
  approvalID := ""
  disclosureDigest := "disclosure"
  modeRevision := 1
  policyRevision := 1
  fencingEpoch := 1
  expiresAt := minute
  idempotencyKey := "action"
  signature := "signature"

def cipher : Cipher where
  encrypt plain := some ⟨"key", "age-x25519", plain, []⟩
  decrypt sealed := some sealed.ciphertext
  decrypt_encrypt := by rintro plain sealed ⟨⟩; rfl
  keyID_ne := by rintro plain sealed ⟨⟩; simp

def oracle : (op : Op) → Ans op
  | .now => 10 * minute
  | .supportsCapability _ | .beginWrite | .record _ _ | .recordBlocked _
  | .recordReconciliation _ _ => true
  | .operationErr | .callErr | .callCanceled | .fenceClosed => false
  | .evaluate _ => none
  | .commit _ _ => .failed
  | .getConnection _ => none
  | .getSession _ => none
  | .encrypt plain => cipher.encrypt plain
  | .decrypt sealed => cipher.decrypt sealed
  | .newUUID => UUID.nil
  | .claimReceipt _ | .getReceipt _ | .transitionReceipt _ => none
  | .claimAmbiguousReceipt _ _ => .noRows
  | .execute _ _ => none
  | .verify _ _ _ => some true

def sealed : Sealed := ⟨"key", "age-x25519", raw, []⟩

def moment (now : Time) : Moment := ⟨now, UUID.nil, fun _ => false, fun _ => false⟩

def claimed : Receipt :=
  (replica.claimParams envelope descriptor UUID.nil UUID.nil sealed 0 UUID.nil).row (moment 0)

def receipt : Receipt := { claimed with state := .dispatched, dispatchedAt := some second }

def world : World :=
  ⟨⟨[receipt], List.nodup_singleton _, List.nodup_singleton _⟩, []⟩

theorem validate_envelope :
    replica.validate envelope 0 0 true = .ok (descriptor, arguments) := by
  rfl

theorem receipt_sameAction : receipt.SameAction claimed := ⟨rfl, rfl, rfl, rfl, rfl, rfl⟩

theorem candidate_eq : world.receipts.candidate (moment (10 * minute)) = some receipt := by
  have ha : ReceiptTable.abandoned (moment (10 * minute)) receipt = true := by decide
  simp [ReceiptTable.candidate, world, ha]

theorem cipher_serves : cipher.Serves library oracle := ⟨fun _ => rfl, fun _ => rfl, fun _ _ => rfl,
    fun _ => ⟨[123, 125], _, rfl, by decide, by decide, rfl, by decide⟩⟩

theorem digests_differ : Library.digestBytes raw ≠ envelope.argumentDigest := by decide +kernel

theorem receipt_reconcile_iff : let w' := ((replica.reconcileBatch 1).exec
      (reliable (moment (10 * minute)) (moment (11 * minute)) oracle) world).2
    (w'.calls = [.verify descriptor (library.bindTrustedOperationID arguments "action")] ∧
      (w'.receipts.get "action").map Receipt.state = some .succeeded) ↔
    library.DigestsAgree envelope :=
  Replica.reconcile_recovers_iff "server-0" validate_envelope rfl rfl rfl receipt_sameAction
    (.inl rfl) candidate_eq cipher_serves

/-- The retry succeeded, yet its receipt fails and the postcondition is never asked. -/
theorem receipt_fails : let w' := ((replica.reconcileBatch 1).exec
      (reliable (moment (10 * minute)) (moment (11 * minute)) oracle) world).2
    replica.validate envelope 0 0 true = .ok (descriptor, arguments) ∧
      receipt.SameAction claimed ∧ receipt.state = .dispatched ∧
      w'.calls = [] ∧ (w'.receipts.get "action").map Receipt.state = some .failed := by
  obtain ⟨w', r', hw', hg, he⟩ := Replica.reconcileBatch_exec (moment (10 * minute))
    (moment (11 * minute)) "server-0" cipher_serves
    ⟨rfl, rfl, rfl, rfl, rfl⟩ rfl rfl rfl receipt_sameAction (.inl rfl) candidate_eq
  rw [if_neg digests_differ] at he
  intro w2
  refine ⟨validate_envelope, receipt_sameAction, rfl, ?_⟩
  rw [show w2 = w' from hw', show w'.receipts.get "action" = some r' from hg]
  exact ⟨he.1, by simp [he.2]⟩

end RetryTask

end Astronomer.Charlie
