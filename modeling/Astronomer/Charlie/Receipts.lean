import Astronomer.Base.Interaction
import Astronomer.Base.Table
import Astronomer.Charlie.Types

/-!
# Action receipts (`action_receipts.go`, `charlie.sql`)

The durable receipt of an action, the four statements that touch it and `DBActionReceiptStore`
as a program. A statement's clock, row locks and generated identifier are its `Moment`.
-/

namespace Astronomer.Charlie

open List

/-! ## The table -/

structure Sealed where
  (keyID algorithm : String)
  (ciphertext nonce : Bytes)

def Sealed.isZero (s : Sealed) : Bool :=
  s.keyID == "" && s.algorithm == "" && s.ciphertext.length == 0

structure Receipt where
  (id connectionID sessionID : UUID)
  (charlieActionID turnID capability : String)
  effect : Effect
  argumentDigest : String
  arguments : Sealed
  (authorizationHash resourceDigest : String)
  fencingEpoch : Int
  productIdempotencyKey : String
  state : ActionState
  attempt : Nat
  leaseOwner : String
  leaseExpiresAt : Time
  resultDigest : String
  resultStatus : Option ActionState
  result : Option Sealed
  auditCorrelationID : UUID
  (dispatchedAt verifiedAt : Option Time)
  (createdAt updatedAt : Time)

structure ReceiptTable where
  rows : List Receipt
  ids_nodup : (rows.map Receipt.id).Nodup
  actions_nodup : (rows.map Receipt.charlieActionID).Nodup

structure Moment where
  now : Time
  freshID : UUID
  deferralDue : String → Bool
  locked : UUID → Bool

/-! ## The statements -/

namespace ReceiptTable

variable (m : Moment) (t : ReceiptTable)

def empty : ReceiptTable := ⟨[], nodup_nil, nodup_nil⟩

def get (actionID : String) : Option Receipt :=
  t.rows.find? fun r => r.charlieActionID = actionID

structure RowUpdate where
  set : Receipt → Receipt
  set_id : ∀ r, (set r).id = r.id
  set_action : ∀ r, (set r).charlieActionID = r.charlieActionID

def update (p : Receipt → Bool) (u : RowUpdate) : ReceiptTable where
  rows := updateWhere p u.set t.rows
  ids_nodup := by rw [map_updateWhere u.set_id]; exact t.ids_nodup
  actions_nodup := by rw [map_updateWhere u.set_action]; exact t.actions_nodup

structure ClaimParams where
  (connectionID sessionID : UUID)
  (charlieActionID turnID capability : String)
  effect : Effect
  argumentDigest : String
  arguments : Sealed
  authorizationHash : String
  fencingEpoch : Int
  (productIdempotencyKey leaseOwner : String)
  leaseExpiresAt : Time
  auditCorrelationID : UUID
  resourceDigest : String

def ClaimParams.row (p : ClaimParams) : Receipt where
  id := m.freshID
  connectionID := p.connectionID
  sessionID := p.sessionID
  charlieActionID := p.charlieActionID
  turnID := p.turnID
  capability := p.capability
  effect := p.effect
  argumentDigest := p.argumentDigest
  arguments := p.arguments
  authorizationHash := p.authorizationHash
  resourceDigest := p.resourceDigest
  fencingEpoch := p.fencingEpoch
  productIdempotencyKey := p.productIdempotencyKey
  state := .claimed
  attempt := 1
  leaseOwner := p.leaseOwner
  leaseExpiresAt := p.leaseExpiresAt
  resultDigest := ""
  resultStatus := none
  result := none
  auditCorrelationID := p.auditCorrelationID
  dispatchedAt := none
  verifiedAt := none
  createdAt := m.now
  updatedAt := m.now

def reclaimable (p : ClaimParams) (r : Receipt) : Bool :=
  r.charlieActionID = p.charlieActionID &&
  ((r.state = .claimed && r.leaseExpiresAt < m.now) ||
    (r.state = .deferred && m.deferralDue r.charlieActionID)) &&
  r.argumentDigest = p.argumentDigest && r.authorizationHash = p.authorizationHash &&
  r.fencingEpoch = p.fencingEpoch && r.resourceDigest = p.resourceDigest &&
  r.createdAt < p.leaseExpiresAt

def reclaim (p : ClaimParams) : RowUpdate where
  set r :=
    { r with
      state := .claimed
      leaseOwner := p.leaseOwner
      leaseExpiresAt := p.leaseExpiresAt
      attempt := r.attempt + 1
      updatedAt := m.now }
  set_id _ := rfl
  set_action _ := rfl

def claim (p : ClaimParams) : Option (ReceiptTable × Receipt) :=
  if hact : p.charlieActionID ∈ t.rows.map Receipt.charlieActionID then
    (t.rows.find? (reclaimable m p)).map fun r =>
      (t.update (reclaimable m p) (reclaim m p), (reclaim m p).set r)
  else if hid : m.freshID ∈ t.rows.map Receipt.id then none
  else if p.productIdempotencyKey ∈ t.rows.map Receipt.productIdempotencyKey then none
  else if p.leaseExpiresAt ≤ m.now then none
  else some
    ({ rows := t.rows ++ [p.row m]
       ids_nodup := nodup_map_insert t.ids_nodup hid
       actions_nodup := nodup_map_insert t.actions_nodup hact }, p.row m)

structure TransitionParams where
  nextState : ActionState
  resultDigest : String
  resultStatus : ActionState
  result : Sealed
  id : UUID
  expectedState : ActionState
  leaseOwner : String
  fencingEpoch : Int

def TransitionParams.accepts (p : TransitionParams) (r : Receipt) : Bool :=
  r.id = p.id && r.state = p.expectedState && r.leaseOwner = p.leaseOwner &&
  r.fencingEpoch = p.fencingEpoch

def TransitionParams.apply (p : TransitionParams) : RowUpdate where
  set r :=
    { r with
      state := p.nextState
      resultDigest := p.resultDigest
      resultStatus := some p.resultStatus
      result := some p.result
      dispatchedAt := if p.nextState = .dispatched then some m.now else r.dispatchedAt
      verifiedAt :=
        if p.nextState = .succeeded ∨ p.nextState = .failed then some m.now else r.verifiedAt
      updatedAt := m.now }
  set_id _ := rfl
  set_action _ := rfl

def transition (p : TransitionParams) : Option (ReceiptTable × Receipt) :=
  (t.rows.find? p.accepts).map fun r =>
    (t.update p.accepts (p.apply m), (p.apply m).set r)

def abandoned (r : Receipt) : Bool :=
  (r.state = .claimed || r.state = .dispatched || r.state = .ambiguous || r.state = .verifying) &&
  r.leaseExpiresAt < m.now && !m.locked r.id

def earlier (a b : Receipt) : Bool :=
  a.updatedAt < b.updatedAt || (a.updatedAt = b.updatedAt && a.id.text ≤ b.id.text)

def candidate : Option Receipt := ((t.rows.filter (abandoned m)).mergeSort earlier).head?

def takeOver (owner : String) (leaseExpiresAt : Time) : RowUpdate where
  set r :=
    { r with
      state := if r.state = .claimed then .claimed else .verifying
      leaseOwner := owner
      leaseExpiresAt := leaseExpiresAt
      attempt := r.attempt + 1
      updatedAt := m.now }
  set_id _ := rfl
  set_action _ := rfl

def claimAmbiguous (owner : String) (leaseExpiresAt : Time) : Option (ReceiptTable × Receipt) :=
  (t.candidate m).map fun r =>
    (t.update (fun r' => r'.id = r.id) (takeOver m owner leaseExpiresAt),
      (takeOver m owner leaseExpiresAt).set r)

/-! ## What a statement does to the receipt of an action -/

variable {m t} {a : String} {r : Receipt}

theorem get_eq_some_iff : t.get a = some r ↔ r ∈ t.rows ∧ r.charlieActionID = a := by
  constructor
  · intro h
    exact ⟨mem_of_find?_eq_some h, by simpa using find?_some h⟩
  · rintro ⟨hr, rfl⟩
    exact find?_of_nodup_map t.actions_nodup hr (by simp) fun r' h' => by simpa using h'

@[simp] theorem get_update {p} {u : RowUpdate} :
    (t.update p u).get a = (t.get a).map fun r => if p r then u.set r else r :=
  find?_updateWhere fun r => by simp [u.set_action]

theorem claimAmbiguous_of_candidate (owner : String) (lease : Time) (h : t.candidate m = some r) :
    ∃ t', t.claimAmbiguous m owner lease = some (t', (takeOver m owner lease).set r) ∧
      t'.get r.charlieActionID = some ((takeOver m owner lease).set r) := by
  refine ⟨_, by rw [claimAmbiguous, h]; rfl, ?_⟩
  have hmem := (mem_filter.mp (mem_mergeSort.mp (mem_of_mem_head? h))).1
  rw [get_update, get_eq_some_iff.mpr ⟨hmem, rfl⟩]
  simp

theorem transition_of_accepts (m : Moment) {p : TransitionParams} (h : t.get a = some r)
    (hp : p.accepts r) :
    ∃ t', t.transition m p = some (t', (p.apply m).set r) ∧
      t'.get a = some ((p.apply m).set r) := by
  have hid : ∀ r', p.accepts r' → r'.id = r.id := by
    intro r' h'
    simp only [TransitionParams.accepts, Bool.and_eq_true, decide_eq_true_eq] at hp h'
    rw [h'.1.1.1, hp.1.1.1]
  have hf : t.rows.find? p.accepts = some r :=
    find?_of_nodup_map t.ids_nodup (get_eq_some_iff.mp h).1 hp hid
  refine ⟨_, by rw [transition, hf]; rfl, ?_⟩
  rw [get_update, h]
  simp [hp]

end ReceiptTable

/-! ## The calls of the boundary -/

structure Connection where
  id : UUID
  (active emergencyDisabled : Bool)

inductive SessionState where
  | active | waitingApproval | other
  deriving DecidableEq

structure Session where
  (id connectionID : UUID)
  state : SessionState

inductive Phase where
  | proposed | denied | fenced | approved | dispatched | deferred | replayed | failed | succeeded

structure FindingInput where
  (installationID resourceType resourceID capability : String)
  mode : Mode
  code : Option DenialCode
  (severity title summary recommendedAction riskImpact verification : String)

inductive CommitAnswer where
  | committed
  | deferred (result : Bytes)
  | failed

inductive AmbiguousAnswer where
  | claimed (receipt : Receipt)
  | noRows
  | failed

inductive Op where
  | now
  | supportsCapability (name : String)
  | beginWrite
  | operationErr
  | callErr
  | callCanceled
  | fenceClosed
  | record (phase : Phase) (result : ActionResult)
  | evaluate (arguments : Arguments)
  | commit (arguments : Arguments) (facts : AuthorityInput)
  | getConnection (deploymentID : String)
  | getSession (sessionID : String)
  | encrypt (plain : Bytes)
  | decrypt (sealed : Sealed)
  | newUUID
  | claimReceipt (params : ReceiptTable.ClaimParams)
  | getReceipt (actionID : String)
  | transitionReceipt (params : ReceiptTable.TransitionParams)
  | claimAmbiguousReceipt (owner : String) (leaseExpiresAt : Time)
  | execute (descriptor : CapabilityDescriptor) (arguments : Arguments)
  | verify (descriptor : CapabilityDescriptor) (arguments : Arguments) (result : Option Bytes)
  | recordBlocked (input : FindingInput)
  | recordReconciliation (receipt : Receipt) (outcome : ActionState)

/-- The answers: a call that only fails or not answers whether it was done, a call
that returns a value answers it or `none`. -/
abbrev Ans : Op → Type
  | .now => Time
  | .supportsCapability _ | .beginWrite | .operationErr | .callErr | .callCanceled
  | .fenceClosed | .record _ _ | .recordBlocked _ | .recordReconciliation _ _ => Bool
  | .evaluate _ => Option AuthorityInput
  | .commit _ _ => CommitAnswer
  | .getConnection _ => Option Connection
  | .getSession _ => Option Session
  | .encrypt _ => Option Sealed
  | .decrypt _ => Option Bytes
  | .newUUID => UUID
  | .claimReceipt _ | .getReceipt _ | .transitionReceipt _ => Option Receipt
  | .claimAmbiguousReceipt _ _ => AmbiguousAnswer
  | .execute _ _ => Option Bytes
  | .verify _ _ _ => Option Bool

abbrev Program (α : Type) := Prog Op Ans α

abbrev ask (op : Op) : Program (Ans op) := Prog.ask op

/-! ## The receipt store -/

/-- One server replica: its library, the catalog it serves, the schema check of
arguments and its identity. -/
structure Replica where
  lib : Library
  catalog : List CapabilityDescriptor
  validateCapabilityArguments : CapabilityDescriptor → Arguments → Bool
  leaseOwner : String
  findings : Bool
  installID : String

inductive Disposition where
  | claimed
  | replay (result : ActionResult)
  | ambiguous
  | conflict

inductive TransitionError where
  | load | binding | state | encode | encrypt | persist

def maxStoredResult : Nat := maxActionResult + 16384

def validReceiptTransition (current next : ActionState) : Bool :=
  match current with
  | .claimed => next = .blocked || next = .deferred || next = .dispatched || next = .fenced
  | .dispatched =>
    next = .ambiguous || next = .verifying || next = .succeeded || next = .failed || next = .fenced
  | .verifying => next = .succeeded || next = .failed || next = .fenced
  | .ambiguous => next = .verifying || next = .failed || next = .fenced
  | _ => false

namespace Replica

variable (g : Replica)

def sealResult (result : ActionResult) : Program (Except TransitionError (Bytes × Sealed)) :=
  match g.lib.marshalResult result with
  | none => pure (.error .encode)
  | some encoded =>
    if encoded.length = 0 ∨ maxStoredResult < encoded.length then pure (.error .encode) else do
    match ← ask (.encrypt encoded) with
    | none => pure (.error .encrypt)
    | some sealed => if sealed.isZero then pure (.error .encrypt) else pure (.ok (encoded, sealed))

def ownsReceipt (e : ActionEnvelope) (r : Receipt) : Bool :=
  r.argumentDigest = e.argumentDigest &&
  r.authorizationHash = g.lib.hashDelegation e.authorizationRef &&
  r.fencingEpoch = e.fencingEpoch && r.leaseOwner = g.leaseOwner

def transition (e : ActionEnvelope) (next : ActionState) (result : ActionResult) :
    Program (Except TransitionError Unit) := do
  match ← ask (.getReceipt e.actionID) with
  | none => pure (.error .load)
  | some receipt =>
    if !g.ownsReceipt e receipt then pure (.error .binding)
    else if !validReceiptTransition receipt.state next then pure (.error .state)
    else
      match ← g.sealResult result with
      | .error err => pure (.error err)
      | .ok (encoded, sealed) =>
        match ← ask (.transitionReceipt
          { nextState := next
            resultDigest := Library.digestBytes encoded
            resultStatus := result.state
            result := sealed
            id := receipt.id
            expectedState := receipt.state
            leaseOwner := g.leaseOwner
            fencingEpoch := e.fencingEpoch }) with
        | none => pure (.error .persist)
        | some _ => pure (.ok ())

def decryptResult (receipt : Receipt) : Program (Option ActionResult) :=
  match receipt.result with
  | none => pure none
  | some sealed =>
    if sealed.keyID = "" ∨ receipt.resultDigest = "" then pure none else do
    match ← ask (.decrypt sealed) with
    | none => pure none
    | some plain =>
      if plain.length = 0 ∨ maxStoredResult < plain.length ∨
          Library.digestBytes plain ≠ receipt.resultDigest then pure none
      else
        match g.lib.unmarshalResult plain with
        | none => pure none
        | some result =>
          if some result.state ≠ receipt.resultStatus then pure none
          else if maxActionResult < result.result.length ∨
              (0 < result.result.length ∧ g.lib.validJSON result.result = false) then pure none
          else pure (some result)

def sameAction (p : ReceiptTable.ClaimParams) (r : Receipt) : Bool :=
  r.connectionID = p.connectionID && r.sessionID = p.sessionID && r.turnID = p.turnID &&
  r.capability = p.capability && r.effect = p.effect && r.argumentDigest = p.argumentDigest &&
  r.authorizationHash = p.authorizationHash && r.fencingEpoch = p.fencingEpoch &&
  r.productIdempotencyKey = p.productIdempotencyKey && r.resourceDigest = p.resourceDigest

def claimParams (e : ActionEnvelope) (d : CapabilityDescriptor) (connection session : UUID)
    (sealed : Sealed) (now : Time) (correlation : UUID) : ReceiptTable.ClaimParams where
  connectionID := connection
  sessionID := session
  charlieActionID := e.actionID
  turnID := e.turnID
  capability := d.name
  effect := d.effect
  argumentDigest := e.argumentDigest
  arguments := sealed
  authorizationHash := g.lib.hashDelegation e.authorizationRef
  fencingEpoch := e.fencingEpoch
  productIdempotencyKey := e.idempotencyKey
  leaseOwner := g.leaseOwner
  leaseExpiresAt := now + 45 * second
  auditCorrelationID := correlation
  resourceDigest :=
    Library.resourceDigest d.name (g.lib.argumentsForResourceDigest e.arguments)

def resolveExisting (p : ReceiptTable.ClaimParams) (existing : Receipt) :
    Program (Option Disposition) :=
  if !sameAction p existing then pure (some .conflict)
  -- the insert may have committed while its answer was lost
  else if existing.state = .claimed ∧ existing.leaseOwner = p.leaseOwner ∧
      existing.auditCorrelationID = p.auditCorrelationID then pure (some .claimed)
  else
    match existing.state with
    | .succeeded | .failed | .blocked | .fenced | .deferred => do
      match ← g.decryptResult existing with
      | none => pure none
      | some result => pure (some (.replay result))
    | .claimed | .waitingApproval | .dispatched | .ambiguous | .verifying => pure (some .ambiguous)
    | .proposed | .approved => pure (some .conflict)

def claim (e : ActionEnvelope) (d : CapabilityDescriptor) : Program (Option Disposition) := do
  match ← ask (.encrypt e.arguments) with
  | none => pure none
  | some sealed =>
    if sealed.isZero then pure none else do
    match ← ask (.getConnection e.deploymentID) with
    | none => pure none
    | some connection =>
      if !connection.active || connection.emergencyDisabled then pure none else do
      match ← ask (.getSession e.sessionID) with
      | none => pure none
      | some session =>
        if session.connectionID ≠ connection.id ∨ session.state = .other then pure none else do
        let now ← ask .now
        let correlation ← ask .newUUID
        let params := g.claimParams e d connection.id session.id sealed now correlation
        match ← ask (.claimReceipt params) with
        | some _ => pure (some .claimed)
        | none =>
          match ← ask (.getReceipt e.actionID) with
          | none => pure none
          | some existing => g.resolveExisting params existing

end Replica

end Astronomer.Charlie
