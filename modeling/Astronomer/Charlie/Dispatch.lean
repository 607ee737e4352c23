import Astronomer.Base.Permit
import Astronomer.Charlie.Authority

/-!
# At most one dispatch

The receipt of an action is the resource of a single-use permit, fresh while it does not
exist or is claimed or deferred; only a compare-and-set from claimed to dispatched grants the
permit. Reads take no receipt: the guard executes one each time it is asked.
-/

namespace Astronomer.Charlie

open List

/-! ## What a statement does to the receipts -/

namespace ReceiptTable

variable {m : Moment} {t t' : ReceiptTable} {a : String} {r : Receipt}

def Fresh (t : ReceiptTable) (a : String) : Prop :=
  ∀ r, t.get a = some r → r.state = .claimed ∨ r.state = .deferred

structure Advances (t t' : ReceiptTable) : Prop where
  rows : ∀ r ∈ t.rows, ∃ r' ∈ t'.rows, r'.id = r.id ∧ r'.charlieActionID = r.charlieActionID
  fresh : ∀ a, t'.Fresh a → t.Fresh a

theorem Advances.refl : t.Advances t := ⟨fun r hr => ⟨r, hr, rfl, rfl⟩, fun _ h => h⟩

theorem advances_update {p} {u : RowUpdate}
    (h : ∀ r, p r → (u.set r).state = .claimed ∨ (u.set r).state = .deferred →
      r.state = .claimed ∨ r.state = .deferred) : t.Advances (t.update p u) where
  rows r hr := by
    refine ⟨if p r then u.set r else r, mem_map_of_mem hr, ?_, ?_⟩ <;> split
    · exact u.set_id r
    · rfl
    · exact u.set_action r
    · rfl
  fresh a hf r hr := by
    have hr' := hf (if p r then u.set r else r) (by rw [get_update, hr]; rfl)
    split at hr'
    next hp => exact h r hp hr'
    next => exact hr'

theorem claim_advances {p} (h : t.claim m p = some (t', r)) : t.Advances t' := by
  unfold claim at h
  split at h
  next =>
    obtain ⟨r0, -, hr0⟩ := Option.map_eq_some_iff.mp h
    obtain ⟨rfl, -⟩ := Prod.mk.inj hr0
    refine advances_update fun r hp _ => ?_
    simp only [reclaimable, Bool.and_eq_true, Bool.or_eq_true, decide_eq_true_eq] at hp
    exact hp.1.1.1.1.1.2.imp And.left And.left
  next hac =>
    split at h
    · cases h
    split at h
    · cases h
    split at h
    · cases h
    obtain ⟨rfl, -⟩ := Prod.mk.inj (Option.some.inj h)
    refine ⟨fun r hr => ⟨r, mem_append_left _ hr, rfl, rfl⟩, fun a hf r hr => ?_⟩
    obtain ⟨hmem, hra⟩ := get_eq_some_iff.mp hr
    exact hf r (get_eq_some_iff.mpr ⟨mem_append_left _ hmem, hra⟩)

theorem transition_advances {p : TransitionParams} (hc : p.nextState ≠ .claimed)
    (hd : p.nextState = .deferred → p.expectedState = .claimed)
    (h : t.transition m p = some (t', r)) : t.Advances t' := by
  obtain ⟨r0, -, hr0⟩ := Option.map_eq_some_iff.mp h
  obtain ⟨rfl, -⟩ := Prod.mk.inj hr0
  refine advances_update fun r hp hn => ?_
  simp only [TransitionParams.accepts, Bool.and_eq_true, decide_eq_true_eq] at hp
  rcases hn with hn | hn
  · exact absurd hn hc
  · exact .inl (hp.1.1.2.trans (hd hn))

theorem claimAmbiguous_advances {owner lease} (h : t.claimAmbiguous m owner lease = some (t', r)) :
    t.Advances t' := by
  obtain ⟨r0, -, hr0⟩ := Option.map_eq_some_iff.mp h
  obtain ⟨rfl, -⟩ := Prod.mk.inj hr0
  refine advances_update fun r _ hn => ?_
  by_cases hr : r.state = .claimed
  · exact .inl hr
  · simp [takeOver, hr] at hn

theorem transition_dispatched {p : TransitionParams} (hn : p.nextState = .dispatched)
    (he : p.expectedState = .claimed) (h : t.transition m p = some (t', r)) :
    ∃ r0 ∈ t.rows, r0.id = p.id ∧ t.Fresh r0.charlieActionID ∧
      ¬ t'.Fresh r0.charlieActionID := by
  obtain ⟨r0, hfn, hr0⟩ := Option.map_eq_some_iff.mp h
  obtain ⟨rfl, -⟩ := Prod.mk.inj hr0
  have hmem : r0 ∈ t.rows := mem_of_find?_eq_some hfn
  have hp : p.accepts r0 := find?_some hfn
  have hg : t.get r0.charlieActionID = some r0 := get_eq_some_iff.mpr ⟨hmem, rfl⟩
  have hst : r0.id = p.id ∧ r0.state = p.expectedState := by
    simp only [TransitionParams.accepts, Bool.and_eq_true, decide_eq_true_eq] at hp
    exact hp.1.1
  refine ⟨r0, hmem, hst.1, fun r hr => ?_, fun hf => ?_⟩
  · obtain rfl := Option.some.inj (hg.symm.trans hr)
    exact .inl (hst.2.trans he)
  · have hr' := hf ((p.apply m).set r0) (by rw [get_update, hg]; simp [hp])
    simp [TransitionParams.apply, hn] at hr'

end ReceiptTable

/-! ## What a call does to the world -/

def Call.isDispatchOf (a : String) : Call → Bool
  | .execute b d _ => b = a && d.effect = .write
  | .verify _ _ => false

def World.dispatches (w : World) (a : String) : Nat := w.calls.countP (Call.isDispatchOf a)

namespace World

variable {w : World} {m : Moment} {fault : Fault} {oracle : (op : Op) → Ans op}
  {a b : String} {k : Token} {op : Op} {x : Option (ReceiptTable × Receipt)}

theorem statement_calls : (w.statement fault x).2.calls = w.calls := by
  unfold statement
  split <;> rfl

theorem statement_advances (h : ∀ t r, x = some (t, r) → w.receipts.Advances t) :
    w.receipts.Advances (w.statement fault x).2.receipts := by
  unfold statement
  split
  · exact .refl
  · exact h _ _ rfl
  · exact h _ _ rfl
  · exact .refl

theorem statement_answer {r} (h : (w.statement fault x).1 = some r) :
    ∃ t, x = some (t, r) ∧ (w.statement fault x).2.receipts = t := by
  unfold statement at h ⊢
  split at h
  · cases h
  · obtain rfl := Option.some.inj h
    exact ⟨_, rfl, rfl⟩
  · cases h
  · cases h

theorem serve_claimAmbiguous {owner lease} :
    (w.serve m fault oracle a (.claimAmbiguousReceipt owner lease)).2 =
      (w.statement fault (w.receipts.claimAmbiguous m owner lease)).2 := by
  simp only [serve]
  split <;> simp_all

theorem serve_advances (h : (dispatchProtocol a).allowed k op) :
    w.receipts.Advances (w.serve m fault oracle a op).2.receipts := by
  cases op with
  | claimReceipt p => exact statement_advances fun t r ht => ReceiptTable.claim_advances ht
  | transitionReceipt p =>
    exact statement_advances fun t r ht => ReceiptTable.transition_advances h.1 h.2.1 ht
  | claimAmbiguousReceipt owner lease =>
    rw [serve_claimAmbiguous]
    exact statement_advances fun t r ht => ReceiptTable.claimAmbiguous_advances ht
  | _ => exact .refl

theorem serve_dispatches (h : ∀ d arguments, op = .execute d arguments → d.effect ≠ .write) :
    (w.serve m fault oracle a op).2.dispatches b = w.dispatches b := by
  cases op with
  | claimReceipt p | transitionReceipt p => exact congrArg (List.countP _) statement_calls
  | claimAmbiguousReceipt owner lease =>
    rw [serve_claimAmbiguous]
    exact congrArg (List.countP _) statement_calls
  | execute d arguments =>
    have hr : d.effect ≠ .write := h d arguments rfl
    simp [dispatches, serve, Call.isDispatchOf, hr]
  | verify d arguments result => simp [dispatches, serve, Call.isDispatchOf]
  | _ => rfl

theorem serve_execute_dispatches {arguments} {d : CapabilityDescriptor} (h : d.effect = .write) :
    (w.serve m fault oracle a (.execute d arguments)).2.dispatches b =
      w.dispatches b + if a = b then 1 else 0 := by
  simp [dispatches, serve, Call.isDispatchOf, h, countP_cons]

theorem dispatches_le_serve :
    w.dispatches b ≤ (w.serve m fault oracle a op).2.dispatches b := by
  by_cases h : ∃ d arguments, op = .execute d arguments ∧ d.effect = .write
  · obtain ⟨d, arguments, rfl, hw⟩ := h
    rw [serve_execute_dispatches hw]
    exact Nat.le_add_right _ _
  · exact Nat.le_of_eq (Eq.symm <| serve_dispatches fun d arguments hop hw =>
      h ⟨d, arguments, hop, hw⟩)

end World

/-! ## The system -/

namespace System

variable {s : System} {tokens : Nat → Token} {a : String} {i j : Nat}

def Holds (s : System) (tokens : Nat → Token) (a : String) (i : Nat) : Prop :=
  ∃ th, s.threads i = some th ∧ th.actionID = a ∧ (tokens i).permit

/-- Every thread keeps to the protocol from its token on, the receipts it has read
are of its action, and the permits are single-use. -/
structure Guarded (s : System) (tokens : Nat → Token) : Prop where
  follows : ∀ i th, s.threads i = some th →
    th.program.Follows (dispatchProtocol th.actionID) (fun _ _ => True) (tokens i)
  mine : ∀ i th, s.threads i = some th → ∀ id ∈ (tokens i).mine,
    ∃ r ∈ s.world.receipts.rows, r.id = id ∧ r.charlieActionID = th.actionID
  single : SingleUse s.world.receipts.Fresh s.world.dispatches (Holds s tokens)

theorem guarded_initial : Guarded initial fun _ => ⟨false, []⟩ where
  follows _ _ h := nomatch h
  mine _ _ h := nomatch h
  single := {
      of_fresh := fun _ _ => ⟨rfl, fun _ h => nomatch h.choose_spec.1⟩
      of_holds := fun _ _ _ => rfl
      unique := fun _ _ _ h => nomatch h.choose_spec.1
      once := fun _ => Nat.zero_le _ }

theorem holds_update {w} {th : Thread} {k : Token}
    (h : Holds ⟨w, Function.update s.threads i (some th)⟩ (Function.update tokens i k) a j) :
    (j = i ∧ th.actionID = a ∧ k.permit) ∨ (j ≠ i ∧ Holds s tokens a j) := by
  obtain ⟨th', hth, ha, hk⟩ := h
  by_cases hj : j = i
  · subst hj
    simp only [Function.update_self, Option.some.injEq] at hth hk
    exact .inl ⟨rfl, hth ▸ ha, hk⟩
  · simp only [Function.update_of_ne hj] at hth hk
    exact .inr ⟨hj, th', hth, ha, hk⟩

theorem Guarded.start (h : Guarded s tokens) (i : Nat) {th : Thread}
    (hth : th.program.Keeps (dispatchProtocol th.actionID)) :
    Guarded { s with threads := Function.update s.threads i (some th) }
      (Function.update tokens i ⟨false, []⟩) where
  follows j th' hth' := by
    by_cases hj : j = i
    · subst hj
      simp only [Function.update_self, Option.some.injEq] at hth' ⊢
      exact hth' ▸ hth _
    · simp only [Function.update_of_ne hj] at hth' ⊢
      exact h.follows j th' hth'
  mine j th' hth' id hid := by
    by_cases hj : j = i
    · subst hj
      simp at hid
    · simp only [Function.update_of_ne hj] at hth' hid
      exact h.mine j th' hth' id hid
  single := h.single.mono (fun _ hf => hf) (fun _ => rfl) fun a j hj => by
    rcases holds_update hj with ⟨-, -, hk⟩ | ⟨-, hj⟩
    · cases hk
    · exact hj

theorem Guarded.stop (h : Guarded s tokens) (i : Nat) :
    Guarded { s with threads := Function.update s.threads i none } tokens := by
  have hold : ∀ {j th}, Function.update s.threads i none j = some th → s.threads j = some th := by
    intro j th hth
    by_cases hj : j = i
    · subst hj
      simp at hth
    · rwa [Function.update_of_ne hj] at hth
  refine ⟨fun j th hth => h.follows j th (hold hth), fun j th hth => h.mine j th (hold hth), ?_⟩
  refine h.single.mono (fun _ hf => hf) (fun _ => rfl) ?_
  rintro a j ⟨th, hth, ha, hk⟩
  exact ⟨th, hold hth, ha, hk⟩

section Call

variable {m : Moment} {fault : Fault} {oracle : (op : Op) → Ans op} {w : World} {op : Op}
  {k : Token}

theorem next_mine {id} (ha : (dispatchProtocol a).allowed k op)
    (h : id ∈ ((dispatchProtocol a).next k op (w.serve m fault oracle a op).1).mine) :
    id ∈ k.mine ∨ ∃ r ∈ w.receipts.rows, r.id = id ∧ r.charlieActionID = a := by
  cases op with
  | getReceipt b =>
    obtain rfl : b = a := ha
    cases hr : (w.serve m fault oracle b (.getReceipt b)).1 with
    | none =>
      rw [hr] at h
      exact .inl h
    | some r =>
      rw [hr] at h
      have hg : w.receipts.get b = some r := by
        simp only [World.serve] at hr
        split at hr
        · exact hr
        · cases hr
      rcases mem_cons.mp h with rfl | h
      · exact .inr ⟨r, (ReceiptTable.get_eq_some_iff.mp hg).1, rfl,
          (ReceiptTable.get_eq_some_iff.mp hg).2⟩
      · exact .inl h
  | transitionReceipt p =>
    simp only [dispatchProtocol] at h
    split at h
    · split at h <;> exact .inl h
    · exact .inl h
  | execute d arguments =>
    simp only [dispatchProtocol] at h
    split at h <;> exact .inl h
  | _ => exact .inl h

theorem Guarded.call_single (h : Guarded s tokens) {th th' : Thread}
    (hth : s.threads i = some th) (hac : th'.actionID = th.actionID)
    (hal : (dispatchProtocol th.actionID).allowed (tokens i) op) :
    SingleUse (s.world.serve m fault oracle th.actionID op).2.receipts.Fresh
      (s.world.serve m fault oracle th.actionID op).2.dispatches
      (Holds ⟨(s.world.serve m fault oracle th.actionID op).2,
        Function.update s.threads i (some th')⟩
        (Function.update tokens i ((dispatchProtocol th.actionID).next (tokens i) op
          (s.world.serve m fault oracle th.actionID op).1))) := by
  have ha : s.world.receipts.Advances
      (s.world.serve m fault oracle th.actionID op).2.receipts := World.serve_advances hal
  -- a call that earns no permit and invokes no write
  have quiet : ∀ k', (k'.permit → (tokens i).permit) →
      (∀ d arguments, op = .execute d arguments → d.effect ≠ .write) →
      SingleUse (s.world.serve m fault oracle th.actionID op).2.receipts.Fresh
        (s.world.serve m fault oracle th.actionID op).2.dispatches
        (Holds ⟨(s.world.serve m fault oracle th.actionID op).2,
          Function.update s.threads i (some th')⟩ (Function.update tokens i k')) := by
    intro k' hk' hop
    refine h.single.mono ha.fresh (fun b => World.serve_dispatches hop) fun b j hj => ?_
    rcases holds_update hj with ⟨rfl, hb, hk⟩ | ⟨-, hj⟩
    · exact ⟨th, hth, hac ▸ hb, hk' hk⟩
    · exact hj
  cases op with
  | execute d arguments =>
    by_cases hw : d.effect = .write
    · refine h.single.spend (q := th.actionID) (o := i) ⟨th, hth, rfl, hal hw⟩
        ha.fresh ?_ ?_ fun b j hj => ?_
      · rw [World.serve_execute_dispatches hw, if_pos rfl]
      · intro b hb
        rw [World.serve_execute_dispatches hw, if_neg (Ne.symm hb), Nat.add_zero]
      · rcases holds_update hj with ⟨-, -, hk⟩ | ⟨hne, hj⟩
        · simp [dispatchProtocol, hw] at hk
        · exact ⟨hj, fun hij => hne hij.2⟩
    · refine quiet _ (fun hk => ?_) fun d' arguments' hop => ?_
      · simpa [dispatchProtocol, hw] using hk
      · cases hop
        exact hw
  | transitionReceipt p =>
    cases han : (s.world.serve m fault oracle th.actionID (.transitionReceipt p)).1 with
    | none => exact quiet _ (fun hk => hk) fun d arguments hop => by cases hop
    | some r =>
      by_cases hn : p.nextState = .dispatched
      · obtain ⟨he, hm⟩ := hal.2.2 hn
        obtain ⟨t, htr, ht⟩ := World.statement_answer han
        obtain ⟨r0, hr0, hid0, hf, hs⟩ := ReceiptTable.transition_dispatched hn he htr
        obtain ⟨r1, hr1, hid1, hac1⟩ := h.mine i th hth p.id hm
        -- the dispatched receipt is the one the thread has read, so it is of its action
        obtain rfl : r1 = r0 := inj_on_of_nodup_map s.world.receipts.ids_nodup hr1 hr0
          (hid1.trans hid0.symm)
        rw [hac1] at hf hs
        refine h.single.grant (q := th.actionID) (o := i) hf (fun b hb => ?_)
          (fun b => World.serve_dispatches fun d arguments hop => by cases hop) fun b j hj => ?_
        · refine ⟨ha.fresh b hb, ?_⟩
          rintro rfl
          exact hs (ht ▸ hb)
        · rcases holds_update hj with ⟨hj, hb, -⟩ | ⟨-, hj⟩
          · exact .inr ⟨(hac ▸ hb).symm, hj⟩
          · exact .inl hj
      · refine quiet _ (fun hk => ?_) fun d arguments hop => by cases hop
        simpa [dispatchProtocol, hn] using hk
  | getReceipt b =>
    refine quiet _ (fun hk => ?_) fun d arguments hop => by cases hop
    cases han : (s.world.serve m fault oracle th.actionID (.getReceipt b)).1 <;>
      (rw [han] at hk; exact hk)
  | _ => exact quiet _ (fun hk => hk) fun d arguments hop => by cases hop

theorem Guarded.call (h : Guarded s tokens) {next} {th : Thread} (hth : s.threads i = some th)
    (hp : th.program = .call op next) :
    Guarded ⟨(s.world.serve m fault oracle th.actionID op).2, Function.update s.threads i
        (some { th with program := next (s.world.serve m fault oracle th.actionID op).1 })⟩
      (Function.update tokens i ((dispatchProtocol th.actionID).next (tokens i) op
        (s.world.serve m fault oracle th.actionID op).1)) := by
  have hf := h.follows i th hth
  rw [hp] at hf
  obtain ⟨hal, hn⟩ := hf
  have ha : s.world.receipts.Advances
      (s.world.serve m fault oracle th.actionID op).2.receipts := World.serve_advances hal
  have hrs : ∀ {id b}, (∃ r ∈ s.world.receipts.rows, r.id = id ∧ r.charlieActionID = b) →
      ∃ r ∈ (s.world.serve m fault oracle th.actionID op).2.receipts.rows,
        r.id = id ∧ r.charlieActionID = b := by
    rintro id b ⟨r, hr, rfl, rfl⟩
    exact ha.rows r hr
  refine ⟨fun j th' hth' => ?_, fun j th' hth' id hid => ?_, h.call_single hth rfl hal⟩
  · by_cases hj : j = i
    · subst hj
      simp only [Function.update_self, Option.some.injEq] at hth' ⊢
      exact hth' ▸ hn _
    · simp only [Function.update_of_ne hj] at hth' ⊢
      exact h.follows j th' hth'
  · by_cases hj : j = i
    · subst hj
      simp only [Function.update_self, Option.some.injEq] at hth' hid
      subst hth'
      rcases next_mine hal hid with hid | hid
      · exact hrs (h.mine j th hth id hid)
      · exact hrs hid
    · simp only [Function.update_of_ne hj] at hth' hid
      exact hrs (h.mine j th' hth' id hid)

end Call

theorem Guarded.step (h : Guarded s tokens) (event : Event) :
    ∃ tokens', Guarded (s.step event) tokens' := by
  cases event with
  | start i g e => exact ⟨_, h.start i (Replica.execute_keeps.bind fun _ => Prog.keeps_pure)⟩
  | reconcile i g => exact ⟨_, h.start i (Replica.reconcileBatch_keeps _)⟩
  | crash i => exact ⟨_, h.stop i⟩
  | step i m fault oracle =>
    cases hth : s.threads i with
    | none =>
      simp only [System.step, hth]
      exact ⟨_, h⟩
    | some th =>
      cases hp : th.program with
      | ret u =>
        simp only [System.step, hth, advance, hp]
        exact ⟨_, h.stop i⟩
      | call op next =>
        simp only [System.step, hth, advance, hp]
        exact ⟨_, h.call hth hp⟩

theorem guarded_run (events : List Event) (h : ∃ tokens, Guarded s tokens) :
    ∃ tokens, Guarded (run step s events) tokens :=
  run_preserves (P := fun s => ∃ tokens, Guarded s tokens) (fun _ event ⟨_, h⟩ => h.step event) h

theorem step_dispatches_le {event} :
    s.world.dispatches a ≤ (s.step event).world.dispatches a := by
  cases event with
  | step i m fault oracle =>
    cases hth : s.threads i with
    | none => simp only [System.step, hth, Nat.le_refl]
    | some th =>
      cases hp : th.program with
      | ret u => simp only [System.step, hth, advance, hp, Nat.le_refl]
      | call op next =>
        simp only [System.step, hth, advance, hp]
        exact World.dispatches_le_serve
  | _ => exact Nat.le_refl _

/-- **At most one dispatch**: in every run a write capability is invoked at most once for
an action, and once it has been, the action's receipt is never claimed again. -/
theorem write_dispatched_once (events : List Event) (actionID : String) :
    (run step initial events).world.dispatches actionID ≤ 1 ∧
      ∀ later, 0 < (run step initial events).world.dispatches actionID →
        ∀ r, (run step initial (events ++ later)).world.receipts.get actionID = some r →
          r.state ≠ .claimed := by
  obtain ⟨tokens, h⟩ := guarded_run events ⟨_, guarded_initial⟩
  refine ⟨h.single.once actionID, fun later hp r hr hc => ?_⟩
  rw [run_append] at hr
  obtain ⟨tokens', h'⟩ := guarded_run later ⟨tokens, h⟩
  have hl : 0 < (run step (run step initial events) later).world.dispatches actionID :=
    run_preserves (P := fun s : System => 0 < s.world.dispatches actionID)
      (fun _ _ hs => Nat.lt_of_lt_of_le hs step_dispatches_le) hp
  have hf : (run step (run step initial events) later).world.receipts.Fresh actionID := by
    intro r' hr'
    obtain rfl := Option.some.inj (hr.symm.trans hr')
    exact .inl hc
  exact Nat.ne_of_gt hl (h'.single.of_fresh actionID hf).1

end System

/-! ## A read, asked for twice -/

namespace HealthCheck

def descriptor : CapabilityDescriptor :=
  readDesc "astronomer.system.health" .astronomerServer "*" [] 65536

def library : Library :=
  { RetryTask.library with
    decodeObject := fun _ => some []
    unmarshalObject := fun _ => some []
    marshalObject := fun _ => some (Library.utf8 "\x7b\x7d")
    marshalString := Library.utf8
    marshalResult := fun _ => none }

def replica : Replica := { RetryTask.replica with lib := library, catalog := [descriptor] }

def envelope : ActionEnvelope :=
  { RetryTask.envelope with
    capability := "astronomer.system.health"
    arguments := Library.utf8 "\x7b\x7d"
    argumentDigest :=
      Library.capabilityArgumentDigest "astronomer.system.health" (Library.utf8 "\x7b\x7d") }

def facts : AuthorityInput :=
  { RetryTask.permitted with
    mode := .readOnly
    effect := .read
    autoEligible := false
    allowlisted := false
    budgetAvailable := false
    verificationDeclared := false }

def oracle : (op : Op) → Ans op
  | .now => 0
  | .evaluate _ => some facts
  | .encrypt _ => none
  | .decrypt _ => none
  | .execute _ _ => some [123, 125]
  | .verify _ _ _ => none
  | op => RetryTask.oracle op

def moment : Moment := RetryTask.moment 0

def served (slot : Nat) : List Event :=
  .start slot replica envelope :: List.replicate 7 (.step slot moment .none oracle)

/-- The same action executes twice: a read leaves no receipt. -/
theorem health_executed_twice :
    (run System.step System.initial (served 0 ++ served 1)).world.calls =
      [.execute "action" descriptor [], .execute "action" descriptor []] := by
  decide +kernel

end HealthCheck

end Astronomer.Charlie
