import Astronomer.Delivery.Workers

/-!
# The approval gate of a rollout

The gate is kept as long as nobody pauses the rollout while it is still `resolving`: the
pause is allowed there, and `resume` leads from `paused` straight to `queued`.
-/

namespace Astronomer.Delivery

open List

variable {now : Time} {r : RolloutRow}

/-! ## What the gate is about -/

def DB.Approved (db : DB) (plan : FrozenRollout) : Prop :=
  ∃ a ∈ db.approvals, a.rolloutID = plan.id ∧ a.cohort = -1 ∧ a.decision = .approved ∧
    a.bindingDigest = plan.approval.digest
deriving Decidable

/-- From `w` to `w'` the rollout starts to progress, or commits an apply release, only if
it had been approved. -/
def ApprovalGated (plan : FrozenRollout) (w w' : World) : Prop :=
  (w'.db.stateOf plan.id = some .progressing → w.db.stateOf plan.id ≠ some .progressing →
      w.db.Approved plan) ∧
    (w'.db.applyReleases plan.id ≠ w.db.applyReleases plan.id → w.db.Approved plan)
deriving Decidable

def PausesResolving (id : UUID) (w : World) : Event → Prop
  | .act _ request => request.rolloutID = id ∧ request.action = .pause ∧
      w.db.stateOf id = some .resolving
  | _ => False

instance (id : UUID) (w : World) (e : Event) : Decidable (PausesResolving id w e) := by
  apply @Event.casesOn (fun e => Decidable (PausesResolving id w e)) e <;> intros <;>
    dsimp only [PausesResolving] <;> infer_instance

/-! ## The invariant -/

def heldStates : List RolloutState := [.resolving, .awaitingApproval, .rejected, .aborted]

structure World.Gated (env : Env) (plan : FrozenRollout) (w : World) : Prop
    extends World.Staffed env plan w where
  gate : w.db.Approved plan ∨
    w.db.applyReleases plan.id = [] ∧ ∃ r, w.db.core plan.id = some r ∧ r.state ∈ heldStates

section Gate

variable {env : Env} {senv : StatusEnv} {plan : FrozenRollout} {w : World} {e : Event} {db db' : DB}

theorem World.approved_step (h : w.db.Approved plan) : (w.step env senv e).db.Approved plan := by
  obtain ⟨new, hn⟩ := @World.approvals_step env senv w e
  obtain ⟨a, ha, hrest⟩ := h
  exact ⟨a, by rw [hn]; exact mem_append_left _ ha, hrest⟩

/-! ## One decision of a held rollout -/

theorem evaluateClaimed_held {owner rows approvals windows} {claimed : RolloutRow} {d : Decision}
    (hr : plan.approval.required) (hp : claimed.frozenPlan = plan)
    (hs : claimed.state ∈ heldStates)
    (h : evaluateClaimed env claimed owner rows approvals windows now = .ok d) :
    d.releases = [] ∧ ∀ t, d.rolloutTransition = some t → t.toState ∈ heldStates ∨
        t.toState = .queued ∧ ∃ a ∈ approvals, a.cohort = -1 ∧ a.decision = .approved ∧
          a.bindingDigest = plan.approval.digest := by
  obtain ⟨input, clusters, hsn, -, hin, -, -, hlw⟩ := evaluateClaimed_lawful hp h
  simp only [heldStates, mem_cons, not_mem_nil, or_false] at hs ⊢
  rcases hs with hst | hst | hst | hst <;>
    simp only [Decision.Lawful, hsn, runtimeFromRows, hst] at hlw
  · obtain ⟨hi, hm⟩ := hlw
    refine ⟨hi.releases, fun t ht => ?_⟩
    have hto := (hm t ht).2.2
    simp only [hr, if_true, mem_singleton] at hto
    simp [hto]
  · obtain ⟨hi, hm, hap⟩ := hlw
    refine ⟨hi.releases, fun t ht => ?_⟩
    have hto := (hm t ht).2.2
    simp only [mem_cons, not_mem_nil, or_false] at hto
    rcases hto with hto | hto
    · -- the only way out: the last initial approval is valid for this plan
      obtain ⟨a, ha, hv, hy⟩ := hap t ht hto
      simp only [hin, initialApproval, Option.map_eq_some_iff] at ha
      obtain ⟨row, hl, rfl⟩ := ha
      have hmem := mem_of_getLast? hl
      simp only [mem_filter, beq_iff_eq] at hmem
      simp only [ApprovalRow.toDecision, beq_iff_eq] at hy
      simp only [ApprovalDecision.validFor, ApprovalRow.toDecision, Bool.and_eq_true,
        beq_iff_eq] at hv
      exact .inr ⟨hto, row, hmem.1, hmem.2, hy, hv.1.1.1.2⟩
    · simp [hto]
  · exact ⟨hlw.1.releases, fun t ht => by rw [hlw.2] at ht; cases ht⟩
  · exact ⟨hlw.1.releases, fun t ht => by rw [hlw.2] at ht; cases ht⟩

/-! ## One event -/

def HeldAfter (plan : FrozenRollout) (db db' : DB) : Prop :=
  db'.applyReleases plan.id = db.applyReleases plan.id ∧
    ∃ r', db'.core plan.id = some r' ∧
      (r'.state ∈ heldStates ∨ r'.state = .queued ∧ db'.Approved plan)

theorem HeldAfter.of_frame {P : RolloutEventRow → Prop}
    (hr : db.core plan.id = some r) (hst : r.state ∈ heldStates) (h : DB.Frame P db db')
    (hP : ∀ e, P e → e.eventType ≠ .clusterReleased) : HeldAfter plan db db' := by
  refine ⟨h.applyReleases fun e he _ hrl => absurd hrl (hP e he), r, ?_, .inl hst⟩
  rw [h.core, hr]

theorem applyDecision_heldAfter {newID approvals windows} {work : Work}
    (hrq : plan.approval.required) (hp : work.claimed.frozenPlan = plan)
    (hr : db.core plan.id = some r) (hst : r.state ∈ heldStates)
    (hid : work.claimed.id = plan.id) (hap : ∀ a ∈ approvals, a ∈ db.approvalsOf plan.id)
    (hev : evaluateClaimed env work.claimed work.owner work.loaded.rows approvals windows
      work.now = .ok work.decision) (h : applyDecision work now newID db = .ok db') :
    HeldAfter plan db db' := by
  obtain ⟨locked, _, _, _, hlk, -, -, hs, -⟩ := applyDecision_eq_ok h
  -- the state is re-read under the lock, so the decision was made on a held rollout
  have hc : work.claimed.state ∈ heldStates := by
    rw [← hs, ← RolloutRow.core_state, DB.core_inj (hid ▸ hlk) hr]
    exact hst
  obtain ⟨hrl, hm⟩ := evaluateClaimed_held hrq hp hc hev
  obtain ⟨counted, hbf, haf⟩ := applyDecision_frame h
  have hl : ∀ e, work.Logs e → e.eventType ≠ .clusterReleased := by
    intro e he hty
    obtain ⟨release, hmem, -⟩ := he.2 hty
    rw [hrl] at hmem
    cases hmem
  refine ⟨?_, ?_⟩
  · rw [haf.applyReleases fun e he _ hty => absurd hty (hl e he),
      ← hbf.applyReleases fun e he _ hty => absurd hty (hl e he)]
    rfl
  · rw [applyDecision_core h, if_pos hid.symm, hr]
    refine ⟨_, rfl, ?_⟩
    split
    next t ht =>
      rcases hm t ht with hto | ⟨hto, a, ha, hch, hy, hb⟩
      · exact .inl hto
      · have hmem := hap a ha
        simp only [DB.approvalsOf, mem_filter, beq_iff_eq] at hmem
        have hk : db'.approvals = db.approvals := haf.approvals.trans hbf.approvals
        exact .inr ⟨hto, a, hk ▸ hmem.1, hmem.2, hch, hy, hb⟩
    · exact .inl hst

theorem act_heldAfter {clock} {request : ActionRequest} (hr : db.core plan.id = some r)
    (hs : r.state ∈ heldStates)
    (hpa : request.rolloutID = plan.id → request.action = .pause → r.state ≠ .resolving)
    (h : act db clock request = .ok db') : HeldAfter plan db db' := by
  obtain ⟨current, e, hcu, -, ha, -, hdb, hty⟩ := act_eq_ok h
  refine ⟨DB.applyReleases_append [e] ?_ ?_, ?_⟩
  · rw [hdb]
    simp only [DB.createRolloutEvent, DB.updateRollouts, resetTables]
    split <;> rfl
  · intro e' he' _ hrl
    rw [mem_singleton.mp he', hty] at hrl
    cases hrl
  · rw [act_core h, hr]
    split
    next hid =>
      rw [← RolloutRow.core_state, DB.core_inj hcu (hid ▸ hr)] at ha
      refine ⟨_, rfl, .inl ?_⟩
      simp only [heldStates, mem_cons, not_mem_nil, or_false] at hs
      -- of all actions on a held rollout only pause and abort are allowed
      cases hac : request.action <;> rcases hs with hst | hst | hst | hst <;>
        simp_all [actionTransition, RolloutRow.transitioned, heldStates]
    · exact ⟨r, rfl, .inl hs⟩

section

variable (hrq : plan.approval.required)

include hrq

theorem approve_heldAfter {clock request}
    (hr : db.core plan.id = some r) (hp : r.frozenPlan = plan) (hst : r.state ∈ heldStates)
    (h : approve db clock request = .ok db') : HeldAfter plan db db' := by
  obtain ⟨current, e, hcu, hdg, -, hdb, hty⟩ := approve_eq_ok h
  refine ⟨DB.applyReleases_append [e] ?_ ?_, ?_⟩
  · rw [hdb]
    simp only [DB.createRolloutEvent, DB.updateRollouts, approvalTables]
    split <;> rfl
  · intro e' he' _ hrl
    rw [mem_singleton.mp he', hty] at hrl
    cases hrl
  · rw [approve_core h, hr]
    split
    next hid =>
      obtain ⟨hid, hch⟩ := hid
      refine ⟨_, rfl, ?_⟩
      cases hv : request.decision with
      | rejected => exact .inl (by simp [RolloutRow.transitioned, Verdict.toState, heldStates])
      | approved =>
        refine .inr ⟨rfl, request.row clock.dbNow, ?_, hid.symm, hch, hv, ?_⟩
        · rw [hdb]
          simp only [DB.createRolloutEvent, DB.updateRollouts, approvalTables]
          split <;> simp
        · have hs : current.frozenPlan = plan := by
            rw [← RolloutRow.core_frozenPlan, DB.core_inj hcu (hid ▸ hr), hp]
          simp only [hs, hch, expectedDigest] at hdg
          simpa [hrq, ApprovalRequest.row] using hdg.symm
    · exact ⟨r, rfl, .inl hst⟩

theorem World.Commits.heldAfter (hc : w.Commits env senv e db') (h : w.Gated env plan)
    (hok : ¬ PausesResolving plan.id w e) (hr : w.db.core plan.id = some r)
    (hst : r.state ∈ heldStates) : HeldAfter plan w.db db' := by
  have hp : r.frozenPlan = plan := by
    obtain ⟨r', hr', hp⟩ := h.row
    rw [hr, Option.some.injEq] at hr'
    rw [hr', hp]
  cases hc with
  | @create plan' _ _ _ hi =>
    obtain ⟨-, hn, -⟩ := insertRollout_eq_ok hi
    have hne : plan.id ≠ plan'.id := by
      intro heq
      rw [DB.core, heq, hn] at hr
      cases hr
    refine ⟨DB.applyReleases_append [] (by simp [(insertRollout_log hi).2]) (by simp), r, ?_,
      .inl hst⟩
    rw [insertRollout_core hi, if_neg hne, hr]
  | claim hcm =>
    have hcr := @claimDeliveryRollout_core _ _ plan.id _ _ _ _ _ hcm
    obtain ⟨_, -, -, -, -, rfl⟩ := claimDeliveryRollout_eq_some hcm
    refine ⟨rfl, ?_⟩
    rw [hcr, hr]
    split
    · exact ⟨_, rfl, .inl hst⟩
    · exact ⟨_, rfl, .inl hst⟩
  | @apply _ _ _ _ _ claimed _ _ _ _ hj ha =>
    by_cases hid : claimed.id = plan.id
    · obtain ⟨hjp, hd⟩ := h.jobs _ (mem_of_getElem? hj) hid
      obtain ⟨approvals, windows, hs, hev⟩ := hd _ _ _ rfl
      exact applyDecision_heldAfter hrq hjp hr hst hid hs hev ha
    · -- another rollout's decision: its row and its events are not ours
      obtain ⟨counted, hbf, haf⟩ := applyDecision_frame ha
      refine ⟨?_, r, ?_, .inl hst⟩
      · rw [haf.applyReleases fun e he heq => absurd (he.1.symm.trans heq) hid,
          ← hbf.applyReleases fun e he heq => absurd (he.1.symm.trans heq) hid]
        rfl
      · rw [applyDecision_core ha, if_neg (fun heq => hid heq.symm), hr]
  | @act _ request _ hac =>
    refine act_heldAfter hr hst (fun hid hpa hrs => hok ⟨hid, hpa, ?_⟩) hac
    rw [DB.stateOf_eq_core, hr, Option.map_some, hrs]
  | approve har => exact approve_heldAfter hrq hr hp hst har
  | ingest hig =>
    refine .of_frame hr hst (ingest_frame hig) fun e he hrl => ?_
    rw [he] at hrl
    cases hrl
  | connection =>
    exact .of_frame hr hst (writeConnection_around.frame (P := fun _ => False)) (by simp)
  | dropConnection =>
    exact .of_frame hr hst (dropConnection_around.frame (P := fun _ => False)) (by simp)
  | labels => exact .of_frame hr hst (writeLabels_around.frame (P := fun _ => False)) (by simp)
  | writeDeployment =>
    exact .of_frame hr hst (writeDeploymentRow_frame (P := fun _ => False)) (by simp)

theorem World.Gated.heldAfter_step (h : w.Gated env plan) (hok : ¬ PausesResolving plan.id w e)
    (hr : w.db.core plan.id = some r) (hst : r.state ∈ heldStates) :
    HeldAfter plan w.db (w.step env senv e).db :=
  World.step_db_induct (P := fun db => HeldAfter plan w.db db)
    ⟨rfl, r, hr, .inl hst⟩ fun _ hc => hc.heldAfter hrq h hok hr hst

theorem World.Gated.step (h : w.Gated env plan)
    (hok : ¬ PausesResolving plan.id w e) : (w.step env senv e).Gated env plan := by
  refine ⟨h.toStaffed.step, ?_⟩
  rcases h.gate with ha | ⟨hn, r, hr, hst⟩
  · exact .inl (World.approved_step ha)
  · have hh : HeldAfter plan w.db (w.step env senv e).db := h.heldAfter_step hrq hok hr hst
    obtain ⟨hrl, r', hr', hst' | ⟨-, ha⟩⟩ := hh
    · exact .inr ⟨hrl.trans hn, r', hr', hst'⟩
    · exact .inl ha

theorem World.Gated.approvalGated (h : w.Gated env plan) (hok : ¬ PausesResolving plan.id w e) :
    ApprovalGated plan w (w.step env senv e) := by
  rcases h.gate with ha | ⟨-, r, hr, hst⟩
  · exact ⟨fun _ _ => ha, fun _ => ha⟩
  · have hh : HeldAfter plan w.db (w.step env senv e).db := h.heldAfter_step hrq hok hr hst
    obtain ⟨hrl, r', hr', haf⟩ := hh
    refine ⟨fun hpr _ => ?_, fun hne => absurd hrl hne⟩
    rw [DB.stateOf_eq_core, hr', Option.map_some, Option.some.injEq] at hpr
    rcases haf with hh | ⟨hqd, -⟩
    · rw [hpr] at hh
      simp [heldStates] at hh
    · rw [hpr] at hqd
      cases hqd

end

theorem World.Gated.of_insert {newID} (hi : insertRollout env w.db now newID plan = .ok db)
    (hn : w.Unseen plan.id) :
    World.Gated env plan { w with db } := by
  refine ⟨.of_insert hi hn.jobs, .inr ⟨?_, plan.toRow.core, ?_, ?_⟩⟩
  · refine filter_eq_nil_iff.mpr fun e he => ?_
    rw [(insertRollout_log hi).2] at he
    simp [hn.events e he]
  · simp [insertRollout_core hi]
  · simp [FrozenRollout.toRow, heldStates]

end Gate

/-- **The approval gate.** From the insertion of a plan that requires approval, along
every run of the system in which nobody pauses the rollout while it resolves, every event
that starts its progress or commits an apply release comes after its approval. -/
theorem approval_gate_of_no_pause_while_resolving {env : Env} {senv : StatusEnv}
    {plan : FrozenRollout} {w : World} {db : DB} {now : Time} {newID : UUID → UUID}
    {es : List Event} (hins : insertRollout env w.db now newID plan = .ok db)
    (hnew : w.Unseen plan.id) (hreq : plan.approval.required)
    (hmeets : RunMeets (World.step env senv) (fun w e => ¬ PausesResolving plan.id w e)
      { w with db } es) :
    RunMeets (World.step env senv)
      (fun w e => ApprovalGated plan w (w.step env senv e)) { w with db } es :=
  RunMeets.of_invariant (P := World.Gated env plan) (fun _ _ h hok => h.step hreq hok)
    (fun _ _ h hok => h.approvalGated hreq hok) hmeets (.of_insert hins hnew)

/-! ## On one cluster -/

namespace OneCluster

def gatedPlan : FrozenRollout := plan ⟨true, digest⟩ none

def approval (fence : Int) (now : Time) : ApprovalRequest :=
  { projectID := 3, rolloutID := 1, expectedFence := fence, cohort := -1
    bindingDigest := digest, decision := .approved, actorID := some 5, expiresAt := now + 100
    idempotencyKey := "k", approvalID := 50 }

def approvedRun : List Event :=
  pass 11 ++ [.approve ⟨12, 12⟩ (approval 2 12)] ++ pass 13

def bypassRun : List Event :=
  [.act ⟨11, 11⟩ (action 1 .pause), .act ⟨12, 12⟩ (action 2 .resume)] ++ pass 13 ++ pass 14

end OneCluster

open OneCluster in
/-- The approved run starts to progress, and every step of it is gated. -/
theorem approvedRun_gated :
    (run (World.step env senv) (inserted gatedPlan) approvedRun).db.stateOf 1 = some .progressing ∧
      RunMeets (World.step env senv)
        (fun w e => ApprovalGated gatedPlan w (w.step env senv e)) (inserted gatedPlan)
        approvedRun :=
  ⟨by decide +kernel,
    @approval_gate_of_no_pause_while_resolving env senv gatedPlan world _ 10 (· + 100) _ (by rfl)
      unseen rfl (by decide +kernel)⟩

open OneCluster in
/-- Pausing while resolving leads around the gate: the run progresses and releases its
cluster with no approval on record. -/
theorem bypassRun_releases_unapproved :
    (run (World.step env senv) (inserted gatedPlan) bypassRun).db.applyReleases 1 ≠ [] ∧
      (run (World.step env senv) (inserted gatedPlan) bypassRun).db.approvals = [] ∧
      ¬ RunMeets (World.step env senv)
        (fun w e => ApprovalGated gatedPlan w (w.step env senv e)) (inserted gatedPlan)
        bypassRun := by
  decide +kernel

end Astronomer.Delivery
