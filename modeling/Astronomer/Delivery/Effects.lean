import Astronomer.Delivery.Views
import Astronomer.Delivery.System

/-!
# What a committed transaction did

One inversion lemma for each call: the guards it passed and the chain of primitive
writes it committed. Everything later about runs is read off these, so no other file
unfolds a transaction.
-/

namespace Astronomer.Delivery

open List

variable {id : UUID} {now : Time} {w : Work} {plan : FrozenRollout} {newID : UUID → UUID}
  {env : Env}

variable {db db' : DB} {x : UUID}

/-! ## Operator actions -/

theorem getDeliveryRolloutForAction_eq_some {projectID r}
    (h : getDeliveryRolloutForAction db id projectID = some r) : db.rollout id = some r := by
  simp only [getDeliveryRolloutForAction, Option.bind_eq_some_iff] at h
  obtain ⟨r', hr', hs⟩ := h
  split at hs
  · cases hs; exact hr'
  · cases hs

def resetTables (db : DB) (now : Time) (action : Action) (rolloutID : UUID) : DB :=
  if action = .retry then
    db.updateClusterRows now (fun rc => rc.rolloutID == rolloutID && retryable rc.state)
      RolloutClusterRow.reset
  else db

theorem resetForRetry_eq_ok {action} (h : resetForRetry db now action id = .ok db') :
    db' = resetTables db now action id := by
  simp only [resetForRetry, resetTables] at h ⊢
  split at h
  next hac =>
    split at h
    · cases h
    · cases h
      simp [hac, resetRetryableDeliveryRolloutClusters]
  next hac =>
    cases h
    simp [hac]

theorem resetTables_core {action} :
    (resetTables db now action id).core x = db.core x := by
  simp only [resetTables]
  split
  · exact DB.core_updateClusterRows
  · rfl

theorem act_eq_ok {clock : Clock} {request : ActionRequest} (h : act db clock request = .ok db') :
    ∃ current e, db.rollout request.rolloutID = some current ∧
      current.fencingGeneration = request.expectedFence ∧
      current.state ∈ (actionTransition request.action).1 ∧
      (request.action = .rollback → ∀ c ∈ current.frozenPlan.clusters, c.previous.isSome) ∧
      db' = ((resetTables db clock.dbNow request.action request.rolloutID).updateRollouts
        (·.id == request.rolloutID)
        (·.transitioned (actionTransition request.action).2 request.reason
          clock.dbNow)).createRolloutEvent e ∧
      e.eventType = .action := by
  simp only [act, bind_eq_ok, orError_eq_ok, require_eq_ok, pure_eq_ok, beq_iff_eq] at h
  obtain ⟨-, -, -, -, current, hcu, -, hfc, u, hrl, reset, hrs, updated, hc, -, -, rfl⟩ := h
  have hrw := getDeliveryRolloutForAction_eq_some hcu
  have hrs' := resetForRetry_eq_ok hrs
  subst hrs'
  obtain ⟨r, hr, hcn, hdb, -⟩ := DB.updateRollout_eq_some.mp hc
  simp only [Bool.and_eq_true, contains_eq_mem, decide_eq_true_eq] at hcn
  -- the reset may bump the runtime generation of the row, never its state
  have hst : r.state = current.state := by
    have hcr : (resetTables db clock.dbNow request.action request.rolloutID).core
        request.rolloutID = db.core request.rolloutID := resetTables_core
    simp only [DB.core, hr, hrw, Option.map_some, Option.some.injEq] at hcr
    have := congrArg RolloutRow.state hcr
    simpa using this
  refine ⟨current, _, hrw, hfc, hst ▸ hcn.2, ?_, by rw [hdb], rfl⟩
  intro hac
  simp only [checkRollback, hac, if_true, bind_eq_ok, require_eq_ok, all_eq_true] at hrl
  obtain ⟨plan, hp, ha⟩ := hrl
  rw [decodeFrozenPlan_eq_ok hp] at ha
  exact ha

theorem act_core {clock : Clock} {request : ActionRequest} (h : act db clock request = .ok db') :
    db'.core x = if x = request.rolloutID then
        (db.core x).map (·.transitioned (actionTransition request.action).2 request.reason
          clock.dbNow)
      else db.core x := by
  obtain ⟨_, _, -, -, -, -, rfl, -⟩ := act_eq_ok h
  rw [DB.core_createRolloutEvent, DB.core_updateRollouts_key (by intro; rfl) (by intro; rfl),
    resetTables_core]

/-! ## Approvals -/

def ApprovalRequest.row (request : ApprovalRequest) (dbNow : Time) : ApprovalRow :=
  { id := request.approvalID, rolloutID := request.rolloutID, cohort := request.cohort
    bindingDigest := request.bindingDigest, decision := request.decision
    decidedBy := request.actorID, decidedAt := dbNow, expiresAt := request.expiresAt }

def Verdict.toState : Verdict → RolloutState
  | .approved => .queued
  | .rejected => .rejected

def approvalTables (db : DB) (now : Time) (request : ApprovalRequest) : DB :=
  if request.cohort = -1 then
    db.updateRollouts (·.id == request.rolloutID)
      (·.transitioned request.decision.toState ("approval_" ++ request.decision.text) now)
  else db

theorem transitionForApproval_eq_ok {current row} {request : ApprovalRequest}
    (h : transitionForApproval db now request current = .ok (db', row)) :
    db' = approvalTables db now request ∧
      (request.cohort = -1 → ∃ r, db.rollout request.rolloutID = some r ∧
        r.state = .awaitingApproval) := by
  simp only [transitionForApproval, approvalTables] at h ⊢
  split at h
  next hc =>
    rw [orError_eq_ok] at h
    obtain ⟨r, hr, hcn, hdb, -⟩ := DB.updateRollout_eq_some.mp h
    simp only [Bool.and_eq_true, contains_eq_mem, mem_singleton, decide_eq_true_eq] at hcn
    refine ⟨?_, fun _ => ⟨r, hr, hcn.2⟩⟩
    rw [hdb]
    cases request.decision <;> simp [hc, Verdict.toState]
  next hc =>
    cases h
    exact ⟨by simp [hc], fun h => absurd h hc⟩

theorem approve_eq_ok {clock : Clock} {request : ApprovalRequest}
    (h : approve db clock request = .ok db') :
    ∃ current e, db.rollout request.rolloutID = some current ∧
      expectedDigest current.frozenPlan request.cohort = .ok request.bindingDigest ∧
      (request.cohort = -1 → current.state = .awaitingApproval) ∧
      db' = (approvalTables { db with approvals := db.approvals ++ [request.row clock.dbNow] }
        clock.dbNow request).createRolloutEvent e ∧
      e.eventType = .approval := by
  simp only [approve, bind_eq_ok, orError_eq_ok, require_eq_ok, pure_eq_ok, beq_iff_eq] at h
  obtain ⟨-, -, -, -, -, -, current, hcu, -, -, plan, hp, digest, hdg, -, hb,
    approved, hrw, ⟨updated, row⟩, htr, -, -, rfl⟩ := h
  have hcr := getDeliveryRolloutForAction_eq_some hcu
  have hp' := decodeFrozenPlan_eq_ok hp
  subst hp' hb
  simp only [createDeliveryRolloutApproval] at hrw
  split at hrw
  · cases hrw
    obtain ⟨hu, hs⟩ := transitionForApproval_eq_ok htr
    refine ⟨current, _, hcr, hdg, fun hc => ?_, by rw [hu]; rfl, rfl⟩
    obtain ⟨r, hr, hst⟩ := hs hc
    rw [show db.rollout request.rolloutID = some r from hr] at hcr
    cases hcr
    exact hst
  · cases hrw

theorem approve_core {clock : Clock} {request : ApprovalRequest}
    (h : approve db clock request = .ok db') :
    db'.core x = if x = request.rolloutID ∧ request.cohort = -1 then
        (db.core x).map (·.transitioned request.decision.toState
          ("approval_" ++ request.decision.text) clock.dbNow)
      else db.core x := by
  obtain ⟨_, _, -, -, -, rfl, -⟩ := approve_eq_ok h
  rw [DB.core_createRolloutEvent, approvalTables]
  split
  next hch =>
    rw [DB.core_updateRollouts_key (by intro; rfl) (by intro; rfl)]
    simp only [hch, and_true]
    rfl
  next hch =>
    simp only [hch, and_false, if_false]
    rfl

/-! ## Workers -/

def RolloutRow.claimedBy (r : RolloutRow) (owner : String) (lease : Duration) (now : Time) :
    RolloutRow :=
  { r with
    leaseOwner := owner, leaseExpiresAt := some (now + lease)
    fencingGeneration := r.fencingGeneration + 1 }

theorem claimDeliveryRollout_eq_some {owner lease row}
    (h : claimDeliveryRollout db now owner lease id = some (db', row)) :
    ∃ r, db.rollout id = some r ∧ claimable r ∧ r.leaseFree now ∧
      row = r.claimedBy owner lease now ∧
      db' = db.updateRollouts (·.id == id) (·.claimedBy owner lease now) := by
  obtain ⟨r, hr, hcn, rfl, rfl⟩ := DB.updateRollout_eq_some.mp h
  rw [Bool.and_eq_true] at hcn
  exact ⟨r, hr, hcn.1, hcn.2, rfl, rfl⟩

theorem claimDeliveryRollout_core {now owner lease id row}
    (h : claimDeliveryRollout db now owner lease id = some (db', row)) :
    db'.core x = if x = id then (db.core x).map (·.claimedBy owner lease now) else db.core x := by
  obtain ⟨_, -, -, -, -, rfl⟩ := claimDeliveryRollout_eq_some h
  exact DB.core_updateRollouts_key (fun _ => rfl) (fun _ => rfl)

theorem applyClusterTransition_eq_ok {t : ClusterTransition}
    (h : applyClusterTransition w now db t = .ok db') :
    ∃ row rc e, w.rowFor t.clusterID = some row ∧
      db.rolloutClusters.find? (db.clusterCAS now row.row.id t.fromState t.expectedFence w.owner
        w.claimed.fencingGeneration) = some rc ∧
      db' = (db.updateClusterRows now
        (db.clusterCAS now row.row.id t.fromState t.expectedFence w.owner
          w.claimed.fencingGeneration)
        (·.settle now t.toState t.code)).createRolloutEvent e ∧
      e.rolloutID = w.claimed.id ∧ e.eventType = .clusterTransition := by
  simp only [applyClusterTransition, bind_eq_ok, orError_eq_ok, pure_eq_ok,
    applyDeliveryRolloutClusterTransitionCAS, Option.map_eq_some_iff] at h
  obtain ⟨row, hr, written, ⟨rc, hrc, rfl⟩, rfl⟩ := h
  exact ⟨row, rc, _, hr, hrc, rfl, rfl, rfl⟩

theorem upsertClusterDeploymentDesired_eq_some {row} {d : DesiredDeployment}
    (h : upsertClusterDeploymentDesired db d id = some (db', row)) :
    (db.deployment d.targetID d.clusterID = none ∧ (∀ r ∈ db.deployments, r.id ≠ id) ∧
        row = d.toRow id ∧ db' = db.insertDeployment row) ∨
    (∃ old, db.deployment d.targetID d.clusterID = some old ∧
        old.desiredGeneration < d.generation ∧ row = d.overwrite old ∧
        db' = { db with
            deployments := updateWhere d.names d.overwrite db.deployments }.bumpForDeployment
          (some old) (some row)) := by
  simp only [upsertClusterDeploymentDesired] at h
  split at h
  next hn =>
    split at h
    next hf =>
      cases h
      simp only [all_eq_true, bne_iff_ne, ne_eq] at hf
      exact .inl ⟨hn, hf, rfl, rfl⟩
    · cases h
  next old hold =>
    split at h
    next hlt =>
      obtain ⟨old', hold', rfl, rfl⟩ := DB.updateDeployment_eq_some.mp h
      have hs : some old' = some old := hold'.symm.trans hold
      cases hs
      exact .inr ⟨old, hold, hlt, rfl, rfl⟩
    · cases h

def Release.desired (release : Release) (plan : FrozenRollout) (planned : PlannedCluster) :
    DesiredDeployment :=
  { targetID := plan.targetID, clusterID := release.clusterID, rolloutID := plan.id
    version := release.version
    previousBundleVersionID := planned.previous.map (·.version.bundleVersionID)
    generation := release.generation }

theorem applyRelease_eq_ok {release : Release}
    (h : applyRelease w now plan newID db release = .ok db') :
    ∃ row planned deployed deployment rc e, w.rowFor release.clusterID = some row ∧
      plan.clusters[row.row.releaseOrder.toNat]? = some planned ∧
      planned.clusterID = release.clusterID ∧
      upsertClusterDeploymentDesired db (release.desired plan planned)
        (newID release.clusterID) = some (deployed, deployment) ∧
      deployed.rolloutClusters.find? (deployed.clusterCAS now row.row.id release.fromState
        release.expectedFence w.owner w.claimed.fencingGeneration) = some rc ∧
      db' = (deployed.updateClusterRows now
        (deployed.clusterCAS now row.row.id release.fromState release.expectedFence w.owner
          w.claimed.fencingGeneration)
        (·.release now release.toState release.action release.deadline)).createRolloutEvent e ∧
      e.rolloutID = w.claimed.id ∧ e.clusterID = some release.clusterID ∧
      e.eventType = .clusterReleased ∧ e.reasonCode = release.action.text := by
  simp only [applyRelease, plannedFor, bind_eq_ok, orError_eq_ok, require_eq_ok, pure_eq_ok,
    releaseDeliveryRolloutClusterCAS, Option.map_eq_some_iff, beq_iff_eq] at h
  obtain ⟨row, hr, planned, ⟨-, -, _, hpl, -, hid, rfl⟩, ⟨deployed, deployment⟩, hup,
    released, ⟨rc, hrc, rfl⟩, rfl⟩ := h
  exact ⟨row, _, deployed, deployment, rc, _, hr, hpl, hid, hup, hrc, rfl, rfl, rfl, rfl, rfl⟩

def finishTables (w : Work) (now : Time) (db : DB) : DB :=
  db.updateRollouts (·.id == w.claimed.id) fun r =>
    match w.decision.rolloutTransition with
    | some t => r.decided now t.toState w.decision.id t.code
    | none => r.unleased w.decision.id

theorem finishDecision_eq_ok (h : finishDecision w now db = .ok db') : db' = finishTables w now db ∨
      ∃ e, e.eventType = .rolloutTransition ∧ e.rolloutID = w.claimed.id ∧
        db' = (finishTables w now db).createRolloutEvent e := by
  simp only [finishDecision] at h
  split at h
  next t ht =>
    simp only [bind_eq_ok, orError_eq_ok, pure_eq_ok] at h
    obtain ⟨⟨written, row⟩, hc, rfl⟩ := h
    obtain ⟨r, -, -, rfl, -⟩ := DB.updateRollout_eq_some.mp hc
    refine .inr ⟨_, ?_, ?_, by simp only [finishTables, ht]; rfl⟩ <;> rfl
  next hn =>
    simp only [bind_eq_ok, orError_eq_ok, pure_eq_ok] at h
    obtain ⟨⟨written, row⟩, hc, rfl⟩ := h
    obtain ⟨r, -, -, rfl, -⟩ := DB.updateRollout_eq_some.mp hc
    exact .inl (by simp only [finishTables, hn])

theorem applyDecision_eq_ok (h : applyDecision w now newID db = .ok db') :
    ∃ locked settled released counted, db.rollout w.claimed.id = some locked ∧
      locked.leasedBy w.owner w.claimed.fencingGeneration now ∧
      locked.runtimeGeneration = w.loaded.generation ∧
      locked.state = w.claimed.state ∧
      w.decision.clusterTransitions.foldlM (applyClusterTransition w now) db = .ok settled ∧
      w.decision.releases.foldlM (applyRelease w now w.claimed.frozenPlan newID) settled =
        .ok released ∧
      recountAfter w.decision released w.claimed.id = .ok counted ∧
      finishDecision w now counted = .ok db' := by
  simp only [applyDecision, bind_eq_ok, orError_eq_ok, require_eq_ok, Bool.and_eq_true,
    beq_iff_eq] at h
  obtain ⟨plan, hp, locked, hlk, -, hs, settled, hst, released, hrl, counted, hc, hf⟩ := h
  rw [decodeFrozenPlan_eq_ok hp] at hrl
  simp only [getClaimedDeliveryRolloutForUpdate, Option.bind_eq_some_iff] at hlk
  obtain ⟨r, hr, hsl⟩ := hlk
  split at hsl
  next hg =>
    cases hsl
    simp only [Bool.and_eq_true, beq_iff_eq] at hg
    exact ⟨locked, settled, released, counted, hr, hg.1, hg.2, hs.1, hst, hrl, hc, hf⟩
  · cases hsl

theorem decodeFrozenPlan_of_applyDecision (h : applyDecision w now newID db = .ok db') :
    w.claimed.frozenPlan.id = w.claimed.id ∧
      w.claimed.frozenPlan.targetID = w.claimed.targetID := by
  simp only [applyDecision, bind_eq_ok] at h
  obtain ⟨plan, hd, -⟩ := h
  have hp := decodeFrozenPlan_eq_ok hd
  simp only [decodeFrozenPlan] at hd
  split at hd
  next hs => exact ⟨hs.1, hs.2.1⟩
  · cases hd

/-! ## Frames

Most writes leave the rollouts (up to triggers and recounts) and the approvals alone
and only append to the event log. -/

structure DB.Frame (P : RolloutEventRow → Prop) (db db' : DB) : Prop where
  core : ∀ x, db'.core x = db.core x
  approvals : db'.approvals = db.approvals
  events : ∃ new, db'.rolloutEvents = db.rolloutEvents ++ new ∧ ∀ e ∈ new, P e

section Frame

variable {P : RolloutEventRow → Prop} {db'' : DB}

theorem DB.Frame.refl : DB.Frame P db db :=
  ⟨fun _ => rfl, rfl, [], by simp, by simp⟩

theorem DB.Frame.trans (h : DB.Frame P db db') (h' : DB.Frame P db' db'') :
    DB.Frame P db db'' := by
  obtain ⟨new, hn, hP⟩ := h.events
  obtain ⟨new', hn', hP'⟩ := h'.events
  refine ⟨fun x => (h'.core x).trans (h.core x), h'.approvals.trans h.approvals, new ++ new',
    ?_, ?_⟩
  · rw [hn', hn, append_assoc]
  · intro e he
    rcases mem_append.mp he with he | he
    · exact hP e he
    · exact hP' e he

theorem DB.Frame.of_core (hcr : ∀ x, db'.core x = db.core x)
    (ha : db'.approvals = db.approvals) (hev : db'.rolloutEvents = db.rolloutEvents) :
    DB.Frame P db db' :=
  ⟨hcr, ha, [], by simp [hev], by simp⟩

theorem DB.Frame.event {e} (h : DB.Frame P db db') (he : P e) :
    DB.Frame P db (db'.createRolloutEvent e) := by
  refine h.trans ⟨fun _ => rfl, rfl, [e], rfl, ?_⟩
  simpa using he

theorem DB.Frame.of_updateDeployment {p f row} (h : db.updateDeployment p f = some (db', row)) :
    DB.Frame P db db' := by
  refine .of_core (fun _ => DB.core_of_updateDeployment h) ?_ ?_ <;>
    obtain ⟨_, -, -, rfl⟩ := DB.updateDeployment_eq_some.mp h <;> rfl

theorem DB.Frame.of_updateClusterRows {p f} : DB.Frame P db (db.updateClusterRows now p f) :=
  .of_core (fun _ => DB.core_updateClusterRows) rfl rfl

end Frame

/-! ### A worker's writes -/

def Work.Logs (w : Work) (e : RolloutEventRow) : Prop :=
  e.rolloutID = w.claimed.id ∧
    (e.eventType = .clusterReleased →
      ∃ r ∈ w.decision.releases, e.reasonCode = r.action.text ∧ e.clusterID = some r.clusterID)

theorem applyClusterTransition_frame {t} (h : applyClusterTransition w now db t = .ok db') :
    DB.Frame w.Logs db db' := by
  obtain ⟨_, _, e, -, -, rfl, hid, hty⟩ := applyClusterTransition_eq_ok h
  refine DB.Frame.of_updateClusterRows.event ⟨hid, fun hrl => ?_⟩
  rw [hty] at hrl
  cases hrl

theorem upsertClusterDeploymentDesired_frame {d row} {P : RolloutEventRow → Prop}
    (h : upsertClusterDeploymentDesired db d id = some (db', row)) : DB.Frame P db db' := by
  rcases upsertClusterDeploymentDesired_eq_some h with ⟨-, -, -, rfl⟩ | ⟨_, -, -, -, rfl⟩
  · exact .of_core (fun _ => DB.core_insertDeployment) rfl rfl
  · exact .of_core (fun _ => DB.core_bumpForDeployment) rfl rfl

theorem applyRelease_frame {release} (hmem : release ∈ w.decision.releases)
    (h : applyRelease w now plan newID db release = .ok db') : DB.Frame w.Logs db db' := by
  obtain ⟨_, _, _, _, _, e, -, -, -, hup, -, rfl, hid, hcl, -, hcd⟩ := applyRelease_eq_ok h
  exact ((upsertClusterDeploymentDesired_frame hup).trans .of_updateClusterRows).event
    ⟨hid, fun _ => ⟨release, hmem, hcd, hcl⟩⟩

theorem recountAfter_frame {d} {P : RolloutEventRow → Prop} (h : recountAfter d db id = .ok db') :
    DB.Frame P db db' := by
  simp only [recountAfter] at h
  split at h
  · cases h
    exact .refl
  · rw [orError_eq_ok] at h
    refine .of_core (fun _ => DB.core_of_recompute h) ?_ ?_ <;>
      obtain ⟨_, _, _, _, _, rfl⟩ := recompute_eq_some h <;> rfl

theorem applyDecision_frame (h : applyDecision w now newID db = .ok db') :
    ∃ counted, DB.Frame w.Logs db counted ∧ DB.Frame w.Logs (finishTables w now counted) db' := by
  obtain ⟨_, settled, released, counted, -, -, -, -, hs, hr, hc, hf⟩ := applyDecision_eq_ok h
  have h1 : DB.Frame w.Logs db settled :=
    foldlM_invariant (fun _ _ _ _ hi ho => hi.trans (applyClusterTransition_frame ho)) hs .refl
  have h2 : DB.Frame w.Logs db released :=
    foldlM_invariant (fun _ _ _ hmem hi ho => hi.trans (applyRelease_frame hmem ho)) hr h1
  refine ⟨counted, h2.trans (recountAfter_frame hc), ?_⟩
  rcases finishDecision_eq_ok hf with rfl | ⟨e, hty, hid, rfl⟩
  · exact .refl
  · refine DB.Frame.refl.event ⟨hid, fun hrl => ?_⟩
    rw [hty] at hrl
    cases hrl

theorem applyDecision_core {now newID} {w : Work} (h : applyDecision w now newID db = .ok db') :
    db'.core x = if x = w.claimed.id then
        (db.core x).map fun r => match w.decision.rolloutTransition with
          | some t => r.decided now t.toState w.decision.id t.code
          | none => r.unleased w.decision.id
      else db.core x := by
  obtain ⟨counted, hbf, haf⟩ := applyDecision_frame h
  rw [haf.core, ← hbf.core]
  exact DB.core_updateRollouts_key (fun r => by split <;> rfl) (fun r => by split <;> rfl)

/-! ### Reports and other writers -/

def StatusLog (e : RolloutEventRow) : Prop := e.eventType = .statusAdvance

theorem advanceFromStatus_eq {clock : Clock} {updated : DeploymentRow} :
    advanceFromStatus db clock updated = db ∨ ∃ d rolloutID r e,
        db.deployments.find? (·.id == updated.id) = some d ∧
        d.currentRolloutID = some rolloutID ∧ db.rollout rolloutID = some r ∧
        advanceFromStatus db clock updated = (db.updateClusterRows clock.dbNow
            (fun rc => rc.rolloutID == rolloutID && rc.clusterID == d.clusterID &&
              statusApplies r.state rc.assignmentAction && advances updated.phase rc.state)
            (·.advance clock.dbNow updated.phase updated.lastErrorCode)).createRolloutEvent e ∧
        e.eventType = .statusAdvance := by
  simp only [advanceFromStatus]
  split
  · exact .inl rfl
  next h =>
    simp only [advanceDeliveryRolloutClusterFromStatus, Option.bind_eq_bind,
      Option.bind_eq_some_iff] at h
    obtain ⟨d, hd, rolloutID, hid, r, hr, hi⟩ := h
    split at hi
    · obtain ⟨rc, -, heq⟩ := Option.map_eq_some_iff.mp hi
      cases heq
      exact .inr ⟨d, rolloutID, r, _, hd, hid, hr, rfl, rfl⟩
    · cases hi

section Ingest

variable {P : DB → Prop} {senv : StatusEnv} {clock : Clock} {session : Session}
  {payload : DeliveryStatus}

theorem foldl_keeps {α : Type*} {f : DB → α → DB} {xs : List α}
    (hf : ∀ db, ∀ x ∈ xs, P db → P (f db x)) (h : P db) : P (xs.foldl f db) := by
  induction xs generalizing db with
  | nil => exact h
  | cons x xs ih =>
    exact ih (fun db x' hx' => hf db x' (mem_cons_of_mem _ hx')) (hf db x mem_cons_self h)

theorem ingest_induct (hi : ∀ db inventories, P db → P { db with inventories })
    (hr : ∀ db receipts, P db → P { db with receipts })
    (hig : ∀ db, ∀ d ∈ payload.deployments, P db →
      P (ingestDeployment senv clock session payload db d))
    (hrf : ∀ db, ∀ d ∈ payload.deployments, P db → P (refreshDeployment session payload db d))
    (h : P db) (hok : ingest senv db clock session payload = .ok db') : P db' := by
  have hac : ∀ db' changed,
      acceptDeliveryStatusInventory db session.clusterID session.sessionID payload =
        some (db', changed) → P db' := by
    intro db' changed ha
    simp only [acceptDeliveryStatusInventory] at ha
    split at ha
    · cases ha
      exact hi _ _ h
    · split at ha
      · cases ha
      · cases ha
        exact hi _ _ h
  simp only [ingest, bind_eq_ok] at hok
  obtain ⟨-, -, -, -, -, -, -, -, hok⟩ := hok
  split at hok
  · cases hok
    exact h
  next ha =>
    cases hok
    simp only [refreshDeploymentSourceTimes]
    split
    · exact foldl_keeps hrf (hac _ _ ha)
    · exact hac _ _ ha
  next ha =>
    simp only [ingestChanged] at hok
    split at hok
    · simp only [orError_eq_ok, acknowledgeDeliveryAssignmentSnapshot,
        Option.map_eq_some_iff] at hok
      obtain ⟨result, -, rfl⟩ := hok
      exact hr _ _ (foldl_keeps hig (hac _ _ ha))
    · cases hok
      exact foldl_keeps hig (hac _ _ ha)

theorem ingestDeployment_cases (report : DeploymentStatus) :
    ingestDeployment senv clock session payload db report = db ∨
      ∃ observed updated, updateClusterDeploymentObservedCAS db report.deploymentID
          (report.update senv session payload) = some (observed, updated) ∧
        ingestDeployment senv clock session payload db report =
          advanceFromStatus observed clock updated := by
  simp only [ingestDeployment]
  split
  · exact .inl rfl
  · split
    · exact .inl rfl
    · split
      · exact .inl rfl
      next hu => exact .inr ⟨_, _, hu, rfl⟩

theorem ingest_keeps (hi : ∀ db inventories, P db → P { db with inventories })
    (hr : ∀ db receipts, P db → P { db with receipts })
    (ho : ∀ db db' u row, ∀ d ∈ payload.deployments, P db →
      updateClusterDeploymentObservedCAS db d.deploymentID u = some (db', row) → P db')
    (ha : ∀ db updated, P db → P (advanceFromStatus db clock updated))
    (h : P db) (hok : ingest senv db clock session payload = .ok db') : P db' := by
  refine ingest_induct hi hr (fun db d hd hdb => ?_) (fun db d hd hdb => ?_) h hok
  · rcases @ingestDeployment_cases db senv clock session payload d with
      heq | ⟨_, _, hu, heq⟩ <;> rw [heq]
    · exact hdb
    · exact ha _ _ (ho _ _ _ _ d hd hdb hu)
  · simp only [refreshDeployment]
    split
    · exact hdb
    · split
      · exact hdb
      · split
        · exact hdb
        next hu => exact ho _ _ _ _ d hd hdb hu

end Ingest

theorem advanceFromStatus_frame {clock updated} :
    DB.Frame StatusLog db (advanceFromStatus db clock updated) := by
  rcases @advanceFromStatus_eq db clock updated with h | ⟨_, _, _, e, -, -, -, h, hty⟩ <;> rw [h]
  · exact .refl
  · exact DB.Frame.of_updateClusterRows.event hty

theorem ingest_frame {senv clock session payload}
    (h : ingest senv db clock session payload = .ok db') :
    DB.Frame StatusLog db db' :=
  ingest_keeps (P := DB.Frame StatusLog db)
    (fun _ _ hdb => hdb.trans (.of_core (fun _ => rfl) rfl rfl))
    (fun _ _ hdb => hdb.trans (.of_core (fun _ => rfl) rfl rfl))
    (fun _ _ _ _ _ _ hdb hu => hdb.trans (.of_updateDeployment hu))
    (fun _ _ hdb => hdb.trans advanceFromStatus_frame) .refl h

structure DB.Around (db db' : DB) : Prop where
  core : ∀ x, db'.core x = db.core x
  clusterRows : db'.rolloutClusters = db.rolloutClusters
  approvals : db'.approvals = db.approvals
  events : db'.rolloutEvents = db.rolloutEvents
  deployments : db'.deployments = db.deployments

theorem DB.Around.refl : DB.Around db db := ⟨fun _ => rfl, rfl, rfl, rfl, rfl⟩

theorem DB.Around.frame {P : RolloutEventRow → Prop} (h : DB.Around db db') : DB.Frame P db db' :=
  .of_core h.core h.approvals h.events

theorem writeConnection_around {row} :
    DB.Around db (writeConnection db row) := by
  simp only [writeConnection]
  split <;> exact ⟨fun _ => DB.core_bumpForCluster, rfl, rfl, rfl, rfl⟩

theorem dropConnection_around : DB.Around db (dropConnection db id) := by
  simp only [dropConnection]
  split
  · exact .refl
  · exact ⟨fun _ => DB.core_bumpForCluster, rfl, rfl, rfl, rfl⟩

theorem writeLabels_around {clusterID labels} :
    DB.Around db (writeLabels db clusterID labels) := by
  simp only [writeLabels]
  split
  · exact .refl
  · split
    · exact .refl
    · exact ⟨fun _ => DB.core_bumpForCluster, rfl, rfl, rfl, rfl⟩

theorem writeDeploymentRow_frame {row} {P : RolloutEventRow → Prop} :
    DB.Frame P db (writeDeploymentRow db row) := by
  simp only [writeDeploymentRow]
  split
  · split
    · exact .of_core (fun _ => DB.core_insertDeployment) rfl rfl
    · exact .refl
  · split
    next hu => exact .of_updateDeployment hu
    · exact .refl

/-! ### New rollouts -/

theorem insertRollout_eq_ok (h : insertRollout env db now newID plan = .ok db') :
    plan.validate env = .ok () ∧ db.rollout plan.id = none ∧
      (plan.clusters.map fun c => newID c.clusterID).Nodup ∧
      (∀ c ∈ plan.clusters, ∀ rc ∈ db.rolloutClusters, rc.id ≠ newID c.clusterID) ∧
      recomputeDeliveryRolloutCounters { db with
          rollouts := db.rollouts ++ [plan.toRow]
          rolloutClusters := db.rolloutClusters ++
            plan.clusters.map (PlannedCluster.toRow plan now newID) } plan.id = some db' := by
  simp only [insertRollout, insertRolloutRows, bind_eq_ok, require_eq_ok, orError_eq_ok,
    Bool.and_eq_true, decide_eq_true_eq, all_eq_true, bne_iff_ne, ne_eq,
    Option.isNone_iff_eq_none, map_map] at h
  obtain ⟨u, hv, -, -, -, hn, -, ⟨hnd, hf⟩, hr⟩ := h
  refine ⟨hv, hn, hnd, fun c hc rc hrc => ?_, hr⟩
  exact hf _ (mem_map_of_mem hc) rc hrc

theorem insertRollout_core (h : insertRollout env db now newID plan = .ok db') :
    db'.core x = if x = plan.id then some plan.toRow.core else db.core x := by
  obtain ⟨-, hn, -, -, hr⟩ := insertRollout_eq_ok h
  rw [DB.core_of_recompute hr]
  have hn' : db.rollouts.find? (·.id == plan.id) = none := hn
  simp only [DB.core, DB.rollout, find?_append]
  split
  next hx => simp [hx, hn', FrozenRollout.toRow]
  next hx =>
    have hne : ¬ plan.id = x := fun h => hx h.symm
    simp [FrozenRollout.toRow, hne]

theorem insertRollout_log (h : insertRollout env db now newID plan = .ok db') :
    db'.approvals = db.approvals ∧ db'.rolloutEvents = db.rolloutEvents := by
  obtain ⟨-, -, -, -, hr⟩ := insertRollout_eq_ok h
  obtain ⟨_, _, _, _, _, rfl⟩ := recompute_eq_some hr
  exact ⟨rfl, rfl⟩

end Astronomer.Delivery
