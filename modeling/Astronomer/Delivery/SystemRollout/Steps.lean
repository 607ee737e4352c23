import Astronomer.Delivery.SystemRollout.System

/-!
# What a transaction can do

One inversion for each call: what `Start`, `Act` and `ReconcileOne` leave in the
three tables when they commit. Everything later is derived from these; no other
module unfolds the service.
-/

namespace Astronomer.Delivery.SystemRollout

open List

variable {f : Flow} {now : Time} {code : String} {t' : Releases}

variable {env : Env} {clock : Clock} {db db' : DB} {id c : UUID} {row row' : RolloutRow}

/-! ## A write of one rollout row -/

structure RolloutRow.Continues (row row' : RolloutRow) : Prop where
  id : row'.id = row.id
  releaseID : row'.releaseID = row.releaseID
  previousReleaseID : row'.previousReleaseID = row.previousReleaseID
  strategy : row'.strategy = row.strategy
  totalClusters : row'.totalClusters = row.totalClusters

structure Rewrites (db db' : DB) (row row' : RolloutRow) : Prop where
  rollouts : db'.rollouts = db.rollouts.set row'
  continues : row.Continues row'
  assignments : db'.assignments = db.assignments
  releases : db'.releases = db.releases

theorem writeRollout_ok {counters f hf} (h : db.writeRollout row counters f hf = .ok db')
    (hr : row.Continues (f row)) :
    ∃ row', Rewrites db db' row row' ∧ row'.state = (f row).state := by
  unfold DB.writeRollout at h
  split at h
  · cases h
    exact ⟨_, ⟨rfl, ⟨hr.id, hr.releaseID, hr.previousReleaseID, hr.strategy,
      hr.totalClusters⟩, rfl, rfl⟩, rfl⟩
  · cases h

theorem finish_ok {state} {p : Pass} (h : finish now p state code = .ok db') :
    ∃ row', Rewrites p.db db' p.row row' ∧ row'.state = state := by
  simp only [finish, bind_eq_ok, pure_eq_ok] at h
  obtain ⟨written, hw, rfl⟩ := h
  obtain ⟨row', hr', hst⟩ := writeRollout_ok hw ⟨rfl, rfl, rfl, rfl, rfl⟩
  exact ⟨row', ⟨hr'.rollouts, hr'.continues, hr'.assignments, hr'.releases⟩, hst⟩

theorem updateCountersAndCommit_ok {dbNow} {p : Pass}
    (h : updateCountersAndCommit dbNow p = .ok db') :
    ∃ row', Rewrites p.db db' p.row row' ∧ row'.state = p.current.state := by
  unfold updateCountersAndCommit DB.updateSystemRolloutCounters at h
  exact writeRollout_ok h ⟨rfl, rfl, rfl, rfl, rfl⟩

/-! ## ReconcileOne on a rollout that is rolling back -/

def rollbackVerdict (counts : Counts) : RolloutState :=
  if 0 < counts.rollbackFailed then .rollbackFailed
  else if rollbackComplete counts then .rolledBack
  else .rollingBack

theorem reconcileRollback_ok {p : Pass} (hp : p.current.state = .rollingBack)
    (h : reconcileRollback clock p = .ok db') :
    ∃ row', Rewrites p.db db' p.row row' ∧ row'.state = rollbackVerdict p.counts := by
  unfold reconcileRollback at h
  unfold rollbackVerdict
  split at h
  · obtain ⟨row', hr', hst⟩ := finish_ok h
    exact ⟨row', hr', by simp_all⟩
  · split at h
    · obtain ⟨row', hr', hst⟩ := finish_ok h
      exact ⟨row', hr', by simp_all⟩
    · obtain ⟨row', hr', hst⟩ := updateCountersAndCommit_ok h
      exact ⟨row', hr', by simp_all⟩

/-! ## ReconcileOne on a rollout that moves forward -/

def countsOf (clock : Clock) (db : DB) (row : RolloutRow) : Counts :=
  getSystemRolloutAssignmentCounts db.assignments row.id clock.dbNow
    (milliseconds row.strategy.minReady)

def releasedNext (clock : Clock) (db : DB) (row : RolloutRow) : Assignments :=
  (releaseNextCohort clock.now (readPass clock.dbNow db row)).1

def settled (counts : Counts) : Prop :=
  counts.inFlight = 0 ∧ counts.immatureReady = 0 ∧ 0 < counts.pending

abbrev awaitsApproval (strategy : RolloutStrategy) (counts : Counts) : Prop :=
  approvalAfterCanary strategy ∧ counts.maxReadyCohort = 0 ∧ counts.pendingCanary = 0

inductive Released (clock : Clock) (db : DB) (row : RolloutRow) : Assignments → Prop
  | nothing : Released clock db row db.assignments
  | queued (h : row.state = .queued) : Released clock db row (releasedNext clock db row)
  | progressing (h : row.state = .progressing) (hsettled : settled (countsOf clock db row))
      (hopen : ¬ awaitsApproval row.strategy (countsOf clock db row)) :
      Released clock db row (releasedNext clock db row)

structure Begins (now : Time) (row : RolloutRow) (t t' : Assignments) : Prop where
  begun : ∃ previous, row.previousReleaseID = some previous ∧
    t' = beginSystemRolloutAssignmentRollback t row.id previous row.releaseID now

def Promotes (now : Time) (row : RolloutRow) (db db' : DB) : Prop :=
  ∃ retired affected,
    retirePreviousSystemRolloutReleases db.releases row.releaseID now = .ok retired ∧
    promoteSystemRolloutRelease retired row.releaseID now = .ok (db'.releases, affected) ∧
    affected = 1

/-- What a pass over a queued or progressing rollout commits: `t` is the table after its
release, if it released. -/
structure Forward (clock : Clock) (db : DB) (row : RolloutRow) (db' : DB) (row' : RolloutRow)
    (t : Assignments) : Prop where
  continues : row.Continues row'
  rollouts : db'.rollouts = db.rollouts.set row'
  released : Released clock db row t
  forward : row'.state ≠ .rollingBack → db'.assignments = t
  back : row'.state = .rollingBack → Begins clock.now row t db'.assignments
  releases : row'.state ≠ .succeeded → db'.releases = db.releases
  promoted : row'.state = .succeeded → Promotes clock.now row db db'
  requeued : row'.state = .queued → row.state = .queued ∧ t = db.assignments
  awaiting : row'.state = .awaitingApproval → row.state = .progressing ∧ t = db.assignments ∧
    settled (countsOf clock db row) ∧ awaitsApproval row.strategy (countsOf clock db row)
  live : row'.state ≠ .rolledBack ∧ row'.state ≠ .rollbackFailed
  complete : row'.state = .succeeded → (countsOf clock db row).ready = row.totalClusters

structure View.Of (v : View) (row : RolloutRow) : Prop where
  id : v.id = row.id
  releaseID : v.releaseID = row.releaseID
  previousReleaseID : v.previousReleaseID = row.previousReleaseID
  strategy : v.strategy = row.strategy
  totalClusters : v.totalClusters = row.totalClusters

structure Pass.At (clock : Clock) (db : DB) (row : RolloutRow) (t : Assignments) (p : Pass) :
    Prop where
  read : p.row = row
  view : p.current.Of row
  rollouts : p.db.rollouts = db.rollouts
  releases : p.db.releases = db.releases
  released : t = db.assignments ∨ row.state = .queued ∧ t = releasedNext clock db row
  forward : p.current.state ≠ .rollingBack → p.db.assignments = t
  back : p.current.state = .rollingBack → Begins clock.now row t p.db.assignments
  requeued : p.current.state = .queued → row.state = .queued ∧ t = db.assignments
  -- a pass that has released in the queued branch has something in flight
  counted : p.current.state = .progressing →
    0 < p.counts.inFlight ∨ row.state = .progressing ∧ t = db.assignments ∧
      p.counts = countsOf clock db row
  states : p.current.state = .queued ∨ p.current.state = .progressing ∨
    p.current.state = .paused ∨ p.current.state = .rollingBack
  ready : p.current.readyClusters = (countsOf clock db row).ready

variable {p : Pass} {t : Assignments}

theorem Forward.intro (hc : row.Continues row')
    (hrll : db'.rollouts = db.rollouts.set row') (hr : Released clock db row t)
    (ha : db'.assignments = t) (hrl : db'.releases = db.releases)
    (hst : row'.state = .progressing ∨ row'.state = .awaitingApproval ∧
      row.state = .progressing ∧ t = db.assignments ∧ settled (countsOf clock db row) ∧
        awaitsApproval row.strategy (countsOf clock db row)) :
    Forward clock db row db' row' t := by
  refine ⟨hc, hrll, hr, fun _ => ha, ?_, fun _ => hrl, ?_, ?_,
    ?_, ?_, ?_⟩ <;> rcases hst with hst | ⟨hst, haw⟩ <;> simp [hst]
  exact haw

theorem readPass_at (h : row.state = .queued ∨ row.state = .progressing) :
    (readPass clock.dbNow db row).At clock db row db.assignments where
  read := rfl
  view := ⟨rfl, rfl, rfl, rfl, rfl⟩
  rollouts := rfl
  releases := rfl
  released := .inl rfl
  forward _ := rfl
  back hst := by
    have hb : row.state = .rollingBack := hst
    rcases h with h | h <;> rw [h] at hb <;> cases hb
  requeued hst := ⟨hst, rfl⟩
  counted hst := .inr ⟨hst, rfl, rfl⟩
  states := h.imp id .inl
  ready := rfl

theorem releaseQueued_at (h : row.state = .queued ∨ row.state = .progressing) :
    ∃ t, (releaseQueued clock (readPass clock.dbNow db row)).At clock db row t ∧
      (releaseQueued clock (readPass clock.dbNow db row)).current.state ≠ .rollingBack := by
  have hne : (readPass clock.dbNow db row).current.state ≠ .rollingBack := by
    intro hb
    have hb : row.state = .rollingBack := hb
    rcases h with h | h <;> rw [h] at hb <;> cases hb
  unfold releaseQueued
  split
  next hqd =>
    simp only
    split
    next hr =>
      refine ⟨releasedNext clock db row, ⟨rfl, ⟨rfl, rfl, rfl, rfl, rfl⟩, rfl, rfl,
        .inr ⟨hqd, rfl⟩, fun _ => rfl, nofun, nofun, fun _ => .inl ?_, .inr (.inl rfl), rfl⟩, nofun⟩
      exact Nat.lt_of_lt_of_le hr (Nat.le_add_left _ _)
    · exact ⟨_, readPass_at h, hne⟩
  · exact ⟨_, readPass_at h, hne⟩

theorem beginRollback_ok {reason} {current : View} (hv : current.Of row)
    (h : beginRollback db current reason now = .ok db') :
    Begins now row db.assignments db'.assignments ∧ db'.rollouts = db.rollouts ∧
      db'.releases = db.releases := by
  simp only [beginRollback, bind_eq_ok, orError_eq_ok, pure_eq_ok] at h
  obtain ⟨previous, hp, rfl⟩ := h
  refine ⟨⟨previous, hv.previousReleaseID ▸ hp, ?_⟩, rfl, rfl⟩
  rw [← hv.id, ← hv.releaseID]
  rfl

def Flow.Leads (clock : Clock) (db : DB) (row : RolloutRow) (t : Assignments) : Flow → Prop
  | .finished db' => ∃ row', Forward clock db row db' row' t
  | .next p => p.At clock db row t

section

variable (hp : p.At clock db row t)

include hp

theorem Pass.At.toReleased : Released clock db row t := by
  rcases hp.released with rfl | ⟨hqd, rfl⟩
  · exact .nothing
  · exact .queued hqd

theorem Pass.At.commits (hr' : Rewrites p.db db' p.row row') (hst : row'.state = p.current.state ∨
      row'.state = .failed ∧ p.current.state ≠ .rollingBack) :
    Forward clock db row db' row' t where
  continues := hp.read ▸ hr'.continues
  rollouts := by rw [hr'.rollouts, hp.rollouts]
  released := hp.toReleased
  forward hne := by
    rw [hr'.assignments]
    rcases hst with hst | ⟨-, hne'⟩
    · exact hp.forward (hst ▸ hne)
    · exact hp.forward hne'
  back heq := by
    rw [hr'.assignments]
    rcases hst with hst | ⟨hst, -⟩
    · exact hp.back (hst ▸ heq)
    · rw [hst] at heq
      cases heq
  releases _ := by rw [hr'.releases, hp.releases]
  promoted heq := by
    have hs := hp.states
    rcases hst with hst | ⟨hst, -⟩ <;> simp_all
  requeued heq := by
    rcases hst with hst | ⟨hst, -⟩
    · exact hp.requeued (hst ▸ heq)
    · rw [hst] at heq
      cases heq
  awaiting heq := by
    have hs := hp.states
    rcases hst with hst | ⟨hst, -⟩ <;> simp_all
  live := by
    have hs := hp.states
    rcases hst with hst | ⟨hst, -⟩ <;> rw [hst] <;> simp_all
    rcases hs with h | h | h | h <;> simp [h]
  complete heq := by
    have hs := hp.states
    rcases hst with hst | ⟨hst, -⟩ <;> simp_all

theorem Pass.At.failed (hne : p.current.state ≠ .rollingBack)
    (h : Flow.finished <$> finish clock.now p .failed code = .ok f) :
    f.Leads clock db row t := by
  obtain ⟨db', hf, rfl⟩ := map_eq_ok.mp h
  obtain ⟨row', hr', hst⟩ := finish_ok hf
  exact ⟨row', hp.commits hr' (.inr ⟨hst, hne⟩)⟩

theorem Pass.At.begun (hne : p.current.state ≠ .rollingBack) {reason}
    (h : beginRollback p.db p.current reason clock.now = .ok db') :
    { p with db := db'
             current := { p.current with state := .rollingBack, lastErrorCode := code } }.At
      clock db row t := by
  obtain ⟨hb, hr, hrl⟩ := beginRollback_ok hp.view h
  rw [hp.forward hne] at hb
  have hv := hp.view
  exact ⟨hp.read, ⟨hv.id, hv.releaseID, hv.previousReleaseID, hv.strategy,
    hv.totalClusters⟩, hr.trans hp.rollouts, hrl.trans hp.releases, hp.released,
    nofun, fun _ => hb, nofun, nofun, .inr (.inr (.inr rfl)), hp.ready⟩

theorem checkFailures_leads (hne : p.current.state ≠ .rollingBack)
    (h : checkFailures clock p = .ok f) : f.Leads clock db row t := by
  unfold checkFailures at h
  split at h
  · split at h
    · split at h
      · exact hp.failed hne h
      · simp only [bind_eq_ok, pure_eq_ok] at h
        obtain ⟨db', hb, rfl⟩ := h
        exact hp.begun hne hb
    · exact hp.failed hne h
    · cases h
      have hv := hp.view
      exact ⟨hp.read, ⟨hv.id, hv.releaseID, hv.previousReleaseID, hv.strategy,
        hv.totalClusters⟩, hp.rollouts, hp.releases, hp.released, fun _ => hp.forward hne,
        by simp, by simp, by simp, .inr (.inr (.inl rfl)), hp.ready⟩
  · cases h
    exact hp

theorem checkDeadline_leads
    (h : checkDeadline clock p = .ok f) : f.Leads clock db row t := by
  unfold checkDeadline at h
  split at h
  next hd =>
    split at h
    · simp only [bind_eq_ok, pure_eq_ok] at h
      obtain ⟨db', hb, rfl⟩ := h
      exact hp.begun hd.2 hb
    · exact hp.failed hd.2 h
  · cases h
    exact hp

theorem checkComplete_leads
    (h : checkComplete clock p = .ok f) : f.Leads clock db row t := by
  unfold checkComplete at h
  split at h
  next hr =>
    simp only [bind_eq_ok, require_eq_ok, beq_iff_eq, map_eq_ok] at h
    obtain ⟨retired, hrt, ⟨promoted, affected⟩, hpr, _, rfl, db', hf, rfl⟩ := h
    obtain ⟨row', hr', hst⟩ := finish_ok hf
    have hag : db'.assignments = t := by
      rw [hr'.assignments]
      exact hp.forward (by simp [hr.1])
    rw [hp.releases, hp.view.releaseID] at hrt
    rw [hp.view.releaseID] at hpr
    refine ⟨row', hp.read ▸ hr'.continues, ?_, hp.toReleased, fun _ => hag, ?_, ?_,
      fun _ => ⟨retired, 1, hrt, ?_, rfl⟩, ?_, ?_, ?_, fun _ => ?_⟩
    · rw [hr'.rollouts]
      exact congrArg (·.set row') hp.rollouts
    · intro hb
      rw [hst] at hb
      cases hb
    · intro hne
      exact absurd hst hne
    · rw [hr'.releases]
      exact hpr
    · intro hq
      rw [hst] at hq
      cases hq
    · intro ha
      rw [hst] at ha
      cases ha
    · simp [hst]
    · rw [← hp.ready, ← hp.view.totalClusters]
      exact hr.2
  · cases h
    exact hp

end

theorem releaseNextCohort_eq (hp : p.At clock db row db.assignments)
    (hpr : p.current.state = .progressing) (hc : p.counts = countsOf clock db row) :
    (releaseNextCohort clock.now p).1 = releasedNext clock db row := by
  have ha : p.db.assignments = db.assignments := hp.forward (by rw [hpr]; nofun)
  unfold releasedNext releaseNextCohort
  rw [ha, hc, hp.view.strategy, hp.view.totalClusters, hp.view.id]
  rfl

theorem releaseProgressing_commits (hp : p.At clock db row t)
    (h : updateCountersAndCommit clock.dbNow (releaseProgressing clock p) = .ok db') :
    ∃ row' t', Forward clock db row db' row' t' := by
  obtain ⟨row', hr', hst⟩ := updateCountersAndCommit_ok h
  unfold releaseProgressing at hr' hst
  by_cases hg : p.current.state = .progressing ∧ p.counts.inFlight = 0 ∧
      p.counts.immatureReady = 0 ∧ 0 < p.counts.pending
  · rw [if_pos hg] at hr' hst
    obtain ⟨hpr, hi, him, hpd⟩ := hg
    obtain ⟨hr, rfl, hc⟩ := (hp.counted hpr).resolve_left (by omega)
    have hs : settled (countsOf clock db row) := ⟨hc ▸ hi, hc ▸ him, hc ▸ hpd⟩
    have ha : p.db.assignments = db.assignments := hp.forward (by rw [hpr]; nofun)
    rw [hc, hp.view.strategy] at hr' hst
    by_cases haw : awaitsApproval row.strategy (countsOf clock db row)
    · rw [if_pos haw] at hr' hst
      refine ⟨row', db.assignments, .intro (hp.read ▸ hr'.continues) ?_ .nothing ?_ ?_
        (.inr ⟨hst, hr, rfl, hs, haw⟩)⟩
      · rw [hr'.rollouts]
        exact congrArg (·.set row') hp.rollouts
      · rw [hr'.assignments]
        exact ha
      · rw [hr'.releases]
        exact hp.releases
    · rw [if_neg haw] at hr' hst
      refine ⟨row', releasedNext clock db row, .intro (hp.read ▸ hr'.continues) ?_
        (.progressing hr hs haw) ?_ ?_ (.inl (hst.trans hpr))⟩
      · rw [hr'.rollouts]
        exact congrArg (·.set row') hp.rollouts
      · rw [hr'.assignments]
        exact releaseNextCohort_eq hp hpr hc
      · rw [hr'.releases]
        exact hp.releases
  · rw [if_neg hg] at hr' hst
    exact ⟨row', t, hp.commits hr' (.inl hst)⟩

theorem Flow.Leads.andThen {rest} (hl : f.Leads clock db row t)
    (hrest : ∀ p, p.At clock db row t → rest p = .ok db' →
      ∃ row' t', Forward clock db row db' row' t')
    (h : f.andThen rest = .ok db') : ∃ row' t', Forward clock db row db' row' t' := by
  cases f with
  | finished committed =>
    cases h
    obtain ⟨row', hf⟩ := hl
    exact ⟨row', t, hf⟩
  | next p => exact hrest p hl h

theorem reconcileForward_ok (hr : row.state = .queued ∨ row.state = .progressing)
    (h : reconcileForward clock (readPass clock.dbNow db row) = .ok db') :
    ∃ row' t, Forward clock db row db' row' t := by
  obtain ⟨t, hp, hne⟩ := @releaseQueued_at clock db row hr
  simp only [reconcileForward, bind_eq_ok] at h
  obtain ⟨afterFailures, hf, h⟩ := h
  refine (checkFailures_leads hp hne hf).andThen (fun p hp h => ?_) h
  obtain ⟨afterDeadline, hd, h⟩ := bind_eq_ok.mp h
  refine (checkDeadline_leads hp hd).andThen (fun p hp h => ?_) h
  obtain ⟨afterCompletion, hc, h⟩ := bind_eq_ok.mp h
  exact (checkComplete_leads hp hc).andThen (fun p hp h => releaseProgressing_commits hp h) h

inductive Reconciled (clock : Clock) (db : DB) (row : RolloutRow) (db' : DB) : Prop
  | back (row' : RolloutRow) (hrow : row.state = .rollingBack) (hrow' : Rewrites db db' row row')
      (hstate : row'.state = rollbackVerdict (countsOf clock db row))
  | forward (row' : RolloutRow) (t : Assignments)
      (hrow : row.state = .queued ∨ row.state = .progressing)
      (hforward : Forward clock db row db' row' t)

theorem reconcileOne_ok (h : reconcileOne clock id db = .ok db') :
    db' = db ∨ ∃ row, db.rollouts.get id = some row ∧ Reconciled clock db row db' := by
  unfold reconcileOne at h
  cases hg : db.rollouts.get id with
  | none =>
    rw [hg] at h
    cases h
    exact .inl rfl
  | some row =>
    simp only [hg] at h
    split at h
    · cases h
      exact .inl rfl
    next hi =>
      right
      refine ⟨row, rfl, ?_⟩
      split at h
      next hb =>
        obtain ⟨row', hr', hst⟩ := reconcileRollback_ok hb h
        exact .back row' hb hr' hst
      next hb =>
        have hr : row.state = .queued ∨ row.state = .progressing := by
          cases hs : row.state <;> simp_all [RolloutState.terminal]
        obtain ⟨row', t, hf⟩ := reconcileForward_ok hr h
        exact .forward row' t hr hf

/-! ## Act -/

def ActsOn (now : Time) (row : RolloutRow) (t t' : Assignments) : Action → Prop
  | .rollback => Begins now row t t'
  | .retry => t' = retrySystemRolloutAssignments t row.id
  | .abort => t' = abortSystemRolloutPendingAssignments t row.id
  | _ => t' = t

theorem actOnAssignments_ok {action}
    (h : actOnAssignments now action (viewFromRecord row) db = .ok db') :
    ActsOn now row db.assignments db'.assignments action ∧ db'.rollouts = db.rollouts ∧
      db'.releases = db.releases := by
  cases action with
  | rollback =>
    have hv : (viewFromRecord row).Of row := ⟨rfl, rfl, rfl, rfl, rfl⟩
    exact beginRollback_ok hv h
  | _ =>
    cases h
    exact ⟨rfl, rfl, rfl⟩

structure Acts (clock : Clock) (action : Action) (db : DB) (row : RolloutRow) (db' : DB)
    (row' : RolloutRow) : Prop where
  rollouts : db'.rollouts = db.rollouts.set row'
  continues : row.Continues row'
  transition : ∃ code,
    actionTransition row.state action row.previousReleaseID.isSome = .ok (row'.state, code)
  releases : db'.releases = db.releases
  assignments : ActsOn clock.now row db.assignments db'.assignments action

theorem act_ok {request : ActRequest} (h : act env clock request db = .ok db') :
    ∃ row row', db.rollouts.get request.id = some row ∧
      Acts clock request.action db row db' row' := by
  simp only [act, bind_eq_ok, orError_eq_ok, require_eq_ok, pure_eq_ok] at h
  obtain ⟨_, -, _, -, _, -, row, hr, _, -, ⟨next, code⟩, ht, mid, hm, rfl⟩ := h
  obtain ⟨ha, hrll, hrl⟩ := actOnAssignments_ok hm
  exact ⟨row, _, hr, congrArg (Keyed.set · _) hrll, ⟨rfl, rfl, rfl, rfl, rfl⟩, ⟨code, ht⟩, hrl, ha⟩

theorem actionTransition_ok {next action hasPrevious} {state : RolloutState}
    (h : actionTransition state action hasPrevious = .ok (next, code)) :
    (action = .approve ∧ state = .awaitingApproval ∧ next = .queued) ∨
    (action = .pause ∧ (state = .queued ∨ state = .progressing) ∧ next = .paused) ∨
    (action = .resume ∧ state = .paused ∧ next = .queued) ∨
    (action = .abort ∧ state.active ∧ next = .aborted) ∨
    (action = .retry ∧ (state = .failed ∨ state = .rollbackFailed) ∧ next = .queued) ∨
    (action = .rollback ∧ (state = .progressing ∨ state = .paused ∨ state = .failed ∨
      state = .succeeded) ∧ next = .rollingBack) := by
  cases action <;> cases state <;> cases hasPrevious <;>
    simp_all [actionTransition, RolloutState.active]

/-! ## Start -/

structure Starts (db : DB) (id : UUID) (request : StartRequest) (db' : DB) (row : RolloutRow)
    (previous : UUID) (deadline : Time) (planned : List PlannedCluster) : Prop where
  draft : ∃ release, db.releases.get request.releaseID = some release ∧ release.state = .draft
  idle : db.countActiveSystemRollouts = 0
  current : db.getCurrentSystemRolloutRelease = some previous
  fresh : db.rollouts.get row.id = none
  rollouts : db'.rollouts = db.rollouts.insert row fresh
  rowID : row.id = id
  state : row.state = .awaitingApproval
  releaseID : row.releaseID = request.releaseID
  previousReleaseID : row.previousReleaseID = some previous
  strategy : row.strategy = canonicalStrategy request.strategy
  totalClusters : row.totalClusters = planned.length
  releases : db'.releases = db.releases
  assignments : db'.assignments =
    ensureAll db.assignments request.releaseID previous id deadline planned
  eligible : ∀ item ∈ planned, item.clusterID ∈ db.listSystemRolloutEligibleClusters

theorem createRollout_ok {request key} (h : createRollout env clock id request key db = .ok db') :
    ∃ row previous deadline planned, Starts db id request db' row previous deadline planned := by
  simp only [createRollout, bind_eq_ok, orError_eq_ok, require_eq_ok, pure_eq_ok, beq_iff_eq] at h
  obtain ⟨release, hrl, _, hd, _, hi, previous, hp, _, -, ⟨cohorts, planned⟩,
    hpl, _, -, created, hcr, _, -, rfl⟩ := h
  unfold DB.createSystemRollout at hcr
  split at hcr
  next hf =>
    cases hcr
    refine ⟨_, previous, _, planned, ⟨release, hrl, hd⟩, hi, hp, hf, rfl,
      rfl, rfl, rfl, rfl, rfl, rfl, rfl, rfl, fun item hit => ?_⟩
    cases hb : buildCohorts env.toEnv request.strategy
        (db.listSystemRolloutEligibleClusters.map fun id => { id }) with
    | error e =>
      rw [hb] at hpl
      cases hpl
    | ok built =>
      rw [hb] at hpl
      cases hpl
      obtain ⟨candidate, hc, hid⟩ := exists_candidate_of_planned hb hit
      obtain ⟨cluster, hcl, rfl⟩ := mem_map.mp hc
      exact hid ▸ hcl
  · cases hcr

theorem start_ok {request} (h : start env clock id request db = .ok db') : db' = db ∨
      ∃ row previous deadline planned, Starts db id request db' row previous deadline planned := by
  simp only [start, bind_eq_ok, require_eq_ok] at h
  obtain ⟨_, -, _, -, _, -, _, -, _, -, h⟩ := h
  split at h
  · simp only [bind_eq_ok, require_eq_ok, pure_eq_ok] at h
    obtain ⟨_, -, rfl⟩ := h
    exact .inl rfl
  · exact .inr (createRollout_ok h)

/-! ## Observations -/

inductive Observes (clock : Clock) (db : DB) (c : UUID) (o : Inventory) : Assignments → Prop
  | nothing : Observes clock db c o db.assignments
  | seeded (r : ReleaseRow) (hcurrent : db.releases.current = some r)
      (hfree : db.assignments.get (seededAssignment c r clock.dbNow).clusterID = none) :
      Observes clock db c o (db.assignments.insert (seededAssignment c r clock.dbNow) hfree)
  | written (a : AssignmentRow) (r : ReleaseRow) (ha : db.assignments.get c = some a)
      (hr : db.releases.get a.desiredReleaseID = some r) :
      Observes clock db c o (db.assignments.set (a.observe o r))

theorem observeDeliverySystemAssignment_ok {o written}
    (h : observeDeliverySystemAssignment db c o clock.dbNow = .ok (db', written)) :
    Observes clock db c o db'.assignments ∧ db'.rollouts = db.rollouts ∧
      db'.releases = db.releases := by
  unfold observeDeliverySystemAssignment at h
  split at h
  · split at h
    · cases h
      exact ⟨.nothing, rfl, rfl⟩
    next hf _ r hc =>
      cases h
      exact ⟨.seeded r hc hf, rfl, rfl⟩
  next a ha =>
    split at h
    · cases h
      exact ⟨.nothing, rfl, rfl⟩
    next r hr =>
      split at h
      · cases h
        exact ⟨.written a r ha hr, rfl, rfl⟩
      · cases h

theorem observe_ok {o} (h : observe env clock c o db = .ok db') :
    Observes clock db c o db'.assignments ∧ db'.rollouts = db.rollouts ∧
      db'.releases = db.releases := by
  simp only [observe, bind_eq_ok] at h
  obtain ⟨⟨mid, written⟩, hm, h⟩ := h
  obtain ⟨ha, hr, hrl⟩ := observeDeliverySystemAssignment_ok hm
  split at h
  · split at h
    · cases pure_eq_ok.mp h
      exact ⟨ha, hr, hrl⟩
    · cases pure_eq_ok.mp h
      exact ⟨ha, hr, hrl⟩
  · cases pure_eq_ok.mp h
    exact ⟨ha, hr, hrl⟩

/-! ## The release table -/

theorem Releases.current_eq_some {t : Releases} {r : ReleaseRow} :
    t.current = some r ↔ r ∈ t.rows ∧ r.state = .released := by
  unfold Releases.current
  constructor
  · intro h
    exact ⟨mem_of_find?_eq_some h, by simpa using find?_some h⟩
  · rintro ⟨hmem, hst⟩
    obtain ⟨r', hr'⟩ : ∃ r', t.rows.find? (fun r => r.state == .released) = some r' :=
      Option.isSome_iff_exists.mp (find?_isSome.mpr ⟨r, hmem, by simpa using hst⟩)
    have heq : r' = r := t.oneReleased r' (mem_of_find?_eq_some hr') r hmem
      (by simpa using find?_some hr') hst
    rw [hr', heq]

theorem Releases.checked_ok {t} (h : Releases.checked t = .ok t') : t'.toKeyed = t := by
  unfold Releases.checked at h
  split at h
  · cases h
    rfl
  · cases h

def Releases.sequenceOf (t : Releases) (id : UUID) : Option Nat :=
  (t.get id).map ReleaseRow.releaseSequence

def Releases.Keeps (t t' : Releases) : Prop :=
  ∀ id n, t.sequenceOf id = some n → t'.sequenceOf id = some n

theorem Releases.Keeps.of_update {p f hf} {t : Releases}
    (h : Releases.checked (t.update p f hf) = .ok t')
    (hsq : ∀ r, (f r).releaseSequence = r.releaseSequence) : t.Keeps t' := by
  intro id n hn
  unfold Releases.sequenceOf at hn ⊢
  rw [Releases.checked_ok h, Keyed.get_update, Option.map_map, ← hn]
  congr 1
  funext r
  simp only [Function.comp_apply]
  split
  · exact hsq r
  · rfl

theorem Promotes.current (h : Promotes now row db db') :
    ∃ r, db'.releases.current = some r ∧ r.id = row.releaseID := by
  obtain ⟨retired, affected, -, hp, rfl⟩ := h
  simp only [promoteSystemRolloutRelease, bind_eq_ok, pure_eq_ok, Prod.mk.injEq] at hp
  obtain ⟨promoted, hch, rfl, hc⟩ := hp
  have hrs := Releases.checked_ok hch
  obtain ⟨r, hr, hd⟩ := Keyed.count_pos.mp (Nat.lt_of_lt_of_eq Nat.zero_lt_one hc.symm)
  have hid : r.id = row.releaseID := by simpa using (Bool.and_eq_true_iff.mp hd).1
  refine ⟨r.promoted now, Releases.current_eq_some.mpr ⟨?_, rfl⟩, hid⟩
  rw [hrs]
  exact mem_updateWhere.mpr ⟨r, hr, if_pos hd⟩

theorem Promotes.keeps (h : Promotes now row db db') :
    db.releases.Keeps db'.releases := by
  obtain ⟨retired, affected, hrt, hp, -⟩ := h
  simp only [promoteSystemRolloutRelease, bind_eq_ok, pure_eq_ok, Prod.mk.injEq] at hp
  obtain ⟨promoted, hch, rfl, -⟩ := hp
  intro id n hn
  have hf : retired.sequenceOf id = some n := Releases.Keeps.of_update hrt (fun _ => rfl) id n hn
  exact Releases.Keeps.of_update hch (fun _ => rfl) id n hf

structure Configures (db db' : DB) : Prop where
  rollouts : db'.rollouts = db.rollouts
  assignments : db'.assignments = db.assignments
  current : ∀ r, db.releases.current = some r → db'.releases.current = some r
  keeps : db.releases.Keeps db'.releases

theorem loadOrCreateRelease_ok {sequence spec release} {t : Releases}
    (h : loadOrCreateRelease t id sequence spec = .ok (t', release)) :
    (∀ r, t.current = some r → t'.current = some r) ∧ t.Keeps t' := by
  unfold loadOrCreateRelease at h
  split at h
  · simp only [bind_eq_ok, require_eq_ok, pure_eq_ok, Prod.mk.injEq] at h
    obtain ⟨_, -, _, -, rfl, -⟩ := h
    exact ⟨fun _ hr => hr, fun _ _ hn => hn⟩
  · simp only [bind_eq_ok, require_eq_ok] at h
    obtain ⟨_, -, h⟩ := h
    split at h
    next hf =>
      simp only [bind_eq_ok, pure_eq_ok, Prod.mk.injEq] at h
      obtain ⟨inserted, hch, rfl, -⟩ := h
      have hrs := Releases.checked_ok hch
      refine ⟨fun r hr => ?_, fun id n hn => ?_⟩
      · obtain ⟨hmem, hst⟩ := Releases.current_eq_some.mp hr
        refine Releases.current_eq_some.mpr ⟨?_, hst⟩
        rw [hrs]
        exact Keyed.mem_insert.mpr (.inl hmem)
      · unfold Releases.sequenceOf at hn ⊢
        rw [hrs, Keyed.get_insert]
        split
        next hid =>
          subst hid
          rw [hf] at hn
          cases hn
        · exact hn
    · cases h

theorem ensureRelease_ok {dbNow sequence spec}
    (h : ensureRelease dbNow id sequence spec db = .ok db') : Configures db db' := by
  simp only [ensureRelease, bind_eq_ok] at h
  obtain ⟨⟨mid, release⟩, hm, h⟩ := h
  obtain ⟨hc, hk⟩ := loadOrCreateRelease_ok hm
  split at h
  next hf =>
    simp only [bind_eq_ok, pure_eq_ok] at h
    obtain ⟨promoted, hch, rfl⟩ := h
    refine ⟨rfl, rfl, fun r hr => ?_, fun id n hn => ?_⟩
    · -- no release was current, so there is nothing to keep
      have hnn := hf.2
      rw [hc r hr] at hnn
      cases hnn
    · exact Releases.Keeps.of_update hch (fun _ => rfl) id n (hk id n hn)
  · cases pure_eq_ok.mp h
    exact ⟨rfl, rfl, hc, hk⟩

/-! ## A step -/

inductive Stepped (db : DB) : Event → DB → Prop
  | refused {e : Event} : Stepped db e db
  | started {clock : Clock} {id : UUID} {request : StartRequest} {db' : DB} {row : RolloutRow}
      {previous : UUID} {deadline : Time} {planned : List PlannedCluster}
      (h : Starts db id request db' row previous deadline planned) :
      Stepped db (.start clock id request) db'
  | acted {clock : Clock} {request : ActRequest} {db' : DB} {row row' : RolloutRow}
      (hrow : db.rollouts.get request.id = some row)
      (h : Acts clock request.action db row db' row') : Stepped db (.act clock request) db'
  | reconciled {clock : Clock} {id : UUID} {db' : DB} {row : RolloutRow}
      (hrow : db.rollouts.get id = some row) (h : Reconciled clock db row db') :
      Stepped db (.reconcile clock id) db'
  | observed {clock : Clock} {c : UUID} {o : Inventory} {db' : DB}
      (h : Observes clock db c o db'.assignments) (hrollouts : db'.rollouts = db.rollouts)
      (hreleases : db'.releases = db.releases) : Stepped db (.observe clock c o) db'
  | configured {clock : Clock} {id : UUID} {sequence : Nat} {spec : ReleaseSpec} {db' : DB}
      (h : Configures db db') : Stepped db (.configure clock id sequence spec) db'
  | registered {clusters : Keyed ClusterRow.id} :
      Stepped db (.register clusters) { db with clusters }

theorem step_cases (db : DB) (e : Event) : Stepped db e (step env db e) := by
  unfold step
  cases hc : e.transaction env db with
  | error err => exact .refused
  | ok db' =>
    cases e with
    | start clock id request =>
      rcases start_ok hc with rfl | ⟨row, previous, deadline, planned, h⟩
      · exact .refused
      · exact .started h
    | act clock request =>
      obtain ⟨row, row', hr, h⟩ := act_ok hc
      exact .acted hr h
    | reconcile clock id =>
      rcases reconcileOne_ok hc with rfl | ⟨row, hr, h⟩
      · exact .refused
      · exact .reconciled hr h
    | observe clock c o =>
      obtain ⟨h, hrll, hrl⟩ := observe_ok hc
      exact .observed h hrll hrl
    | configure clock id sequence spec => exact .configured (ensureRelease_ok hc)
    | register clusters =>
      cases hc
      exact .registered

end Astronomer.Delivery.SystemRollout
