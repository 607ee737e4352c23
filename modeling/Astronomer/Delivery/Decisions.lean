import Astronomer.Delivery.Scheduler

/-!
# What a decision can say

The scheduler's result, read back: which rollout transitions it asks for, where each
release comes from, and what it has seen when it declares a rollback complete.
-/

namespace Astronomer.Delivery

open List

variable {snapshot : RuntimeSnapshot} {desired : RolloutState} {code : String}
  {cluster : ClusterRuntime} {planned : PlannedCluster}

variable {env : Env} {input : EvaluateInput} {clusters : List ClusterRuntime}
  {plan : FrozenRollout} {d d' : Decision}

theorem setRolloutTransition_eq_ok (h : setRolloutTransition d snapshot desired code = .ok d') :
    d' = { d with rolloutTransition := some ⟨snapshot.state, desired, snapshot.fence, code⟩ } := by
  simp only [setRolloutTransition] at h
  split at h
  · cases h
  · split at h
    · cases h
    · exact (Except.ok.inj h).symm

theorem addClusterTransition_eq_ok {desired}
    (h : addClusterTransition d cluster desired code = .ok d') :
    d' = { d with clusterTransitions := d.clusterTransitions ++
            [⟨cluster.clusterID, cluster.state, desired, cluster.fence, code⟩] } := by
  simp only [addClusterTransition] at h
  split at h
  · cases h
  · exact (Except.ok.inj h).symm

theorem clusterAt_eq_ok :
    clusterAt clusters planned = .ok cluster ↔ clusters[planned.order]? = some cluster := by
  simp [clusterAt]

def AssignmentAction.releaseState : AssignmentAction → RolloutClusterState
  | .apply => .released
  | .rollback => .rollingBack

theorem newRelease_eq_ok {version now} {action : AssignmentAction} {release : Release}
    (h : newRelease env plan planned cluster action version now = .ok release) :
    release.clusterID = planned.clusterID ∧ release.action = action ∧
      release.version = version ∧ release.fromState = cluster.state ∧
      release.toState = action.releaseState ∧ release.expectedFence = cluster.fence ∧
      release.generation = cluster.currentGeneration + 1 := by
  simp only [newRelease] at h
  split at h
  · cases h
  · split at h
    · cases h
    · cases h
      cases action <;> exact ⟨rfl, rfl, rfl, rfl, rfl, rfl, rfl⟩

/-! ## Transitions of the rollout -/

def Decision.MovesWithin (d : Decision) (snapshot : RuntimeSnapshot)
    (targets : List RolloutState) : Prop :=
  ∀ t, d.rolloutTransition = some t →
    t.fromState = snapshot.state ∧ t.expectedFence = snapshot.fence ∧ t.toState ∈ targets

theorem Decision.MovesWithin.of_none {targets} (h : d.rolloutTransition = none) :
    d.MovesWithin snapshot targets := by
  intro t ht
  rw [h] at ht
  cases ht

theorem Decision.MovesWithin.of_set {targets} (hmem : desired ∈ targets)
    (h : setRolloutTransition d snapshot desired code = .ok d') :
    d'.MovesWithin snapshot targets := by
  rw [setRolloutTransition_eq_ok h]
  intro t ht
  cases ht
  exact ⟨rfl, rfl, hmem⟩

/-! ## Forward progress -/

def Settles (plan : FrozenRollout) (now : Time) (cluster : ClusterRuntime)
    (toState : RolloutClusterState) : Prop :=
  (cluster.state = .pending ∧ toState = .blocked) ∨
  (cluster.state = .blocked ∧ toState = .pending) ∨
  (isApplyActive cluster.state ∧ deadlineFor plan cluster ≤ now ∧ toState = .timedOut)

/-- Where a release of action `action` comes from: a plan cluster whose runtime is as
`ready` asks, and `newRelease` at the version it is to carry. -/
def ReleaseFrom (env : Env) (input : EvaluateInput) (clusters : List ClusterRuntime)
    (action : AssignmentAction) (startable : ClusterRuntime → Prop)
    (version : PlannedCluster → VersionIdentity → Prop) (release : Release) : Prop :=
  ∃ planned ∈ input.snapshot.plan.clusters, ∃ cluster v,
    clusters[planned.order]? = some cluster ∧ startable cluster ∧ version planned v ∧
    newRelease env input.snapshot.plan planned cluster action v input.now = .ok release

def ApplyRelease (env : Env) (input : EvaluateInput) (clusters : List ClusterRuntime) :
    Release → Prop :=
  ReleaseFrom env input clusters .apply
    (fun c => c.state = .pending ∧ c.connected = true)
    (fun planned v => v = input.snapshot.plan.desiredFor planned)

def RollbackRelease (env : Env) (input : EvaluateInput) (clusters : List ClusterRuntime) :
    Release → Prop :=
  ReleaseFrom env input clusters .rollback
    (fun c => c.everReleased = true ∧ canStartRollback c.state = true)
    (fun planned v => ∃ previous, planned.previous = some previous ∧ v = previous.version)

structure Decision.Forward (env : Env) (input : EvaluateInput) (clusters : List ClusterRuntime)
    (d : Decision) : Prop where
  moves : d.MovesWithin input.snapshot [.paused, .failed, .succeeded]
  releases : ∀ r ∈ d.releases, ApplyRelease env input clusters r
  transitions : ∀ t ∈ d.clusterTransitions, ∃ cluster ∈ clusters,
    t.clusterID = cluster.clusterID ∧ t.fromState = cluster.state ∧
      t.expectedFence = cluster.fence ∧
      Settles input.snapshot.plan input.now cluster t.toState

theorem Decision.Forward.of_set {targets} (h : d.Forward env input clusters)
    (hmem : targets ∈ [RolloutState.paused, .failed, .succeeded])
    (hs : setRolloutTransition d input.snapshot targets code = .ok d') :
    d'.Forward env input clusters := by
  refine ⟨.of_set hmem hs, ?_, ?_⟩
  · rw [setRolloutTransition_eq_ok hs]; exact h.releases
  · rw [setRolloutTransition_eq_ok hs]; exact h.transitions

theorem Decision.Forward.blocked {reason} (h : d.Forward env input clusters) :
    ({ d with blocked := reason } : Decision).Forward env input clusters :=
  ⟨h.moves, h.releases, h.transitions⟩

theorem Decision.Forward.add {toState} (h : d.Forward env input clusters)
    (hmem : cluster ∈ clusters) (hs : Settles input.snapshot.plan input.now cluster toState)
    (ha : addClusterTransition d cluster toState code = .ok d') :
    d'.Forward env input clusters := by
  rw [addClusterTransition_eq_ok ha]
  refine ⟨h.moves, h.releases, fun t ht => ?_⟩
  rcases mem_append.mp ht with hold | hn
  · exact h.transitions t hold
  · rw [mem_singleton.mp hn]
    exact ⟨cluster, hmem, rfl, rfl, rfl, hs⟩

theorem settleCluster_eq_ok (hok : settleCluster input.snapshot.plan input.now d cluster = .ok d') :
    d' = d ∨ ∃ toState code, Settles input.snapshot.plan input.now cluster toState ∧
      addClusterTransition d cluster toState code = .ok d' := by
  simp only [settleCluster] at hok
  split at hok
  next hc => exact .inr ⟨_, _, .inl ⟨hc.1, rfl⟩, hok⟩
  · split at hok
    next hc => exact .inr ⟨_, _, .inr (.inl ⟨hc.1, rfl⟩), hok⟩
    · split at hok
      next hc => exact .inr ⟨_, _, .inr (.inr ⟨hc.1, hc.2, rfl⟩), hok⟩
      · cases hok
        exact .inl rfl

theorem releaseCluster_eq_ok {s' cohortIndex} {s : Slots}
    (hok : releaseCluster env input clusters cohortIndex s planned = .ok s') :
    s' = s ∨ s' = { s with availabilityBlocked := true } ∨
    ∃ cluster release, clusters[planned.order]? = some cluster ∧
      (cluster.state = .pending ∧ cluster.connected) ∧ planned.cohort = cohortIndex ∧
      s.concurrency ≠ 0 ∧ (cluster.available → 0 < s.availability) ∧
      newRelease env input.snapshot.plan planned cluster .apply
        (input.snapshot.plan.desiredFor planned) input.now = .ok release ∧
      s' = { s with
        decision := { s.decision with releases := s.decision.releases ++ [release] }
        concurrency := s.concurrency - 1
        availability := if cluster.available then s.availability - 1 else s.availability } := by
  simp only [releaseCluster] at hok
  split at hok
  · cases hok; exact .inl rfl
  · split at hok
    · cases hok; exact .inl rfl
    · simp only [bind_eq_ok] at hok
      obtain ⟨cluster, hat, hok⟩ := hok
      split at hok
      · cases hok; exact .inl rfl
      · split at hok
        · cases hok; exact .inr (.inl rfl)
        next hs hch hpd hr =>
          simp only [bind_eq_ok] at hok
          obtain ⟨release, hn, hok⟩ := hok
          cases hok
          simp only [not_or, ne_eq, not_not, Bool.not_eq_false, not_and, not_le] at *
          exact .inr (.inr ⟨cluster, release, clusterAt_eq_ok.mp hat, hpd, hch, hs, hr, hn, rfl⟩)

theorem releaseCluster_forward {cohortIndex} {s s' : Slots}
    (h : s.decision.Forward env input clusters) (hmem : planned ∈ input.snapshot.plan.clusters)
    (hok : releaseCluster env input clusters cohortIndex s planned = .ok s') :
    s'.decision.Forward env input clusters := by
  obtain rfl | rfl | ⟨cluster, release, hat, hpd, -, -, -, hn, rfl⟩ := releaseCluster_eq_ok hok
  · exact h
  · exact h
  · refine ⟨h.moves, fun r hr => ?_, h.transitions⟩
    rcases mem_append.mp hr with hold | hl
    · exact h.releases r hold
    · rw [mem_singleton.mp hl]
      exact ⟨planned, hmem, cluster, _, hat, hpd, rfl, hn⟩

theorem releaseCohort_forward {cohortIndex} (h : d.Forward env input clusters)
    (hok : releaseCohort env input clusters cohortIndex d = .ok d') :
    d'.Forward env input clusters := by
  simp only [releaseCohort] at hok
  split at hok
  · cases hok
    exact h.blocked
  · simp only [bind_eq_ok] at hok
    obtain ⟨s, hl, hok⟩ := hok
    have hs : s.decision.Forward env input clusters :=
      foldlM_invariant (P := fun s : Slots => s.decision.Forward env input clusters)
        (fun _ _ _ hmem hi ho => releaseCluster_forward hi hmem ho) hl h
    split at hok <;> cases hok
    · exact hs.blocked
    · exact hs

/-- The ways in which a progressing rollout is decided, starting from the decision `d`: clusters
change by themselves, the rollout moves, it waits, or a cohort whose gates are open releases. -/
inductive Progress (env : Env) (input : EvaluateInput) (clusters : List ClusterRuntime)
    (d : Decision) : Decision → Prop where
  | settle {d' : Decision}
      (hloop : clusters.foldlM (settleCluster input.snapshot.plan input.now) d = .ok d') :
      Progress env input clusters d d'
  | move {desired : RolloutState} {code : String} {d' : Decision}
      (hmem : desired ∈ [RolloutState.paused, .failed, .succeeded])
      (hdone : desired = .succeeded → d.counters.failed = 0 ∧ ∃ active,
        activeCohort input.snapshot.plan clusters input.now = .ok active ∧
          active.allComplete)
      (hset : setRolloutTransition d input.snapshot desired code = .ok d') :
      Progress env input clusters d d'
  | wait (reason : BlockReason) : Progress env input clusters d { d with blocked := reason }
  | release {active : ActiveCohort} {cohort : Cohort} {d' : Decision}
      (hdeadline : input.now < input.snapshot.plan.deadline)
      (hfailed : d.counters.failed ≤
        amountLimit input.snapshot.plan.strategy.failureThreshold clusters.length)
      (hactive : activeCohort input.snapshot.plan clusters input.now = .ok active)
      (hcohort : input.snapshot.plan.cohorts[active.index]? = some cohort)
      (hsoak : 0 < active.index → active.previousCompletedAt +
        (input.snapshot.plan.cohorts[active.index - 1]?).elim 0 (·.soakAfter) ≤ input.now)
      (happroved : cohort.approvalRequired → ∃ entry,
        input.cohortApprovals.find? (fun e => e.1 == (cohort.index : Int)) = some entry ∧
          entry.2.validFor cohort.approvalDigest input.now ∧ entry.2.approved)
      (hmaintenance : input.snapshot.plan.strategy.respectMaintenanceWindows →
        input.maintenance.allowsRelease)
      (hok : releaseCohort env input clusters active.index d = .ok d') :
      Progress env input clusters d d'

theorem gateCohort_progress {active} (hd : input.now < input.snapshot.plan.deadline)
    (hfl : d.counters.failed ≤
      amountLimit input.snapshot.plan.strategy.failureThreshold clusters.length)
    (ha : activeCohort input.snapshot.plan clusters input.now = .ok active)
    (hok : gateCohort env input clusters active d = .ok d') : Progress env input clusters d d' := by
  simp only [gateCohort, bind_eq_ok, orError_eq_ok] at hok
  obtain ⟨cohort, hch, hok⟩ := hok
  split at hok
  · cases hok
    exact .wait _
  · split at hok
    · cases hok
      exact .wait _
    · split at hok
      · exact .move (by simp) (by simp) hok
      · split at hok
        · cases hok
          exact .wait _
        next hsk hv hy hm =>
          simp only [not_and, not_lt, Bool.not_eq_false] at hsk hv hy hm
          refine .release hd hfl ha hch hsk (fun hr => ?_) hm hok
          have hv := hv hr
          have hy := hy hr
          cases hf : input.cohortApprovals.find? fun e => e.1 == (cohort.index : Int) <;>
            simp only [hf, Option.map_none, Option.map_some, Option.elim] at hv hy
          · cases hy
          · exact ⟨_, rfl, hv, hy⟩

theorem progressRollout_progress (hok : progressRollout env input clusters d = .ok d') :
    Progress env input clusters d d' := by
  simp only [progressRollout] at hok
  split at hok
  · exact .move (by simp) (by simp) hok
  · split at hok
    · split at hok <;> exact .move (by simp) (by simp) hok
    next hd hb =>
      simp only [bind_eq_ok] at hok
      obtain ⟨active, hac, hok⟩ := hok
      split at hok
      next ha =>
        split at hok
        · exact .move (by simp) (by simp) hok
        next hfl => exact .move (by simp) (fun _ => ⟨not_not.mp hfl, active, hac, ha⟩) hok
      · exact gateCohort_progress (not_le.mp hd) (by simpa [failureBudgetExceeded] using hb) hac hok

/-- The settling loop only adds transitions: if it ends without one, nothing has changed. -/
theorem evaluateProgressing_progress (hi : d.clusterTransitions = [])
    (hok : evaluateProgressing env input clusters d = .ok d') :
    Progress env input clusters d d' := by
  simp only [evaluateProgressing, bind_eq_ok] at hok
  obtain ⟨settled, hl, hok⟩ := hok
  have hs : settled = d ∨ settled.clusterTransitions ≠ [] := by
    refine foldlM_invariant (P := fun s : Decision => s = d ∨ s.clusterTransitions ≠ [])
      (fun s s' c _ hin ho => ?_) hl (.inl rfl)
    rcases settleCluster_eq_ok ho with rfl | ⟨_, _, -, ha⟩
    · exact hin
    · exact .inr (by rw [addClusterTransition_eq_ok ha]; simp)
  split at hok
  next he =>
    rcases hs with rfl | hsm
    · exact progressRollout_progress hok
    · exact absurd (List.isEmpty_iff.mp he) hsm
  · cases hok
    exact .settle hl

theorem Progress.forward (hsr : d.Forward env input clusters)
    (h : Progress env input clusters d d') : d'.Forward env input clusters := by
  cases h with
  | settle hl =>
    refine foldlM_invariant (fun _ _ _ hmem hi ho => ?_) hl hsr
    rcases settleCluster_eq_ok ho with rfl | ⟨_, _, hs, ha⟩
    · exact hi
    · exact hi.add hmem hs ha
  | move hmem _ hs => exact hsr.of_set hmem hs
  | wait _ => exact hsr.blocked
  | release _ _ _ _ _ _ _ hok => exact releaseCohort_forward hsr hok

/-! ## Rollback -/

theorem rollbackScan_tally {now rest} {t t' : RollbackTally}
    (h : rollbackScan plan clusters now rest t = .ok (.tally t')) :
    t.targets + t'.complete ≤ t'.targets + t.complete ∧
      (t.targets + t'.complete = t'.targets + t.complete →
        ∀ planned ∈ rest, ∀ cluster, clusters[planned.order]? = some cluster →
          cluster.everReleased → cluster.state = .readyPrevious) := by
  induction rest generalizing t with
  | nil =>
    cases h
    exact ⟨by omega, by simp⟩
  | cons planned rest ih =>
    simp only [rollbackScan, bind_eq_ok] at h
    obtain ⟨c, hat, h⟩ := h
    rw [clusterAt_eq_ok] at hat
    split at h
    · -- never released: not a target, not counted
      rename_i he
      obtain ⟨hle, ha⟩ := ih h
      refine ⟨hle, fun heq p hp cluster hc hrl => ?_⟩
      rcases mem_cons.mp hp with rfl | hp
      · rw [hat] at hc
        cases hc
        rw [he] at hrl
        cases hrl
      · exact ha heq p hp cluster hc hrl
    · split at h
      · cases h
      · split at h
        · -- already on its previous version: a target and complete
          rename_i hr
          obtain ⟨hle, ha⟩ := ih h
          simp only at hle ha
          refine ⟨by omega, fun heq p hp cluster hc hrl => ?_⟩
          rcases mem_cons.mp hp with rfl | hp
          · rw [hat] at hc
            cases hc
            exact hr
          · exact ha (by omega) p hp cluster hc hrl
        · split at h
          · cases h
          · split at h
            · cases h
            · -- a target that is not complete keeps the counts apart
              obtain ⟨hle, -⟩ := ih h
              simp only at hle
              exact ⟨by omega, fun heq => absurd heq (by omega)⟩

structure Decision.Backward (env : Env) (input : EvaluateInput) (clusters : List ClusterRuntime)
    (d : Decision) : Prop where
  moves : d.MovesWithin input.snapshot [.rolledBack, .rollbackFailed]
  complete : ∀ t, d.rolloutTransition = some t → t.toState = .rolledBack →
    d.releases = [] ∧ ∀ planned ∈ input.snapshot.plan.clusters, ∀ cluster,
      clusters[planned.order]? = some cluster → cluster.everReleased →
        cluster.state = .readyPrevious
  releases : ∀ r ∈ d.releases, RollbackRelease env input clusters r
  transitions : d.clusterTransitions = []

theorem Decision.Backward.of_none (hn : d.rolloutTransition = none)
    (hrl : ∀ r ∈ d.releases, RollbackRelease env input clusters r)
    (htr : d.clusterTransitions = []) : d.Backward env input clusters := by
  refine ⟨.of_none hn, fun t ht => ?_, hrl, htr⟩
  rw [hn] at ht
  cases ht

theorem Decision.Backward.rollbackFailed (h : d.Backward env input clusters)
    (hs : setRolloutTransition d input.snapshot .rollbackFailed code = .ok d') :
    d'.Backward env input clusters := by
  refine ⟨.of_set (by simp) hs, ?_, ?_, ?_⟩ <;> rw [setRolloutTransition_eq_ok hs]
  · intro t ht hto
    cases ht
    cases hto
  · exact h.releases
  · exact h.transitions

/-- What the second loop may release: a connected target that is neither back nor on its way. -/
def ClusterRuntime.startable (c : ClusterRuntime) : Bool :=
  c.everReleased && c.connected && c.state != .readyPrevious && c.state != .rollingBack

theorem rollbackCluster_eq_ok {s' maxUnavailable} {s : RollbackSlots}
    (hok : rollbackCluster env input clusters maxUnavailable s planned = .ok s') :
    (∃ reason, s' = { s with decision := { s.decision with blocked := reason } } ∧
      (s.slots = 0 ∨ s.missing ∨ ∃ cluster, clusters[planned.order]? = some cluster ∧
        (cluster.startable = false ∨ cluster.available ∧ maxUnavailable ≤ s.atRisk))) ∨
    (∃ cluster, clusters[planned.order]? = some cluster ∧ cluster.everReleased ∧
      planned.previous = none ∧ s' = { s with missing := true }) ∨
    ∃ cluster release previous, clusters[planned.order]? = some cluster ∧
      (cluster.everReleased ∧ cluster.startable ∧ canStartRollback cluster.state) ∧
      planned.previous = some previous ∧ s.slots ≠ 0 ∧
      (cluster.available → s.atRisk < maxUnavailable) ∧
      newRelease env input.snapshot.plan planned cluster .rollback previous.version
        input.now = .ok release ∧
      s' = { s with
        decision := { s.decision with releases := s.decision.releases ++ [release] }
        slots := s.slots - 1
        atRisk := if cluster.available then s.atRisk + 1 else s.atRisk } := by
  simp only [rollbackCluster] at hok
  split at hok
  next h0 =>
    cases hok
    exact .inl ⟨_, rfl, h0.imp_right .inl⟩
  next hs =>
    simp only [bind_eq_ok, clusterAt_eq_ok] at hok
    obtain ⟨cluster, hat, hok⟩ := hok
    have hstop : cluster.startable = false ∨ cluster.available ∧ maxUnavailable ≤ s.atRisk →
        s.slots = 0 ∨ s.missing ∨ ∃ cluster, clusters[planned.order]? = some cluster ∧
          (cluster.startable = false ∨ cluster.available ∧ maxUnavailable ≤ s.atRisk) :=
      fun h => .inr (.inr ⟨cluster, hat, h⟩)
    split at hok
    next hsk =>
      cases hok
      refine .inl ⟨_, rfl, hstop (.inl ?_)⟩
      rcases hsk with hsk | hsk | hsk <;> simp [ClusterRuntime.startable, hsk]
    next hsr =>
      split at hok
      next hd =>
        cases hok
        exact .inl ⟨_, rfl, hstop (.inl (by simp [ClusterRuntime.startable, hd]))⟩
      next hd =>
        split at hok
        next hr =>
          cases hok
          exact .inl ⟨_, rfl, hstop (.inr hr)⟩
        next hr =>
          simp only [not_or, Bool.not_eq_false, not_and, not_le] at hs hsr hd hr
          split at hok
          · cases hok
            exact .inr (.inl ⟨cluster, hat, hsr.1, by assumption, rfl⟩)
          · simp only [bind_eq_ok, require_eq_ok] at hok
            obtain ⟨-, hc, release, hn, hok⟩ := hok
            cases hok
            exact .inr (.inr ⟨cluster, release, _, hat,
              ⟨hsr.1, by simp [ClusterRuntime.startable, hsr, hd], hc⟩, by assumption, hs.1,
              hr, hn, rfl⟩)

theorem rollbackCluster_spec {maxUnavailable} {s s' : RollbackSlots}
    (h : s.decision.rolloutTransition = none ∧ s.decision.Backward env input clusters)
    (hmem : planned ∈ input.snapshot.plan.clusters)
    (hok : rollbackCluster env input clusters maxUnavailable s planned = .ok s') :
    s'.decision.rolloutTransition = none ∧ s'.decision.Backward env input clusters := by
  obtain ⟨hn, hb⟩ := h
  obtain ⟨_, rfl, -⟩ | ⟨_, -, -, -, rfl⟩ |
    ⟨cluster, release, previous, hat, ⟨he, -, hc⟩, hpv, -, -, hnw, rfl⟩ :=
    rollbackCluster_eq_ok hok
  · exact ⟨hn, .of_none hn hb.releases hb.transitions⟩
  · exact ⟨hn, hb⟩
  · refine ⟨hn, .of_none hn (fun r hr => ?_) hb.transitions⟩
    rcases mem_append.mp hr with hold | hl
    · exact hb.releases r hold
    · rw [mem_singleton.mp hl]
      exact ⟨planned, hmem, cluster, _, hat, ⟨he, hc⟩, ⟨previous, hpv, rfl⟩, hnw⟩

theorem mem_rollbackOrder :
    planned ∈ rollbackOrder plan clusters → planned ∈ plan.clusters := by
  intro h
  simp only [rollbackOrder, mem_append, mem_filter] at h
  rcases h with h | h <;> exact h.1

theorem evaluateRollback_backward (hn : d.rolloutTransition = none) (hrl : d.releases = [])
    (htr : d.clusterTransitions = [])
    (hok : evaluateRollback env input clusters d = .ok d') : d'.Backward env input clusters := by
  have hsr : d.Backward env input clusters := .of_none hn (by simp [hrl]) htr
  simp only [evaluateRollback, bind_eq_ok] at hok
  obtain ⟨scan, hsc, hok⟩ := hok
  split at hok
  · exact hsr.rollbackFailed hok
  next t =>
    obtain ⟨hle, ha⟩ := rollbackScan_tally hsc
    simp only [Nat.zero_add, Nat.add_zero] at hle ha
    split at hok
    next hdone =>
      have heq : t.complete = t.targets := by omega
      refine ⟨.of_set (by simp) hok, ?_, ?_, ?_⟩ <;> rw [setRolloutTransition_eq_ok hok]
      · intro _ _ _
        exact ⟨hrl, ha heq⟩
      · exact hsr.releases
      · exact hsr.transitions
    · split at hok
      · cases hok
        exact .of_none hn hsr.releases htr
      · simp only [bind_eq_ok] at hok
        obtain ⟨s, hl, hok⟩ := hok
        have hs := foldlM_invariant (P := fun s : RollbackSlots =>
            s.decision.rolloutTransition = none ∧ s.decision.Backward env input clusters)
          (fun _ _ _ hmem hi ho => rollbackCluster_spec hi (mem_rollbackOrder hmem) ho)
          hl ⟨hn, hsr⟩
        split at hok
        · exact hs.2.rollbackFailed hok
        · cases hok
          exact hs.2

/-! ## Evaluate -/

def ClusterRuntime.checked (c : ClusterRuntime) : Bool :=
  c.clusterID != 0 && decide (0 ≤ c.fence) && decide (0 ≤ c.currentGeneration) &&
    (c.state != .ready || c.readySince.getD 0 != 0)

/-- `validateRuntime` looks at each cluster by itself, and for repetitions. -/
theorem checkRuntime_loop_isOk (seen) (runtime : List ClusterRuntime) :
    (∃ seen', runtime.foldlM checkRuntime seen = .ok seen') ↔
      (∀ c ∈ runtime, c.checked) ∧ (runtime.map ClusterRuntime.clusterID).Nodup ∧
        ∀ c ∈ runtime, c.clusterID ∉ seen := by
  induction runtime generalizing seen with
  | nil => simp [pure, Except.pure]
  | cons c rest ih =>
    have hstep : ∀ next, checkRuntime seen c = .ok next ↔
        (c.checked ∧ c.clusterID ∉ seen) ∧ next = c.clusterID :: seen := by
      intro next
      simp only [checkRuntime, ClusterRuntime.checked, bind_eq_ok, require_eq_ok, pure_eq_ok,
        exists_const, Bool.and_eq_true, Bool.not_eq_true', contains_eq_mem,
        decide_eq_false_iff_not]
      tauto
    simp only [foldlM_cons, bind_eq_ok, hstep, forall_mem_cons, map_cons,
      nodup_cons, mem_map, not_exists, not_and]
    constructor
    · rintro ⟨seen', _, ⟨⟨hc, hn⟩, rfl⟩, hrest⟩
      obtain ⟨hch, hnd, hsn⟩ := (ih _).mp ⟨seen', hrest⟩
      simp only [mem_cons, not_or] at hsn
      exact ⟨⟨hc, hch⟩, ⟨fun c' hc' => (hsn c' hc').1, hnd⟩, hn, fun c' hc' => (hsn c' hc').2⟩
    · rintro ⟨⟨hc, hch⟩, ⟨hne, hnd⟩, hn, hsn⟩
      obtain ⟨seen', hrest⟩ := (ih _).mpr ⟨hch, hnd, fun c' hc' =>
        not_mem_cons_of_ne_of_not_mem (hne c' hc') (hsn c' hc')⟩
      exact ⟨seen', _, ⟨⟨hc, hn⟩, rfl⟩, hrest⟩

theorem validateRuntime_at {runtime} (hm : plan.Members)
    (h : validateRuntime plan runtime = .ok clusters) (hp : planned ∈ plan.clusters) :
    ∃ c ∈ runtime, c.clusterID = planned.clusterID ∧ clusters[planned.order]? = some c := by
  simp only [validateRuntime, bind_eq_ok] at h
  obtain ⟨-, -, -, -, hmp⟩ := h
  obtain ⟨i, hi⟩ := getElem?_of_mem hp
  obtain ⟨c, hc, hf⟩ := mapM_eq_ok_getElem? hmp hi
  rw [orError_eq_ok] at hf
  refine ⟨c, mem_of_find?_eq_some hf, by simpa using find?_some hf, ?_⟩
  rw [hm.order i planned hi, hc]

structure Decision.Idle (d : Decision) : Prop where
  releases : d.releases = []
  transitions : d.clusterTransitions = []

def Decision.Lawful (env : Env) (input : EvaluateInput) (clusters : List ClusterRuntime)
    (d : Decision) : Prop :=
  match input.snapshot.state with
  | .progressing => d.Forward env input clusters
  | .rollingBack => d.Backward env input clusters
  | .resolving => d.Idle ∧ d.MovesWithin input.snapshot
      [if input.snapshot.plan.approval.required then .awaitingApproval else .queued]
  | .awaitingApproval => d.Idle ∧ d.MovesWithin input.snapshot [.queued, .rejected] ∧
      ∀ t, d.rolloutTransition = some t → t.toState = .queued →
        ∃ a, input.initialApproval = some a ∧
          a.validFor input.snapshot.plan.approval.digest input.now ∧ a.approved
  | .queued => d.Idle ∧ d.MovesWithin input.snapshot [.progressing]
  | .failed => d.Idle ∧ d.MovesWithin input.snapshot [.rollingBack] ∧
      (d.rolloutTransition.isSome → input.snapshot.plan.strategy.onFailure = .rollback)
  | _ => d.Idle ∧ d.rolloutTransition = none

theorem Decision.Idle.of_set
    (h : d.Idle) (hs : setRolloutTransition d snapshot desired code = .ok d') : d'.Idle := by
  rw [setRolloutTransition_eq_ok hs]
  exact ⟨h.releases, h.transitions⟩

theorem evaluateState_lawful (hn : d.rolloutTransition = none) (hi : d.Idle)
    (hok : evaluateState env input clusters d = .ok d') : d'.Lawful env input clusters := by
  cases hst : input.snapshot.state <;> simp only [evaluateState, hst, Decision.Lawful] at hok ⊢
  case draft => cases hok
  case resolving =>
    split at hok <;> rename_i hr
    · exact ⟨hi.of_set hok, .of_set (by simp [hr]) hok⟩
    · exact ⟨hi.of_set hok, .of_set (by simp [hr]) hok⟩
  case awaitingApproval =>
    split at hok
    · cases hok
      exact ⟨⟨hi.releases, hi.transitions⟩, .of_none hn, fun t ht => by simp_all⟩
    next approval ha =>
      split at hok
      · cases hok
        exact ⟨⟨hi.releases, hi.transitions⟩, .of_none hn, fun t ht => by simp_all⟩
      next hv =>
        split at hok
        next hy =>
          refine ⟨hi.of_set hok, .of_set (by simp) hok, fun t _ _ => ?_⟩
          exact ⟨approval, ha, by simpa using hv, hy⟩
        · refine ⟨hi.of_set hok, .of_set (by simp) hok, fun t ht hto => ?_⟩
          rw [setRolloutTransition_eq_ok hok] at ht
          cases ht
          cases hto
  case queued =>
    split at hok
    · cases hok
      exact ⟨⟨hi.releases, hi.transitions⟩, .of_none hn⟩
    · exact ⟨hi.of_set hok, .of_set (by simp) hok⟩
  case progressing =>
    refine (evaluateProgressing_progress hi.transitions hok).forward ⟨.of_none hn, ?_, ?_⟩
    · simp [hi.releases]
    · simp [hi.transitions]
  case failed =>
    split at hok
    next hp => exact ⟨hi.of_set hok, .of_set (by simp) hok, fun _ => hp⟩
    · cases hok
      exact ⟨hi, .of_none hn, by simp [hn]⟩
    · cases hok
      exact ⟨hi, .of_none hn, by simp [hn]⟩
  case rollingBack =>
    exact evaluateRollback_backward hn hi.releases hi.transitions hok
  all_goals
    cases hok
    exact ⟨hi, hn⟩

theorem Decision.Lawful.sorted {digest} (h : d.Lawful env input clusters) :
    ({ d.sorted with id := digest } : Decision).Lawful env input clusters := by
  have hid : d.Idle → ({ d.sorted with id := digest } : Decision).Idle := fun hi =>
    ⟨by simp [Decision.sorted, hi.releases], by simp [Decision.sorted, hi.transitions]⟩
  have hrl : ∀ r, r ∈ d.sorted.releases ↔ r ∈ d.releases := fun r => by
    simp [Decision.sorted]
  have htr : ∀ t, t ∈ d.sorted.clusterTransitions ↔ t ∈ d.clusterTransitions := fun t => by
    simp [Decision.sorted]
  cases hst : input.snapshot.state <;> simp only [Decision.Lawful, hst] at h ⊢
  case progressing =>
    exact ⟨h.moves, fun r hr => h.releases r ((hrl r).mp hr),
      fun t ht => h.transitions t ((htr t).mp ht)⟩
  case rollingBack =>
    refine ⟨h.moves, fun t ht hto => ?_, fun r hr => h.releases r ((hrl r).mp hr),
      by simp [Decision.sorted, h.transitions]⟩
    obtain ⟨hn, ha⟩ := h.complete t ht hto
    exact ⟨by simp [Decision.sorted, hn], ha⟩
  all_goals exact ⟨hid h.1, h.2⟩

theorem evaluate_lawful (hok : evaluate env input = .ok d) :
    ∃ clusters, input.snapshot.plan.validate env = .ok () ∧
      validateRuntime input.snapshot.plan input.snapshot.clusters = .ok clusters ∧
      d.Lawful env input clusters := by
  simp only [evaluate, bind_eq_ok, pure_eq_ok] at hok
  obtain ⟨-, -, u, hp, -, -, -, -, clusters, hr, d0, hst, rfl⟩ := hok
  refine ⟨clusters, hp, hr, Decision.Lawful.sorted ?_⟩
  exact evaluateState_lawful rfl ⟨rfl, rfl⟩ hst

end Astronomer.Delivery
