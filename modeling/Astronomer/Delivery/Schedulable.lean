import Astronomer.Delivery.Decisions

/-!
# When the scheduler decides

`Evaluate` gives up with an invariant error on a runtime it does not expect. On a runtime
without such clusters it decides, whatever the rollout's state, the approvals and the clock.
-/

namespace Astronomer.Delivery

open List

structure ClusterRuntime.Sane (c : ClusterRuntime) : Prop where
  named : c.clusterID ≠ 0
  fence : 0 ≤ c.fence
  generation : 0 ≤ c.currentGeneration ∧ c.currentGeneration < maxInt64
  ready : c.state = .ready → c.readySince.getD 0 ≠ 0
  stamped : c.stateChangedAt ≠ 0
  released : c.everReleased → c.state ≠ .readyPrevious → c.state ≠ .rollingBack →
    canStartRollback c.state

def InPlace (plan : FrozenRollout) (clusters : List ClusterRuntime) : Prop :=
  ∀ planned ∈ plan.clusters, ∃ c, clusterAt clusters planned = .ok c ∧ c.Sane

variable {env : Env} {input : EvaluateInput} {clusters : List ClusterRuntime}
  {plan : FrozenRollout} {d : Decision} {now : Time}

/-! ## Single transitions -/

section Transitions

variable {cluster : ClusterRuntime} {code : String}

theorem transition_ne_error {S : Type} [DecidableEq S] {machine : String} {text : S → String}
    {table : S → List S} {current : Fenced S} {desired : S} {e : TransitionError}
    (h : desired ∈ table current.state) :
    transition machine text table current desired current.fence ≠ .error e := by
  unfold transition
  by_cases hs : current.state = desired <;> simp [hs, h]

theorem setRolloutTransition_exists_ok {snapshot : RuntimeSnapshot} {desired : RolloutState}
    (hn : d.rolloutTransition = none) (h : desired ∈ rolloutTransitions snapshot.state) :
    ∃ d', setRolloutTransition d snapshot desired code = .ok d' := by
  unfold setRolloutTransition
  split
  next hs => simp [hn] at hs
  next =>
    split
    next hrf => exact absurd hrf (transition_ne_error h)
    next => exact ⟨_, rfl⟩

theorem addClusterTransition_exists_ok {desired : RolloutClusterState}
    (h : desired ∈ rolloutClusterTransitions cluster.state) :
    ∃ d', addClusterTransition d cluster desired code = .ok d' ∧
      d'.rolloutTransition = d.rolloutTransition := by
  unfold addClusterTransition
  split
  next hrf => exact absurd hrf (transition_ne_error h)
  next => exact ⟨_, rfl, rfl⟩

theorem newRelease_exists_ok {planned : PlannedCluster} {action : AssignmentAction}
    {version : VersionIdentity} (hg : cluster.currentGeneration < maxInt64)
    (h : action.releaseState ∈ rolloutClusterTransitions cluster.state) :
    ∃ release, newRelease env plan planned cluster action version now = .ok release := by
  simp only [newRelease, if_neg (ne_of_lt hg)]
  split
  next hrf => cases action <;> exact absurd hrf (transition_ne_error h)
  next => exact ⟨_, rfl⟩

end Transitions

/-! ## Forward progress -/

theorem settleCluster_exists_ok (cluster : ClusterRuntime) :
    ∃ d', settleCluster plan now d cluster = .ok d' ∧
      d'.rolloutTransition = d.rolloutTransition := by
  unfold settleCluster
  split
  next hc => exact addClusterTransition_exists_ok (by simp [hc.1, rolloutClusterTransitions])
  next =>
    split
    next hc => exact addClusterTransition_exists_ok (by simp [hc.1, rolloutClusterTransitions])
    next =>
      split
      next hc =>
        refine addClusterTransition_exists_ok ?_
        cases hst : cluster.state <;> simp [hst, isApplyActive] at hc <;>
          simp [rolloutClusterTransitions]
      next => exact ⟨d, rfl, rfl⟩

theorem cohortMember_exists_ok {planned} (h : InPlace plan clusters) (hp : planned ∈ plan.clusters)
    (index : Nat) (acc : Bool × Time) :
    ∃ acc', cohortMember plan clusters now index acc planned = .ok acc' := by
  obtain ⟨c, hat, hc⟩ := h planned hp
  unfold cohortMember
  split
  · exact ⟨acc, rfl⟩
  · simp only [hat, bind_eq_ok, Except.ok.injEq, exists_eq_left']
    cases hst : c.state <;> simp [hc.stamped]

theorem activeCohortFrom_exists_ok (h : InPlace plan clusters) (cohorts : List Cohort)
    (previous : Time) :
    ∃ active, activeCohortFrom plan clusters now cohorts previous = .ok active ∧
      (active.allComplete = false → ∃ cohort ∈ cohorts, active.index = cohort.index) := by
  induction cohorts generalizing previous with
  | nil => exact ⟨_, rfl, fun hff => by cases hff⟩
  | cons cohort rest ih =>
    obtain ⟨progress, hl, -⟩ : ∃ progress,
        plan.clusters.foldlM (cohortMember plan clusters now cohort.index) (true, plan.createdAt) =
          .ok progress ∧ True := by
      refine foldlM_exists_ok (P := fun _ => True) (fun acc planned hp _ => ?_) trivial
      obtain ⟨acc', hac⟩ := cohortMember_exists_ok h hp cohort.index acc
      exact ⟨acc', hac, trivial⟩
    simp only [activeCohortFrom, hl, bind_eq_ok, Except.ok.injEq, exists_eq_left']
    split
    · obtain ⟨active, ha, hidx⟩ := ih progress.2
      refine ⟨active, ha, fun hff => ?_⟩
      obtain ⟨c, hc, heq⟩ := hidx hff
      exact ⟨c, mem_cons_of_mem _ hc, heq⟩
    · exact ⟨_, rfl, fun _ => ⟨cohort, mem_cons_self, rfl⟩⟩

theorem rollbackScan_exists_ok (h : InPlace plan clusters) {rest}
    (hrest : ∀ planned ∈ rest, planned ∈ plan.clusters) (t : RollbackTally) :
    ∃ scan, rollbackScan plan clusters now rest t = .ok scan := by
  induction rest generalizing t with
  | nil => exact ⟨_, rfl⟩
  | cons planned rest ih =>
    obtain ⟨c, hat, -⟩ := h planned (hrest planned mem_cons_self)
    have hn := fun t => ih (fun p hp => hrest p (mem_cons_of_mem _ hp)) t
    simp only [rollbackScan, hat, bind_eq_ok, Except.ok.injEq, exists_eq_left']
    split
    · exact hn _
    · split
      · exact ⟨_, rfl⟩
      · split
        · exact hn _
        · split
          · exact ⟨_, rfl⟩
          · split
            · exact ⟨_, rfl⟩
            · exact hn _

theorem rollingBack_mem_of_canStartRollback {s} (h : canStartRollback s) :
    .rollingBack ∈ rolloutClusterTransitions s := by
  cases s <;> simp [canStartRollback] at h <;> simp [rolloutClusterTransitions]

section

variable (h : InPlace input.snapshot.plan clusters)

include h

theorem rollbackCluster_exists_ok {maxUnavailable : Nat} {s : RollbackSlots}
    {planned : PlannedCluster} (hp : planned ∈ input.snapshot.plan.clusters)
    (hn : s.decision.rolloutTransition = none) :
    ∃ s', rollbackCluster env input clusters maxUnavailable s planned = .ok s' ∧
      s'.decision.rolloutTransition = none := by
  obtain ⟨c, hat, hc⟩ := h planned hp
  unfold rollbackCluster
  split
  · exact ⟨s, rfl, hn⟩
  · simp only [hat, bind_eq_ok, Except.ok.injEq, exists_eq_left']
    split
    · exact ⟨s, rfl, hn⟩
    next hsr =>
      simp only [not_or, Bool.not_eq_false] at hsr
      have hcn : canStartRollback c.state := hc.released hsr.1 hsr.2.1 hsr.2.2
      split
      · exact ⟨_, rfl, hn⟩
      · split
        · exact ⟨_, rfl, hn⟩
        · split
          · exact ⟨_, rfl, hn⟩
          next previous _ =>
            obtain ⟨release, hnw⟩ := @newRelease_exists_ok env input.snapshot.plan input.now c
              planned .rollback previous.version hc.generation.2
              (rollingBack_mem_of_canStartRollback hcn)
            simp [hcn, hnw, hn]

theorem releaseCluster_exists_ok {cohortIndex : Nat} {s : Slots} {planned : PlannedCluster}
    (hp : planned ∈ input.snapshot.plan.clusters) :
    ∃ s', releaseCluster env input clusters cohortIndex s planned = .ok s' := by
  obtain ⟨c, hat, hc⟩ := h planned hp
  unfold releaseCluster
  split
  · exact ⟨s, rfl⟩
  · split
    · exact ⟨s, rfl⟩
    · simp only [hat, bind_eq_ok, Except.ok.injEq, exists_eq_left']
      split
      · exact ⟨s, rfl⟩
      next hpd =>
        split
        · exact ⟨_, rfl⟩
        · simp only [not_or, ne_eq, not_not] at hpd
          obtain ⟨release, hn⟩ := @newRelease_exists_ok env input.snapshot.plan input.now c planned
            .apply (input.snapshot.plan.desiredFor planned) hc.generation.2
            (by simp [hpd.1, rolloutClusterTransitions, AssignmentAction.releaseState])
          simp [hn]

theorem releaseCohort_exists_ok (cohortIndex : Nat) :
    ∃ d', releaseCohort env input clusters cohortIndex d = .ok d' := by
  simp only [releaseCohort]
  split
  · exact ⟨_, rfl⟩
  · refine bind_exists_ok (P := fun _ => True) (foldlM_exists_ok (fun s planned hp _ => ?_) trivial)
      fun s _ => ?_
    · obtain ⟨s', hs'⟩ := @releaseCluster_exists_ok env input clusters h cohortIndex s planned hp
      exact ⟨s', hs', trivial⟩
    · split <;> exact ⟨_, rfl⟩

variable (hn : d.rolloutTransition = none)

include hn

section

variable (hst : input.snapshot.state = .progressing)

include hst

theorem gateCohort_exists_ok {active : ActiveCohort} {cohort : Cohort}
    (hch : input.snapshot.plan.cohorts[active.index]? = some cohort) :
    ∃ d', gateCohort env input clusters active d = .ok d' := by
  simp only [gateCohort, hch, orError, bind_eq_ok, Except.ok.injEq, exists_eq_left']
  split
  · exact ⟨_, rfl⟩
  · split
    · exact ⟨_, rfl⟩
    · split
      · exact setRolloutTransition_exists_ok hn (by simp [hst, rolloutTransitions])
      · split
        · exact ⟨_, rfl⟩
        · exact releaseCohort_exists_ok h _

theorem progressRollout_exists_ok (hv : input.snapshot.plan.validate env = .ok ()) :
    ∃ d', progressRollout env input clusters d = .ok d' := by
  have hm : ∀ {desired : RolloutState} {code : String},
      desired ∈ [RolloutState.paused, .succeeded, .failed, .aborted] →
      ∃ d', setRolloutTransition d input.snapshot desired code = .ok d' := fun hmem =>
    setRolloutTransition_exists_ok hn (by rw [hst]; exact hmem)
  simp only [progressRollout]
  split
  · exact hm (by simp)
  · split
    · split <;> exact hm (by simp)
    · obtain ⟨active, ha, hidx⟩ :=
        @activeCohortFrom_exists_ok clusters input.snapshot.plan input.now h
          input.snapshot.plan.cohorts input.snapshot.plan.createdAt
      simp only [activeCohort, ha, bind_eq_ok, Except.ok.injEq, exists_eq_left']
      split
      · split <;> exact hm (by simp)
      next hin =>
        obtain ⟨cohort, hch, heq⟩ := hidx (by simpa using hin)
        obtain ⟨i, hi⟩ := getElem?_of_mem hch
        obtain rfl := FrozenRollout.cohort_index_of_validate hv hi
        exact gateCohort_exists_ok h hn hst (heq ▸ hi)

theorem evaluateProgressing_exists_ok (hv : input.snapshot.plan.validate env = .ok ()) :
    ∃ d', evaluateProgressing env input clusters d = .ok d' := by
  refine bind_exists_ok (P := fun settled : Decision => settled.rolloutTransition = none)
    (foldlM_exists_ok (fun s cluster _ hs => ?_) hn) fun settled hse => ?_
  · obtain ⟨s', hs', hsm⟩ := @settleCluster_exists_ok input.snapshot.plan s input.now cluster
    exact ⟨s', hs', hsm.trans hs⟩
  · split
    · exact progressRollout_exists_ok h hse hst hv
    · exact ⟨_, rfl⟩

end

/-! ## Rollback -/

theorem evaluateRollback_exists_ok (hst : input.snapshot.state = .rollingBack) :
    ∃ d', evaluateRollback env input clusters d = .ok d' := by
  have hm : ∀ {d : Decision} {desired : RolloutState} {code : String},
      d.rolloutTransition = none → desired ∈ [RolloutState.rolledBack, .rollbackFailed] →
      ∃ d', setRolloutTransition d input.snapshot desired code = .ok d' := fun hn hmem =>
    setRolloutTransition_exists_ok hn (by rw [hst]; exact hmem)
  obtain ⟨scan, hsc⟩ := @rollbackScan_exists_ok clusters input.snapshot.plan input.now h
    input.snapshot.plan.clusters (fun _ hp => hp) {}
  simp only [evaluateRollback, hsc, bind_eq_ok, Except.ok.injEq, exists_eq_left']
  split
  · exact hm hn (by simp)
  · split
    · exact hm hn (by simp)
    · split
      · exact ⟨_, rfl⟩
      · refine bind_exists_ok (P := fun s : RollbackSlots => s.decision.rolloutTransition = none)
          (foldlM_exists_ok (fun s planned hp hs => ?_) hn) fun s hs => ?_
        · exact rollbackCluster_exists_ok h (mem_rollbackOrder hp) hs
        · split
          · exact hm hs (by simp)
          · exact ⟨_, rfl⟩

/-! ## Evaluate -/

theorem evaluateState_exists_ok (hv : input.snapshot.plan.validate env = .ok ())
    (hs : input.snapshot.state ≠ .draft) :
    ∃ d', evaluateState env input clusters d = .ok d' := by
  have hm : ∀ {desired : RolloutState} {code : String},
      desired ∈ rolloutTransitions input.snapshot.state →
      ∃ d', setRolloutTransition d input.snapshot desired code = .ok d' :=
    setRolloutTransition_exists_ok hn
  cases hst : input.snapshot.state <;> simp only [evaluateState, hst] <;> rw [hst] at hm
  case draft => exact absurd hst hs
  case resolving => split <;> exact hm (by simp [rolloutTransitions])
  case awaitingApproval =>
    split
    · exact ⟨_, rfl⟩
    · split
      · exact ⟨_, rfl⟩
      · split <;> exact hm (by simp [rolloutTransitions])
  case queued =>
    split
    · exact ⟨_, rfl⟩
    · exact hm (by simp [rolloutTransitions])
  case progressing => exact evaluateProgressing_exists_ok h hn hst hv
  case failed =>
    split
    · exact hm (by simp [rolloutTransitions])
    · exact ⟨_, rfl⟩
    · exact ⟨_, rfl⟩
  case rollingBack => exact evaluateRollback_exists_ok h hn hst
  all_goals exact ⟨_, rfl⟩

end

/-- What the scheduler takes for granted about a runtime: the clusters of the plan, each once
and each as expected. -/
structure RuntimeSnapshot.Sane (snapshot : RuntimeSnapshot) : Prop where
  started : snapshot.state ≠ .draft
  fence : 0 ≤ snapshot.fence
  members : (snapshot.clusters.map ClusterRuntime.clusterID).Perm
    (snapshot.plan.clusters.map PlannedCluster.clusterID)
  clusters : ∀ c ∈ snapshot.clusters, c.Sane

theorem ClusterRuntime.Sane.checked {c : ClusterRuntime} (hc : c.Sane) : c.checked := by
  have hr : (c.state != .ready || (c.readySince.getD 0 != 0)) := by
    by_cases hst : c.state = .ready
    · simp [hc.ready hst]
    · simp [hst]
  simp [ClusterRuntime.checked, hr, hc.named, hc.fence, hc.generation.1]

theorem validateRuntime_exists_ok {runtime : List ClusterRuntime} (hm : plan.Members)
    (hmem : (runtime.map ClusterRuntime.clusterID).Perm
      (plan.clusters.map PlannedCluster.clusterID))
    (hsn : ∀ c ∈ runtime, c.Sane) :
    ∃ clusters, validateRuntime plan runtime = .ok clusters ∧ InPlace plan clusters := by
  have hl : runtime.length = plan.clusters.length := by simpa using hmem.length_eq
  obtain ⟨seen, hch⟩ := (checkRuntime_loop_isOk [] _).mpr
    ⟨fun c hc => (hsn c hc).checked, hmem.nodup_iff.mpr hm.nodup, by simp⟩
  obtain ⟨clusters, hpc⟩ : ∃ clusters, plan.clusters.mapM (fun planned =>
      orError (runtime.find? fun c => c.clusterID == planned.clusterID)
        (fail .invariant "runtime.clusters" "is missing frozen cluster")) = .ok clusters := by
    refine mapM_exists_ok fun planned hp => ?_
    obtain ⟨c, hc, hid⟩ := mem_map.mp (hmem.mem_iff.mpr (mem_map_of_mem hp))
    have hs : (runtime.find? fun c => c.clusterID == planned.clusterID).isSome :=
      find?_isSome.mpr ⟨c, hc, by simp [hid]⟩
    obtain ⟨found, hf⟩ := Option.isSome_iff_exists.mp hs
    exact ⟨found, by rw [hf]; rfl⟩
  have hok : validateRuntime plan runtime = .ok clusters := by
    simp only [validateRuntime, bind_eq_ok, require_eq_ok, beq_iff_eq]
    exact ⟨(), hl, seen, hch, hpc⟩
  refine ⟨clusters, hok, fun planned hp => ?_⟩
  obtain ⟨c, hc, -, hat⟩ := validateRuntime_at hm hok hp
  exact ⟨c, clusterAt_eq_ok.mpr hat, hsn c hc⟩

theorem evaluate_exists_ok (hv : input.snapshot.plan.validate env = .ok ())
    (hs : input.snapshot.Sane) (hn : input.now ≠ 0)
    (hl : input.lease.validate input.now input.snapshot.fence = .ok ()) :
    ∃ d, evaluate env input = .ok d := by
  obtain ⟨clusters, hr, hpc⟩ := validateRuntime_exists_ok
    (FrozenRollout.members_of_validate hv) hs.members hs.clusters
  obtain ⟨d, hd⟩ := evaluateState_exists_ok hpc
    (d := { expectedRolloutFence := input.snapshot.fence
            counters := deriveRolloutCounters (clusters.map ClusterRuntime.state) })
    rfl hv hs.started
  simp only [evaluate, bind_eq_ok, require_eq_ok, pure_eq_ok]
  exact ⟨_, (), bne_iff_ne.mpr hn, (), hv, (), decide_eq_true hs.fence, (), hl,
    clusters, hr, d, hd, rfl⟩

end Astronomer.Delivery
