import Astronomer.Delivery.System
import Astronomer.Delivery.Schedulable

/-!
# Budgets of a decision

Both loops of the scheduler spend `MaxConcurrent` and `MaxUnavailable` one release at a time.
The forward loop counts over the whole fleet. The loop of `evaluateRollback` passes over
clusters that were never released, or are back, before it counts them, so there the second
bound covers the remaining clusters only.
-/

namespace Astronomer.Delivery

open List

/-! ## A rollout to two clusters -/

namespace TwoClusters

open OneCluster

/-- A fleet of two, of which one may be out of service at a time; both can go back to version
`3`. -/
def plan : FrozenRollout :=
  { OneCluster.plan ⟨false, digest⟩ none with
    cohorts := [⟨0, "all", [7, 8], false, "", 0⟩]
    clusters := [⟨7, 0, 0, none, some ⟨version 3, 1⟩⟩, ⟨8, 0, 1, none, some ⟨version 3, 1⟩⟩] }

def cluster (id : UUID) (state : RolloutClusterState) (available everReleased : Bool) :
    ClusterRuntime :=
  { clusterID := id, state, fence := 0, connected := true, available, readySince := some 11
    stateChangedAt := 11, deadline := 0, currentGeneration := 1, everReleased,
    lastAction := .apply }

def input (state : RolloutState) (clusters : List ClusterRuntime) : EvaluateInput :=
  { now := 12, snapshot := ⟨plan, state, 0, clusters⟩, lease := ⟨"w", 0, 42⟩
    initialApproval := none, cohortApprovals := [], maintenance := ⟨true, false, ""⟩ }

def progressing : EvaluateInput :=
  input .progressing [cluster 8 .pending true false, cluster 7 .pending true false]

def rollingBack : EvaluateInput :=
  input .rollingBack [cluster 7 .ready true true, cluster 8 .ready true true]

/-- Cluster `7` was never released and is out of service. -/
def halfReleased : EvaluateInput :=
  input .rollingBack [cluster 7 .pending false false, cluster 8 .ready true true]

end TwoClusters

variable {env : Env} {input : EvaluateInput} {clusters runtime : List ClusterRuntime}
  {plan : FrozenRollout} {d d' : Decision} {planned : PlannedCluster} {now : Time}

/-! ## The runtime in plan order -/

theorem validateRuntime_ids (h : validateRuntime plan runtime = .ok clusters) :
    clusters.map ClusterRuntime.clusterID = plan.clusters.map PlannedCluster.clusterID := by
  simp only [validateRuntime, bind_eq_ok] at h
  obtain ⟨-, -, -, -, hm⟩ := h
  refine mapM_map_eq (fun planned c hc => ?_) hm
  rw [orError_eq_ok] at hc
  simpa using find?_some hc

theorem validateRuntime_perm (hm : plan.Members) (h : validateRuntime plan runtime = .ok clusters) :
    clusters.Perm runtime := by
  have hi := validateRuntime_ids h
  have hnd : clusters.Nodup := .of_map ClusterRuntime.clusterID (hi ▸ hm.nodup)
  simp only [validateRuntime, bind_eq_ok, require_eq_ok, beq_iff_eq] at h
  obtain ⟨-, hl, -, -, hmp⟩ := h
  have hs : clusters ⊆ runtime := by
    intro c hc
    obtain ⟨planned, -, hf⟩ := exists_of_mem_mapM hmp hc
    exact mem_of_find?_eq_some (orError_eq_ok.mp hf)
  have hlen : clusters.length = plan.clusters.length := by simpa using congrArg List.length hi
  exact (subperm_of_subset hnd hs).perm_of_length_le (by omega)

/-- A decision is what `evaluateState` makes of the runtime in plan order, with its entries
sorted. -/
theorem evaluate_eq_ok (hok : evaluate env input = .ok d) :
    ∃ clusters d0, input.snapshot.plan.validate env = .ok () ∧
      validateRuntime input.snapshot.plan input.snapshot.clusters = .ok clusters ∧
      evaluateState env input clusters {
          expectedRolloutFence := input.snapshot.fence
          counters := deriveRolloutCounters (clusters.map ClusterRuntime.state) } = .ok d0 ∧
      d.rolloutTransition = d0.rolloutTransition ∧
      d.clusterTransitions.Perm d0.clusterTransitions ∧ d.releases.Perm d0.releases := by
  simp only [evaluate, bind_eq_ok, pure_eq_ok] at hok
  obtain ⟨-, -, _, hv, -, -, -, -, clusters, hr, d0, hst, rfl⟩ := hok
  exact ⟨clusters, d0, hv, hr, hst, rfl, perm_insertionSort _ _, perm_insertionSort _ _⟩

/-- Runtime rows that the plan's orders index: each at the place of its cluster. -/
structure RuntimePlaced (plan : FrozenRollout) (clusters : List ClusterRuntime) : Prop where
  nodup : (clusters.map ClusterRuntime.clusterID).Nodup
  named : ∀ planned ∈ plan.clusters, ∀ c, clusters[planned.order]? = some c →
    c.clusterID = planned.clusterID

theorem RuntimePlaced.of_validate (hm : plan.Members)
    (h : validateRuntime plan runtime = .ok clusters) :
    RuntimePlaced plan clusters := by
  refine ⟨validateRuntime_ids h ▸ hm.nodup, fun planned hp c hc => ?_⟩
  obtain ⟨c', -, hid, hat⟩ := validateRuntime_at hm h hp
  rw [hc] at hat
  cases hat
  exact hid

def availableRelease (clusters : List ClusterRuntime) (r : Release) : Bool :=
  clusters.any fun c => c.clusterID == r.clusterID && c.available

theorem RuntimePlaced.availableRelease {cluster : ClusterRuntime} {r : Release}
    (h : RuntimePlaced plan clusters) (hp : planned ∈ plan.clusters)
    (hat : clusters[planned.order]? = some cluster) (hr : r.clusterID = planned.clusterID) :
    availableRelease clusters r = cluster.available := by
  have hid := h.named planned hp cluster hat
  have hmem := mem_of_getElem? hat
  rw [Bool.eq_iff_iff, Delivery.availableRelease, any_eq_true]
  constructor
  · rintro ⟨c, hc, hav⟩
    simp only [Bool.and_eq_true, beq_iff_eq] at hav
    rw [← inj_on_of_nodup_map h.nodup hc hmem (by rw [hav.1, hr, hid])]
    exact hav.2
  · intro hav
    exact ⟨cluster, hmem, by simp [hid, hr, hav]⟩

theorem settle_kept
    (hl : clusters.foldlM (settleCluster input.snapshot.plan input.now) d = .ok d') :
    d'.rolloutTransition = d.rolloutTransition ∧ d'.releases = d.releases := by
  refine foldlM_invariant (P := fun s : Decision =>
      s.rolloutTransition = d.rolloutTransition ∧ s.releases = d.releases)
    (fun s s' c _ hi ho => ?_) hl ⟨rfl, rfl⟩
  rcases settleCluster_eq_ok ho with rfl | ⟨_, _, -, ha⟩
  · exact hi
  · rw [addClusterTransition_eq_ok ha]
    exact hi

/-! ## Spending the budgets -/

/-- What a loop that started with `slots` and `room` has spent on the releases of `d`, each of
them from `origin`, when `left` slots and `rest` of the room remain. -/
structure Spending (clusters : List ClusterRuntime) (origin : Release → Prop) (slots room : Int)
    (d : Decision) (left rest : Int) : Prop where
  idle : d.rolloutTransition = none ∧ d.clusterTransitions = []
  concurrency : 0 ≤ left ∧ left + d.releases.length = slots
  availability : rest + d.releases.countP (availableRelease clusters) = room
  spent : (∃ r ∈ d.releases, availableRelease clusters r) → 0 ≤ rest
  from_origin : ∀ r ∈ d.releases, origin r

/-- The releases of `d` fit beside `reserved` clusters in flight and, once one of them takes a
cluster out of service, beside `risk` clusters that may be out already. -/
structure Decision.Within (d : Decision) (clusters : List ClusterRuntime)
    (reserved maxConcurrent risk limit : Nat) : Prop where
  concurrency : reserved + d.releases.length ≤ maxConcurrent
  availability : (∃ r ∈ d.releases, availableRelease clusters r) →
    risk + d.releases.countP (availableRelease clusters) ≤ limit

variable {origin : Release → Prop} {slots room left rest : Int}

theorem Spending.start (hn : d.rolloutTransition = none) (hi : d.Idle) (hsl : ¬ slots ≤ 0) :
    Spending clusters origin slots room d slots room := by
  refine ⟨⟨hn, hi.transitions⟩, ⟨by omega, ?_⟩, ?_, ?_, ?_⟩ <;> simp [hi.releases]

theorem Spending.within {reserved maxConcurrent risk limit : Nat}
    (h : Spending clusters origin (maxConcurrent - reserved) (limit - risk) d left rest) :
    d.Within clusters reserved maxConcurrent risk limit := by
  obtain ⟨-, hcc, ha, hsp, -⟩ := h
  exact ⟨by omega, fun hs => by have := hsp hs; omega⟩

theorem Spending.release {cluster : ClusterRuntime} {r : Release}
    (hpc : RuntimePlaced plan clusters)
    (h : Spending clusters origin slots room d left rest) (hp : planned ∈ plan.clusters)
    (hat : clusters[planned.order]? = some cluster) (hr : r.clusterID = planned.clusterID)
    (ho : origin r) (hlf : left ≠ 0) (hrest : cluster.available → 0 < rest) :
    Spending clusters origin slots room { d with releases := d.releases ++ [r] } (left - 1)
      (if cluster.available then rest - 1 else rest) := by
  obtain ⟨hi, ⟨hps, hsl⟩, hrm, hs, hf⟩ := h
  have hav := hpc.availableRelease hp hat hr
  refine ⟨hi, ⟨by omega, by simp; omega⟩, ?_, ?_,
    forall_mem_append.mpr ⟨hf, by simpa using ho⟩⟩
  · cases hc : cluster.available <;> simp [countP_append, hav, hc] <;> omega
  · rintro ⟨r', hr', hav'⟩
    cases hc : cluster.available with
    | true =>
      have := hrest hc
      simp only [if_true]
      omega
    | false =>
      rcases mem_append.mp hr' with hold | hl
      · exact hs ⟨r', hold, hav'⟩
      · rw [mem_singleton.mp hl, hav, hc] at hav'
        cases hav'

/-! ## Forward -/

/-- A release of a pending and connected member of cohort `index`. -/
def PendingIn (plan : FrozenRollout) (clusters : List ClusterRuntime) (index : Nat) (r : Release) :
    Prop :=
  r.action = .apply ∧ ∃ planned ∈ plan.clusters, planned.cohort = index ∧
    planned.clusterID = r.clusterID ∧
    ∃ c ∈ clusters, c.clusterID = r.clusterID ∧ c.state = .pending ∧ c.connected

theorem releaseCluster_spends {index} {s s' : Slots}
    (hpc : RuntimePlaced input.snapshot.plan clusters)
    (h : Spending clusters (PendingIn input.snapshot.plan clusters index) slots room s.decision
      s.concurrency s.availability) (hp : planned ∈ input.snapshot.plan.clusters)
    (hok : releaseCluster env input clusters index s planned = .ok s') :
    Spending clusters (PendingIn input.snapshot.plan clusters index) slots room s'.decision
      s'.concurrency s'.availability := by
  obtain rfl | rfl | ⟨cluster, release, hat, hpd, hidx, hlf, hr, hn, rfl⟩ :=
    releaseCluster_eq_ok hok
  · exact h
  · exact h
  · obtain ⟨hid, han, -⟩ := newRelease_eq_ok hn
    have hnm := hpc.named planned hp cluster hat
    exact h.release hpc hp hat hid ⟨han, planned, hp, hidx, hid.symm, cluster,
      mem_of_getElem? hat, hnm.trans hid.symm, hpd⟩ hlf hr

/-- No two entries of a decision name one cluster. -/
def Decision.Once (d : Decision) : Prop :=
  (d.clusterTransitions.map ClusterTransition.clusterID ++ d.releases.map Release.clusterID).Nodup

theorem releaseCohort_spends {index} (hm : input.snapshot.plan.Members)
    (hpc : RuntimePlaced input.snapshot.plan clusters) (hn : d.rolloutTransition = none)
    (hi : d.Idle) (hok : releaseCohort env input clusters index d = .ok d') :
    d'.rolloutTransition = none ∧ d'.Once ∧ (d'.releases ≠ [] → d'.Within clusters
        (clusters.countP fun c =>
          consumesConcurrency c input.snapshot.plan.strategy.minReady input.now)
        input.snapshot.plan.strategy.maxConcurrent
        (clusters.countP (atRisk input.snapshot.plan input.now))
        (amountLimit input.snapshot.plan.strategy.maxUnavailable clusters.length) ∧
      ∀ r ∈ d'.releases, PendingIn input.snapshot.plan clusters index r) := by
  simp only [releaseCohort] at hok
  split at hok
  · cases hok
    simp [hn, Decision.Once, hi.releases, hi.transitions]
  next hsl =>
    simp only [bind_eq_ok] at hok
    obtain ⟨s, hl, hok⟩ := hok
    have hs := foldlM_invariant (fun _ _ _ hp hin ho => releaseCluster_spends hpc hin hp ho) hl
      (.start hn hi hsl)
    obtain ⟨new, hnw, hsb⟩ := foldlM_sublist (o := fun s : Slots => s.decision.releases)
      (k := Release.clusterID) (n := PlannedCluster.clusterID) (fun s s' planned ho => by
        obtain rfl | rfl | ⟨_, release, -, -, -, -, -, hnw, rfl⟩ := releaseCluster_eq_ok ho
        · exact .inl rfl
        · exact .inl rfl
        · exact .inr ⟨release, (newRelease_eq_ok hnw).1, rfl⟩) hl
    have hon : s.decision.Once := by
      simpa [Decision.Once, hs.idle.2, hnw, hi.releases] using hsb.nodup hm.nodup
    split at hok <;> cases hok
    · exact ⟨hs.idle.1, hon, fun hrl => absurd (by simp_all) hrl⟩
    · exact ⟨hs.idle.1, hon, fun _ => ⟨hs.within, hs.from_origin⟩⟩

/-- A cluster that does not hold its cohort back any more, since `t`. -/
def ClusterRuntime.Done (c : ClusterRuntime) (plan : FrozenRollout) (now t : Time) : Prop :=
  (c.state = .ready ∧ t = c.readySince.getD 0 + plan.strategy.minReady ∧ t ≤ now) ∨
    ((c.state = .failed ∨ c.state = .timedOut ∨ c.state = .skipped) ∧ t = c.stateChangedAt)

def FrozenRollout.DoneBy (plan : FrozenRollout) (clusters : List ClusterRuntime) (now : Time)
    (planned : PlannedCluster) (bound : Time) : Prop :=
  ∃ c t, clusters[planned.order]? = some c ∧ c.Done plan now t ∧ t ≤ bound

theorem cohortMember_done {index acc acc'}
    (h : cohortMember plan clusters now index acc planned = .ok acc') (hdone : acc'.1) :
    acc.1 ∧ acc.2 ≤ acc'.2 ∧
      (planned.cohort = index → plan.DoneBy clusters now planned acc'.2) := by
  simp only [cohortMember] at h
  split at h
  next hot =>
    cases h
    exact ⟨hdone, le_refl _, fun heq => absurd heq hot⟩
  · simp only [bind_eq_ok] at h
    obtain ⟨c, hat, h⟩ := h
    rw [clusterAt_eq_ok] at hat
    cases hst : c.state <;> simp only [hst] at h
    case ready =>
      cases h
      rw [Bool.and_eq_true, decide_eq_true_eq] at hdone
      exact ⟨hdone.1, le_max_left _ _,
        fun _ => ⟨c, _, hat, .inl ⟨hst, rfl, hdone.2⟩, le_max_right _ _⟩⟩
    case failed | timedOut | skipped =>
      split at h
      · cases h
      · cases h
        exact ⟨hdone, le_max_left _ _,
          fun _ => ⟨c, _, hat, .inr ⟨by simp [hst], rfl⟩, le_max_right _ _⟩⟩
    all_goals
      cases h
      cases hdone

theorem cohort_done {index start progress}
    (h : plan.clusters.foldlM (cohortMember plan clusters now index) start = .ok progress)
    (hdone : progress.1) (hp : planned ∈ plan.clusters) (hidx : planned.cohort = index) :
    plan.DoneBy clusters now planned progress.2 := by
  refine foldlM_forall_mem (P := fun _ => True)
    (Q := fun planned acc => acc.1 = true → planned.cohort = index →
      plan.DoneBy clusters now planned acc.2)
    (fun _ _ _ _ _ _ => trivial) (fun acc acc' planned _ _ ho ha => ?_)
    (fun acc acc' planned other _ hq ho ha heq => ?_) h trivial planned hp hdone hidx
  · exact (cohortMember_done ho ha).2.2
  · obtain ⟨hbf, hle, -⟩ := cohortMember_done ho ha
    obtain ⟨c, t, hat, hc, ht⟩ := hq hbf heq
    exact ⟨c, t, hat, hc, ht.trans hle⟩

/-- Every cohort before the active one is done, the last of them by `previousCompletedAt`. -/
theorem activeCohortFrom_done {rest n previous} {active : ActiveCohort}
    (hidx : ∀ (i : Nat) cohort, plan.cohorts[i]? = some cohort → cohort.index = i)
    (h : activeCohortFrom plan clusters now rest previous = .ok active)
    (hrest : plan.cohorts.drop n = rest) (hle : n ≤ plan.cohorts.length)
    (hdone : ∀ planned ∈ plan.clusters, planned.cohort < n →
      ∃ bound, plan.DoneBy clusters now planned bound ∧ (planned.cohort + 1 = n → bound ≤ previous))
    :
    ∀ planned ∈ plan.clusters, planned.cohort < active.index →
      ∃ bound, plan.DoneBy clusters now planned bound ∧
        (planned.cohort + 1 = active.index → bound ≤ active.previousCompletedAt) := by
  induction rest generalizing n previous with
  | nil =>
    cases h
    rw [Nat.le_antisymm hle (drop_eq_nil_iff.mp hrest)] at hdone
    exact hdone
  | cons cohort rest ih =>
    have hn : plan.cohorts[n]? = some cohort := by
      rw [← head?_drop, hrest]
      rfl
    simp only [activeCohortFrom, hidx n cohort hn, bind_eq_ok] at h
    obtain ⟨progress, hl, h⟩ := h
    split at h
    next hc =>
      refine ih h (n := n + 1) (by rw [← drop_drop, hrest]; rfl)
        (List.getElem?_eq_some_iff.mp hn).1 fun planned hp hlt => ?_
      by_cases heq : planned.cohort = n
      · exact ⟨progress.2, cohort_done hl hc hp heq, fun _ => le_refl _⟩
      · obtain ⟨bound, hb, -⟩ := hdone planned hp (by omega)
        exact ⟨bound, hb, fun hnx => absurd (Nat.succ.inj hnx) heq⟩
    · cases h
      exact hdone

theorem activeCohort_done {active : ActiveCohort} (hv : plan.validate env = .ok ())
    (h : activeCohort plan clusters now = .ok active) :
    ∀ planned ∈ plan.clusters, planned.cohort < active.index →
      ∃ bound, plan.DoneBy clusters now planned bound ∧
        (planned.cohort + 1 = active.index → bound ≤ active.previousCompletedAt) :=
  activeCohortFrom_done (fun _ _ => FrozenRollout.cohort_index_of_validate hv) h
    drop_zero (Nat.zero_le _) fun _ _ hlt => absurd hlt (Nat.not_lt_zero _)

theorem activeCohortFrom_index {rest previous} {active : ActiveCohort}
    (h : activeCohortFrom plan clusters now rest previous = .ok active)
    (ha : active.allComplete) : active.index = plan.cohorts.length := by
  induction rest generalizing previous with
  | nil =>
    cases h
    rfl
  | cons cohort rest ih =>
    simp only [activeCohortFrom, bind_eq_ok] at h
    obtain ⟨progress, -, h⟩ := h
    split at h
    · exact ih h
    · cases h
      cases ha

theorem failed_foldl_count (states : List RolloutClusterState) (c : RolloutCounters) :
    (states.foldl RolloutCounters.count c).failed = c.failed +
      states.countP (fun s => s == .failed || s == .timedOut || s == .rollbackFailed) := by
  induction states generalizing c with
  | nil => simp
  | cons s states ih =>
    rw [foldl_cons, ih, countP_cons]
    cases s <;> simp [RolloutCounters.count] <;> omega

theorem Decision.Within.perm {reserved maxConcurrent risk limit} (hr : d'.releases.Perm d.releases)
    (hc : clusters.Perm runtime) (h : d.Within clusters reserved maxConcurrent risk limit) :
    d'.Within runtime reserved maxConcurrent risk limit := by
  have ha : availableRelease runtime = availableRelease clusters := by
    funext r
    exact (hc.any_eq).symm
  refine ⟨hr.length_eq ▸ h.concurrency, ?_⟩
  rw [ha, hr.countP_eq]
  rintro ⟨r, hmem, hav⟩
  exact h.availability ⟨r, hr.mem_iff.mp hmem, hav⟩

/-- What a decision that releases clusters of `cohort` has seen of the fleet: its releases and
those in flight fit the budgets, the cohorts before are done and soaked, and the gates in front
of this one are open. -/
structure ForwardRelease (input : EvaluateInput) (cohort : Cohort) (d : Decision) : Prop where
  within : d.Within input.snapshot.clusters
    (input.snapshot.clusters.countP fun c =>
      consumesConcurrency c input.snapshot.plan.strategy.minReady input.now)
    input.snapshot.plan.strategy.maxConcurrent
    (input.snapshot.clusters.countP (atRisk input.snapshot.plan input.now))
    (amountLimit input.snapshot.plan.strategy.maxUnavailable input.snapshot.clusters.length)
  distinct : (d.releases.map Release.clusterID).Nodup
  members : ∀ r ∈ d.releases,
    PendingIn input.snapshot.plan input.snapshot.clusters cohort.index r
  earlier : ∀ planned ∈ input.snapshot.plan.clusters, planned.cohort < cohort.index →
    ∃ c ∈ input.snapshot.clusters, c.clusterID = planned.clusterID ∧
      ∃ t, c.Done input.snapshot.plan input.now t ∧
        ∀ previous ∈ input.snapshot.plan.cohorts, previous.index = planned.cohort →
          planned.cohort + 1 = cohort.index → t + previous.soakAfter ≤ input.now
  approved : cohort.approvalRequired → ∃ entry,
    input.cohortApprovals.find? (fun e => e.1 == (cohort.index : Int)) = some entry ∧
      entry.2.validFor cohort.approvalDigest input.now ∧ entry.2.approved
  maintenance : input.snapshot.plan.strategy.respectMaintenanceWindows →
    input.maintenance.allowsRelease
  failed : input.snapshot.clusters.countP
      (fun c => c.state == .failed || c.state == .timedOut || c.state == .rollbackFailed) ≤
    amountLimit input.snapshot.plan.strategy.failureThreshold input.snapshot.clusters.length
  deadline : input.now < input.snapshot.plan.deadline

/-- A progressing rollout that releases does so for its first incomplete cohort: the members
released are pending, those of the cohorts before are all done. -/
theorem evaluate_progressing_within (hok : evaluate env input = .ok d)
    (hstate : input.snapshot.state = .progressing) (hrel : d.releases ≠ []) :
    ∃ cohort ∈ input.snapshot.plan.cohorts, ForwardRelease input cohort d := by
  obtain ⟨clusters, d0, hv, hrn, hok, -, -, hsr⟩ := evaluate_eq_ok hok
  simp only [evaluateState, hstate] at hok
  have hm := FrozenRollout.members_of_validate hv
  have hpm := validateRuntime_perm hm hrn
  have hrel0 : d0.releases ≠ [] := fun hnl => hrel (hnl ▸ hsr).eq_nil
  cases evaluateProgressing_progress rfl hok with
  | settle hl => exact absurd (settle_kept hl).2 hrel0
  | move _ _ hs =>
    rw [setRolloutTransition_eq_ok hs] at hrel0
    exact absurd rfl hrel0
  | wait _ => exact absurd rfl hrel0
  | @release active cohort _ hd hfl ha hch hsk hap hma hok =>
    obtain ⟨-, hon, hsp⟩ := releaseCohort_spends hm (.of_validate hm hrn) rfl ⟨rfl, rfl⟩ hok
    obtain ⟨hw, hpd⟩ := hsp hrel0
    have hidx := FrozenRollout.cohort_index_of_validate hv hch
    have hn : clusters.length = input.snapshot.clusters.length := hpm.length_eq
    refine ⟨cohort, mem_of_getElem? hch, ?_, ?_, ?_, ?_, hap, hma, ?_, hd⟩
    · rw [← hn, ← hpm.countP_eq, ← hpm.countP_eq]
      exact hw.perm hsr hpm
    · exact (hsr.map _).nodup_iff.mpr (List.Nodup.of_append_right hon)
    · intro r hr
      obtain ⟨han, planned, hp, hch, hid, c, hc, hstate⟩ := hpd r (hsr.mem_iff.mp hr)
      exact ⟨han, planned, hp, hch.trans hidx.symm, hid, c, hpm.mem_iff.mp hc, hstate⟩
    · intro planned hp hlt
      rw [hidx] at hlt
      obtain ⟨bound, ⟨c, t, hat, hdone, hle⟩, hpr⟩ := activeCohort_done hv ha planned hp hlt
      have hnm := (RuntimePlaced.of_validate hm hrn).named planned hp c hat
      refine ⟨c, hpm.mem_iff.mp (mem_of_getElem? hat), hnm, t, hdone, ?_⟩
      intro previous hpv heq hnx
      obtain ⟨i, hi⟩ := getElem?_of_mem hpv
      have hb := hpr (hnx.trans hidx)
      have hsk := hsk (by omega)
      rw [show active.index - 1 = i by
        have := FrozenRollout.cohort_index_of_validate hv hi
        omega, hi] at hsk
      exact (Int.add_le_add_right (hle.trans hb) _).trans hsk
    · rw [← hn, ← hpm.countP_eq]
      simpa [deriveRolloutCounters, failed_foldl_count, countP_map, Function.comp_def]
        using hfl

open TwoClusters in
theorem progressing_pair_within : ∃ d, evaluate OneCluster.env progressing = .ok d ∧
    d.releases ≠ [] ∧
    ∃ cohort ∈ TwoClusters.plan.cohorts, ForwardRelease progressing cohort d := by
  obtain ⟨d, hok, hrl⟩ := exists_ok_of_any (x := evaluate OneCluster.env progressing)
    (p := fun d => d.releases != []) (by decide +kernel)
  have hrl : d.releases ≠ [] := by simpa using hrl
  exact ⟨d, hok, hrl, evaluate_progressing_within hok rfl hrl⟩

/-! ## Rollback -/

/-- What the first loop of `evaluateRollback` reserves and counts as out of service: clusters
that were released and are not back yet. -/
def ClusterRuntime.rollsBack (c : ClusterRuntime) : Bool :=
  c.everReleased && c.state == .rollingBack

def ClusterRuntime.rollbackRisk (c : ClusterRuntime) : Bool :=
  c.everReleased && c.state != .readyPrevious && (c.state == .rollingBack || !c.available)

/-- What both loops pass over: a cluster that was never released or is back. -/
def ClusterRuntime.passedOver (c : ClusterRuntime) : Bool :=
  !c.everReleased || c.state == .readyPrevious

theorem rollbackScan_counts {todo : List PlannedCluster} {t t' : RollbackTally}
    (h : rollbackScan plan clusters now todo t = .ok (.tally t')) :
    t'.reserved = t.reserved +
        todo.countP (fun p => (clusters[p.order]?).any ClusterRuntime.rollsBack) ∧
      t'.atRisk = t.atRisk +
        todo.countP (fun p => (clusters[p.order]?).any ClusterRuntime.rollbackRisk) ∧
      ∀ planned ∈ todo, ∃ c, clusters[planned.order]? = some c ∧
        (c.everReleased → planned.previous ≠ none) := by
  induction todo generalizing t with
  | nil =>
    cases h
    simp
  | cons planned rest ih =>
    simp only [rollbackScan, bind_eq_ok] at h
    obtain ⟨c, hat, h⟩ := h
    rw [clusterAt_eq_ok] at hat
    simp only [countP_cons, hat, forall_mem_cons, Option.some.injEq, exists_eq_left',
      Option.any_some, ClusterRuntime.rollsBack, ClusterRuntime.rollbackRisk]
    split at h
    next hn => simpa [hn] using ih h
    next he =>
      split at h
      · cases h
      next hp =>
        have hs : planned.previous ≠ none := by simpa using hp
        split at h
        next hb => simpa [hb, hs] using ih h
        next hb =>
          split at h
          · cases h
          · split at h
            · cases h
            · obtain ⟨hr, hrk, hpv⟩ := ih h
              refine ⟨?_, ?_, fun _ => hs, hpv⟩
              · rw [hr]
                cases hrl : c.state == .rollingBack <;> simp_all
                omega
              · rw [hrk]
                cases hrl : c.state == .rollingBack <;> cases hav : c.available <;>
                  simp_all <;> omega

theorem countP_inPlanOrder (hm : plan.Members) (h : validateRuntime plan runtime = .ok clusters)
    (p : ClusterRuntime → Bool) :
    plan.clusters.countP (fun planned => (clusters[planned.order]?).any p) = clusters.countP p := by
  have hlen : plan.clusters.length = clusters.length := by
    simpa using (congrArg List.length (validateRuntime_ids h)).symm
  have hmp : plan.clusters.map (fun planned => clusters[planned.order]?) = clusters.map some := by
    refine ext_getElem (by simpa using hlen) fun i hi hi' => ?_
    simp only [length_map] at hi hi'
    simp [hm.order i _ (getElem?_eq_getElem hi), getElem?_eq_getElem hi']
  calc plan.clusters.countP (fun planned => (clusters[planned.order]?).any p)
      = (plan.clusters.map fun planned => clusters[planned.order]?).countP (Option.any p) := by
        rw [countP_map]
        rfl
    _ = clusters.countP p := by
        rw [hmp, countP_map]
        rfl

theorem rollbackCluster_spends {limit : Nat} {s s' : RollbackSlots}
    (hpc : RuntimePlaced input.snapshot.plan clusters)
    (hpr : ∀ c, clusters[planned.order]? = some c → c.everReleased → planned.previous ≠ none)
    (h : s.missing = false ∧
      Spending clusters origin slots room s.decision s.slots ((limit : Int) - s.atRisk))
    (ho : ∀ r, origin r)
    (hp : planned ∈ input.snapshot.plan.clusters)
    (hok : rollbackCluster env input clusters limit s planned = .ok s') :
    s'.missing = false ∧
      Spending clusters origin slots room s'.decision s'.slots ((limit : Int) - s'.atRisk) := by
  obtain ⟨hm, hs⟩ := h
  obtain ⟨_, rfl, -⟩ | ⟨c, hat, he, hn, rfl⟩ |
    ⟨c, release, previous, hat, -, -, hsl, hr, hnw, rfl⟩ := rollbackCluster_eq_ok hok
  · exact ⟨hm, hs.idle, hs.concurrency, hs.availability, hs.spent, hs.from_origin⟩
  · exact absurd hn (hpr c hat he)
  · refine ⟨hm, ?_⟩
    have hrl := hs.release hpc hp hat (newRelease_eq_ok hnw).1 (ho _) hsl
      fun hav => by have := hr hav; omega
    cases hav : c.available <;> simp only [hav, if_true, Bool.false_eq_true, if_false] at hrl ⊢
    · exact hrl
    · rwa [Int.sub_sub] at hrl

theorem perm_rollbackOrder : (rollbackOrder plan clusters).Perm plan.clusters := by
  rw [rollbackOrder]
  exact perm_append_comm.trans (filter_append_perm _ _)

/-- The second loop is greedy: it stops at the end of the slots or, among clusters in service,
at the limit. -/
theorem rollbackCluster_greedy {limit : Nat} {s s' : RollbackSlots} {c : ClusterRuntime}
    (hat : clusters[planned.order]? = some c)
    (hpr : c.everReleased → planned.previous ≠ none)
    (hm : s.missing = false)
    (hok : rollbackCluster env input clusters limit s planned = .ok s') :
    s'.missing = false ∧
      if s.slots = 0 ∨ c.startable = false ∨ (c.available = true ∧ limit ≤ s.atRisk) then
        s'.slots = s.slots ∧ s'.atRisk = s.atRisk
      else s'.slots = s.slots - 1 ∧ s'.atRisk = s.atRisk + c.available.toNat := by
  obtain ⟨_, rfl, hstop⟩ | ⟨c', hat', he, hn, rfl⟩ |
    ⟨c', release, previous, hat', ⟨-, hst, -⟩, -, hsl, hr, -, rfl⟩ := rollbackCluster_eq_ok hok
  · simp only [hm, hat, Bool.false_eq_true, false_or, Option.some.injEq, exists_eq_left'] at hstop
    exact ⟨hm, by rw [if_pos hstop]; exact ⟨rfl, rfl⟩⟩
  · cases hat.symm.trans hat'
    exact absurd hn (hpr he)
  · cases hat.symm.trans hat'
    have hgo : ¬ (s.slots = 0 ∨ c.startable = false ∨ c.available ∧ limit ≤ s.atRisk) := by
      simpa [hsl, hst] using hr
    rw [if_neg hgo]
    cases c.available <;> exact ⟨hm, rfl, rfl⟩

theorem rollbackLoop_greedy (available : Bool) {limit : Nat} {todo : List PlannedCluster}
    {s s' : RollbackSlots}
    (hat : ∀ p ∈ todo, ∃ c, clusters[p.order]? = some c ∧ c.available = available ∧
      (c.everReleased → p.previous ≠ none))
    (hm : s.missing = false) (hs : 0 ≤ s.slots)
    (h : todo.foldlM (rollbackCluster env input clusters limit) s = .ok s') :
    let n := todo.countP fun p => (clusters[p.order]?).any ClusterRuntime.startable
    let taken := min (min s.slots.toNat n) (if available then limit - s.atRisk else n)
    s'.missing = false ∧ s'.slots = s.slots - taken ∧
      s'.atRisk = s.atRisk + if available then taken else 0 := by
  induction todo generalizing s with
  | nil =>
    cases h
    simp [hm]
  | cons planned todo ih =>
    obtain ⟨⟨c, hc, hav, hpr⟩, hat⟩ := forall_mem_cons.mp hat
    rw [foldlM_cons] at h
    obtain ⟨s1, h1, h⟩ := bind_eq_ok.mp h
    obtain ⟨hm1, hs1⟩ := rollbackCluster_greedy hc hpr hm h1
    have hih := fun hs' => ih hat hm1 hs' h
    simp only [hav] at hs1
    simp only [countP_cons, hc, Option.any_some]
    split at hs1
    next hstop =>
      rw [hs1.1, hs1.2] at hih
      obtain ⟨hm', hsl, hrk⟩ := hih hs
      refine ⟨hm', ?_⟩
      rw [hsl, hrk]
      rcases hstop with hz | hst | ⟨rfl, hl⟩
      · simp [hz]
      · simp [hst]
      · simp only [if_true]
        omega
    next hgo =>
      simp only [not_or, Bool.not_eq_false, not_and, not_le] at hgo
      obtain ⟨h0, hst, hl⟩ := hgo
      rw [hs1.1, hs1.2] at hih
      obtain ⟨hm', hsl, hrk⟩ := hih (by omega)
      refine ⟨hm', ?_⟩
      rw [hsl, hrk, if_pos hst]
      cases available
      · simp
        omega
      · simp at hl ⊢
        omega

theorem countP_passedOver (p counted : ClusterRuntime → Bool)
    (h : ∀ c, counted c = (p c && !c.passedOver)) (l : List ClusterRuntime) :
    l.countP p = l.countP counted + l.countP fun c => c.passedOver && p c := by
  rw [countP_eq_countP_filter_add l p fun c => !c.passedOver, countP_filter, countP_filter]
  congr 1
  · exact countP_congr fun c _ => by rw [h]
  · exact countP_congr fun c _ => by simp [and_comm]

/-- What a rollback of the plan's clusters releases: first clusters that are out of service, then
clusters in service, as far as both budgets go. -/
def rollbackTaken (slots room sick well : Nat) : Nat × Nat :=
  let first := min slots sick
  (first, min (min (slots - first) well) room)

theorem evaluateRollback_spends (hm : input.snapshot.plan.Members)
    (hpc : RuntimePlaced input.snapshot.plan clusters)
    (hn : d.rolloutTransition = none) (hi : d.Idle)
    (hok : evaluateRollback env input clusters d = .ok d') :
    d'.Idle ∨ d'.rolloutTransition = none ∧ d'.Once ∧
      ∃ t, rollbackScan input.snapshot.plan clusters input.now input.snapshot.plan.clusters {} =
          .ok (.tally t) ∧
        d'.Within clusters t.reserved input.snapshot.plan.strategy.maxConcurrent t.atRisk
          (amountLimit input.snapshot.plan.strategy.maxUnavailable clusters.length) ∧
        let taken := rollbackTaken (input.snapshot.plan.strategy.maxConcurrent - t.reserved)
          (amountLimit input.snapshot.plan.strategy.maxUnavailable clusters.length - t.atRisk)
          (input.snapshot.plan.clusters.countP fun p =>
            (clusters[p.order]?).any fun c => c.startable && !c.available)
          (input.snapshot.plan.clusters.countP fun p =>
            (clusters[p.order]?).any fun c => c.startable && c.available)
        d'.releases.length = taken.1 + taken.2 ∧
          d'.releases.countP (availableRelease clusters) = taken.2 := by
  simp only [evaluateRollback, bind_eq_ok] at hok
  obtain ⟨scan, hsc, hok⟩ := hok
  split at hok
  · exact .inl (hi.of_set hok)
  next t =>
    split at hok
    · exact .inl (hi.of_set hok)
    · split at hok
      · cases hok
        exact .inl ⟨hi.releases, hi.transitions⟩
      next hsl =>
        simp only [bind_eq_ok] at hok
        obtain ⟨s, hl, hok⟩ := hok
        obtain ⟨-, -, hpr⟩ := rollbackScan_counts hsc
        obtain ⟨hms, hs⟩ := foldlM_invariant
          (fun _ _ planned hp hin ho => rollbackCluster_spends hpc
            (fun c hc he => by
              obtain ⟨c', hc', hpv⟩ := hpr planned (mem_rollbackOrder hp)
              cases hc.symm.trans hc'
              exact hpv he) hin (fun _ => trivial)
            (mem_rollbackOrder hp) ho) hl
          ⟨rfl, .start hn hi hsl⟩
        obtain ⟨new, hnw, hsb⟩ := foldlM_sublist (o := fun s : RollbackSlots => s.decision.releases)
            (k := Release.clusterID) (n := PlannedCluster.clusterID) (fun s s' planned ho => by
              obtain ⟨_, rfl, -⟩ | ⟨_, -, -, -, rfl⟩ | ⟨_, release, _, -, -, -, -, -, hnw, rfl⟩ :=
                rollbackCluster_eq_ok ho
              · exact .inl rfl
              · exact .inl rfl
              · exact .inr ⟨release, (newRelease_eq_ok hnw).1, rfl⟩) hl
        have hon : s.decision.Once := by
          simpa [Decision.Once, hs.idle.2, hnw, hi.releases] using
            hsb.nodup ((perm_rollbackOrder.map _).nodup_iff.mpr hm.nodup)
        rw [hms] at hok
        cases hok
        refine .inr ⟨hs.idle.1, hon, t, hsc, hs.within, ?_⟩
        -- the loop over the clusters out of service, then the one over those in service
        rw [rollbackOrder, foldlM_append] at hl
        obtain ⟨s1, hl1, hl2⟩ := bind_eq_ok.mp hl
        have hplace : ∀ (f : Bool → Bool), ∀ p ∈ input.snapshot.plan.clusters.filter
            (fun p => f ((clusters[p.order]?).elim false (·.available))),
            ∃ c, clusters[p.order]? = some c ∧ f c.available ∧
              (c.everReleased → p.previous ≠ none) := by
          intro f p hp
          obtain ⟨hp, hav⟩ := mem_filter.mp hp
          obtain ⟨c, hc, hpv⟩ := hpr p hp
          exact ⟨c, hc, by simpa [hc] using hav, hpv⟩
        have hcount : ∀ f : Bool → Bool, (input.snapshot.plan.clusters.filter fun p =>
            f ((clusters[p.order]?).elim false (·.available))).countP
              (fun p => (clusters[p.order]?).any ClusterRuntime.startable) =
            input.snapshot.plan.clusters.countP fun p =>
              (clusters[p.order]?).any fun c => c.startable && f c.available := by
          intro f
          rw [countP_filter]
          exact countP_congr fun p _ => by cases clusters[p.order]? <;> simp
        obtain ⟨hm1, hs1, hr1⟩ := rollbackLoop_greedy false (fun p hp => by
          simpa using hplace (!·) p hp) rfl (by simp only; omega) hl1
        obtain ⟨-, hs2, hr2⟩ := rollbackLoop_greedy true (hplace fun b => b) hm1
          (by rw [hs1]; simp only; omega) hl2
        have hcc := hs.concurrency
        have hav := hs.availability
        simp only [hcount (!·), hcount fun b => b, if_true, Bool.false_eq_true, if_false,
          Nat.add_zero] at hs1 hr1 hs2 hr2 hcc hav
        rw [hs1, hr1] at hs2 hr2
        simp only [rollbackTaken]
        omega

/-- A rollback that takes a cluster out of service keeps both budgets exactly if the clusters
out of service that it passes over fit into what its own counts and releases leave of them. -/
theorem evaluate_rollingBack_within (hok : evaluate env input = .ok d)
    (hstate : input.snapshot.state = .rollingBack)
    (hrel : ∃ r ∈ d.releases, availableRelease input.snapshot.clusters r) :
    let clusters := input.snapshot.clusters
    let strategy := input.snapshot.plan.strategy
    let limit := amountLimit strategy.maxUnavailable clusters.length
    let reserved := clusters.countP ClusterRuntime.rollsBack
    let risk := clusters.countP ClusterRuntime.rollbackRisk
    let taken := rollbackTaken (strategy.maxConcurrent - reserved) (limit - risk)
      (clusters.countP fun c => c.startable && !c.available)
      (clusters.countP fun c => c.startable && c.available)
    (clusters.countP (fun c => !c.available || c.state == .rollingBack) +
        d.releases.countP (availableRelease clusters) ≤ limit ∧
      clusters.countP (fun c => c.state == .rollingBack) + d.releases.length ≤
        strategy.maxConcurrent) ↔
    clusters.countP (fun c => c.passedOver && (!c.available || c.state == .rollingBack)) ≤
        limit - (risk + taken.2) ∧
      clusters.countP (fun c => c.passedOver && c.state == .rollingBack) ≤
        strategy.maxConcurrent - (reserved + taken.1 + taken.2) := by
  obtain ⟨clusters, d0, hv, hrn, hok, -, -, hs⟩ := evaluate_eq_ok hok
  simp only [evaluateState, hstate] at hok
  have hm := FrozenRollout.members_of_validate hv
  have hp := validateRuntime_perm hm hrn
  rcases evaluateRollback_spends hm (.of_validate hm hrn) rfl ⟨rfl, rfl⟩ hok with
    hi | ⟨-, -, t, hsc, hw, hlen, htk⟩
  · obtain ⟨r, hr, -⟩ := hrel
    rw [hs.mem_iff, hi.releases] at hr
    cases hr
  · obtain ⟨hrs, hrk, -⟩ := rollbackScan_counts hsc
    rw [countP_inPlanOrder hm hrn, hp.countP_eq, Nat.zero_add] at hrs hrk
    simp only [countP_inPlanOrder hm hrn, hp.countP_eq, hp.length_eq] at hlen htk
    obtain ⟨hcc, ha⟩ := hw.perm hs hp
    have hlim := ha hrel
    rw [hp.length_eq] at hlim
    have hav : d.releases.countP (availableRelease input.snapshot.clusters) =
        d0.releases.countP (availableRelease clusters) := by
      rw [hs.countP_eq]
      exact countP_congr fun r _ => by rw [availableRelease, availableRelease, hp.any_eq]
    have hrl := countP_passedOver (fun c => c.state == .rollingBack)
      ClusterRuntime.rollsBack (fun c => by
        unfold ClusterRuntime.rollsBack ClusterRuntime.passedOver
        cases c.everReleased <;> cases c.state <;> rfl) input.snapshot.clusters
    have hri := countP_passedOver (fun c => !c.available || c.state == .rollingBack)
      ClusterRuntime.rollbackRisk (fun c => by
        unfold ClusterRuntime.rollbackRisk ClusterRuntime.passedOver
        cases c.everReleased <;> cases c.available <;> cases c.state <;> rfl)
      input.snapshot.clusters
    simp only [← hrs, ← hrk] at hrl hri ⊢
    rw [hav, htk] at hlim
    rw [hs.length_eq, hlen] at hcc
    rw [hav, htk, hs.length_eq, hlen, hrl, hri]
    omega

open TwoClusters in
theorem rollingBack_pair_within : ∃ d, evaluate OneCluster.env rollingBack = .ok d ∧
    0 + d.releases.countP (availableRelease rollingBack.snapshot.clusters) ≤ 1 ∧
    0 + d.releases.length ≤ 1 := by
  obtain ⟨d, hok, hrl⟩ := exists_ok_of_any (x := evaluate OneCluster.env rollingBack)
    (p := fun d => d.releases.any (availableRelease rollingBack.snapshot.clusters))
    (by decide +kernel)
  exact ⟨d, hok, (evaluate_rollingBack_within hok rfl (by simpa using hrl)).mpr (by decide)⟩

open TwoClusters in
/-- The cluster out of service is passed over: with one allowed, a second one is taken out. -/
theorem halfReleased_exceeds : ∃ d, evaluate OneCluster.env halfReleased = .ok d ∧
    (∃ r ∈ d.releases, availableRelease halfReleased.snapshot.clusters r) ∧
    amountLimit TwoClusters.plan.strategy.maxUnavailable halfReleased.snapshot.clusters.length <
      halfReleased.snapshot.clusters.countP (fun c => !c.available || c.state == .rollingBack) +
        d.releases.countP (availableRelease halfReleased.snapshot.clusters) := by
  obtain ⟨d, hok, hrl⟩ := exists_ok_of_any (x := evaluate OneCluster.env halfReleased)
    (p := fun d => decide ((∃ r ∈ d.releases,
        availableRelease halfReleased.snapshot.clusters r) ∧
      d.releases.countP (availableRelease halfReleased.snapshot.clusters) = 1)) (by decide +kernel)
  obtain ⟨hs, ho⟩ := of_decide_eq_true hrl
  exact ⟨d, hok, hs, by rw [ho]; decide⟩

/-! ## Order and legality -/

theorem find?_perm {id} (hp : clusters.Perm runtime)
    (hnd : (runtime.map ClusterRuntime.clusterID).Nodup) :
    clusters.find? (fun c => c.clusterID == id) = runtime.find? (fun c => c.clusterID == id) := by
  cases hf : runtime.find? (fun c => c.clusterID == id) with
  | none =>
    rw [find?_eq_none] at hf ⊢
    exact fun c hc => hf c (hp.mem_iff.mp hc)
  | some c =>
    have hid : c.clusterID = id := by simpa using find?_some hf
    refine find?_of_nodup_map ((hp.map _).nodup_iff.mpr hnd)
      (hp.mem_iff.mpr (mem_of_find?_eq_some hf)) (by simp [hid]) fun c' hc' => ?_
    rw [hid]
    simpa using hc'

theorem validateRuntime_of_perm {runtime' : List ClusterRuntime} (hp : runtime'.Perm runtime)
    (h : validateRuntime plan runtime = .ok clusters) :
    validateRuntime plan runtime' = .ok clusters := by
  simp only [validateRuntime, bind_eq_ok, require_eq_ok, beq_iff_eq] at h ⊢
  obtain ⟨u, hln, seen, hl, hm⟩ := h
  obtain ⟨hch, hnd, -⟩ := (checkRuntime_loop_isOk _ _).mp ⟨seen, hl⟩
  obtain ⟨seen', hl'⟩ := (checkRuntime_loop_isOk [] runtime').mpr
    ⟨fun c hc => hch c (hp.mem_iff.mp hc), (hp.map _).nodup_iff.mpr hnd, by simp⟩
  refine ⟨u, hp.length_eq.trans hln, seen', hl', ?_⟩
  simpa only [find?_perm hp hnd] using hm

/-- A state change of cluster `id` that the tables have, under the fence of its row. -/
def LegalStep (clusters : List ClusterRuntime) (id : UUID) (fromState toState : RolloutClusterState)
    (fence : Int) : Prop :=
  ∃ c ∈ clusters, c.clusterID = id ∧ fromState = c.state ∧ fence = c.fence ∧
    toState ∈ rolloutClusterTransitions c.state

structure Decision.Legal (d : Decision) (snapshot : RuntimeSnapshot) : Prop where
  transitions : ∀ t ∈ d.clusterTransitions,
    LegalStep snapshot.clusters t.clusterID t.fromState t.toState t.expectedFence
  releases : ∀ r ∈ d.releases,
    LegalStep snapshot.clusters r.clusterID r.fromState r.toState r.expectedFence
  once : d.Once
  moves : ∀ t, d.rolloutTransition = some t →
    t.fromState = snapshot.state ∧ t.expectedFence = snapshot.fence ∧
      t.toState ∈ rolloutTransitions snapshot.state ∧ d.Idle

theorem Settles.legal {toState} {c : ClusterRuntime} (h : Settles plan now c toState) :
    toState ∈ rolloutClusterTransitions c.state := by
  rcases h with ⟨hst, rfl⟩ | ⟨hst, rfl⟩ | ⟨hst, -, rfl⟩
  · simp [hst, rolloutClusterTransitions]
  · simp [hst, rolloutClusterTransitions]
  · cases hc : c.state <;> simp [hc, isApplyActive] at hst <;> simp [rolloutClusterTransitions]

theorem ReleaseFrom.legal {action : AssignmentAction} {startable : ClusterRuntime → Prop}
    {version : PlannedCluster → VersionIdentity → Prop} {r : Release}
    (hpc : RuntimePlaced input.snapshot.plan clusters)
    (hsr : ∀ c, startable c → action.releaseState ∈ rolloutClusterTransitions c.state)
    (h : ReleaseFrom env input clusters action startable version r) :
    LegalStep clusters r.clusterID r.fromState r.toState r.expectedFence := by
  obtain ⟨planned, hp, c, v, hat, hc, -, hn⟩ := h
  obtain ⟨hid, -, -, hf, hto, hfc, -⟩ := newRelease_eq_ok hn
  exact ⟨c, mem_of_getElem? hat, (hpc.named planned hp c hat).trans hid.symm, hf, hfc,
    hto ▸ hsr c hc⟩

theorem Decision.Lawful.legal (hpc : RuntimePlaced input.snapshot.plan clusters)
    (h : d.Lawful env input clusters) :
    (∀ t ∈ d.clusterTransitions,
      LegalStep clusters t.clusterID t.fromState t.toState t.expectedFence) ∧
    (∀ r ∈ d.releases, LegalStep clusters r.clusterID r.fromState r.toState r.expectedFence) ∧
    d.MovesWithin input.snapshot (rolloutTransitions input.snapshot.state) := by
  have hw : ∀ targets, targets ⊆ rolloutTransitions input.snapshot.state →
      d.MovesWithin input.snapshot targets →
      d.MovesWithin input.snapshot (rolloutTransitions input.snapshot.state) :=
    fun _ hsb hm t ht => ⟨(hm t ht).1, (hm t ht).2.1, hsb (hm t ht).2.2⟩
  cases hst : input.snapshot.state <;> simp only [Decision.Lawful, hst] at h hw ⊢
  case progressing =>
    refine ⟨fun t ht => ?_, fun r hr => ?_, hw _ (by decide) h.moves⟩
    · obtain ⟨c, hc, hid, hf, hfc, hs⟩ := h.transitions t ht
      exact ⟨c, hc, hid.symm, hf, hfc, hs.legal⟩
    · exact ReleaseFrom.legal hpc (fun c hc => by simp [hc.1, AssignmentAction.releaseState,
        rolloutClusterTransitions]) (h.releases r hr)
  case rollingBack =>
    refine ⟨by simp [h.transitions], fun r hr => ?_, hw _ (by decide) h.moves⟩
    exact ReleaseFrom.legal hpc (fun c hc => rollingBack_mem_of_canStartRollback hc.2)
      (h.releases r hr)
  -- in the other states a decision is idle
  all_goals refine ⟨by simp [h.1.transitions], by simp [h.1.releases], ?_⟩
  case resolving =>
    refine hw _ ?_ h.2
    split <;> decide
  case awaitingApproval | failed => exact hw _ (by decide) h.2.1
  case queued => exact hw _ (by decide) h.2
  all_goals exact .of_none h.2

theorem evaluateState_once (hm : input.snapshot.plan.Members)
    (hpc : RuntimePlaced input.snapshot.plan clusters)
    (hn : d.rolloutTransition = none) (hi : d.Idle)
    (hok : evaluateState env input clusters d = .ok d') :
    d'.Idle ∨ d'.rolloutTransition = none ∧ d'.Once := by
  have hlw := evaluateState_lawful hn hi hok
  cases hst : input.snapshot.state <;> simp only [Decision.Lawful, evaluateState, hst] at hlw hok
  case progressing =>
    cases evaluateProgressing_progress hi.transitions hok with
    | settle hl =>
      obtain ⟨new, hnw, hsb⟩ := foldlM_sublist (o := Decision.clusterTransitions)
        (k := ClusterTransition.clusterID) (n := ClusterRuntime.clusterID)
        (fun s s' c ho => by
          rcases settleCluster_eq_ok ho with rfl | ⟨_, _, -, ha⟩
          · exact .inl rfl
          · exact .inr ⟨_, rfl, by rw [addClusterTransition_eq_ok ha]⟩) hl
      obtain ⟨hmv, hrl⟩ := settle_kept hl
      rw [hi.transitions, nil_append] at hnw
      rw [hi.releases] at hrl
      refine .inr ⟨hmv.trans hn, ?_⟩
      simpa [Decision.Once, hnw, hrl] using hsb.nodup hpc.nodup
    | move _ _ hs => exact .inl (hi.of_set hs)
    | wait _ => exact .inl ⟨hi.releases, hi.transitions⟩
    | release _ _ _ _ _ _ _ hok =>
      obtain ⟨hn', hon, -⟩ := releaseCohort_spends hm hpc hn hi hok
      exact .inr ⟨hn', hon⟩
  case rollingBack =>
    rcases evaluateRollback_spends hm hpc hn hi hok with hi' | ⟨hn', hon, -⟩
    · exact .inl hi'
    · exact .inr ⟨hn', hon⟩
  case draft => cases hok
  all_goals exact .inl hlw.1

theorem evaluate_legal (hok : evaluate env input = .ok d) : d.Legal input.snapshot := by
  obtain ⟨clusters, d0, hv, hrn, hst, hmo, htr, hrl⟩ := evaluate_eq_ok hok
  have hm := FrozenRollout.members_of_validate hv
  have hpc := RuntimePlaced.of_validate hm hrn
  have hp := validateRuntime_perm hm hrn
  obtain ⟨ht, hr, hmv⟩ := (evaluateState_lawful rfl ⟨rfl, rfl⟩ hst).legal hpc
  have hb : ∀ {id fromState toState fence}, LegalStep clusters id fromState toState fence →
      LegalStep input.snapshot.clusters id fromState toState fence :=
    fun ⟨c, hc, h⟩ => ⟨c, hp.mem_iff.mp hc, h⟩
  have hid : d0.Idle → d.Idle := fun h =>
    ⟨(h.releases ▸ hrl).eq_nil, (h.transitions ▸ htr).eq_nil⟩
  have hon := evaluateState_once hm hpc rfl ⟨rfl, rfl⟩ hst
  refine ⟨fun t h => hb (ht t (htr.mem_iff.mp h)),
    fun r h => hb (hr r (hrl.mem_iff.mp h)), ?_, fun t h => ?_⟩
  · rcases hon with h | ⟨-, h⟩
    · simp [Decision.Once, (hid h).releases, (hid h).transitions]
    · exact ((htr.map _).append (hrl.map _)).nodup_iff.mpr h
  · rw [hmo] at h
    obtain ⟨hf, hfc, hto⟩ := hmv t h
    rcases hon with hi | ⟨hn, -⟩
    · exact ⟨hf, hfc, hto, hid hi⟩
    · rw [hn] at h
      cases h

/-- A decision depends on the snapshot's clusters as a set, and asks for legal changes only. -/
theorem evaluate_perm_and_legal (hok : evaluate env input = .ok d) :
    (∀ runtime, runtime.Perm input.snapshot.clusters →
      evaluate env { input with snapshot := { input.snapshot with clusters := runtime } } =
        .ok d) ∧ d.Legal input.snapshot := by
  refine ⟨fun runtime hpr => ?_, evaluate_legal hok⟩
  simp only [evaluate, bind_eq_ok] at hok ⊢
  obtain ⟨u1, hn, u2, hp, u3, hfc, u4, hl, clusters, hr, hrest⟩ := hok
  exact ⟨u1, hn, u2, hp, u3, hfc, u4, hl, clusters, validateRuntime_of_perm hpr hr, hrest⟩

open TwoClusters in
theorem progressing_pair_legal : ∃ d, evaluate OneCluster.env progressing = .ok d ∧
    evaluate OneCluster.env
      (TwoClusters.input .progressing progressing.snapshot.clusters.reverse) = .ok d ∧
    d.Legal progressing.snapshot := by
  obtain ⟨d, hok, -⟩ := exists_ok_of_any (x := evaluate OneCluster.env progressing)
    (p := fun _ => true) (by decide +kernel)
  have h := evaluate_perm_and_legal hok
  exact ⟨d, hok, h.1 _ (reverse_perm _), h.2⟩

end Astronomer.Delivery
