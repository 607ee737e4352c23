import Mathlib.Data.List.Nodup
import Astronomer.Delivery.Strategy

/-!
# Validation of a frozen plan

`FrozenRollout.Validate` walks the cohorts and the cluster rows side by side. What
the scheduler relies on afterwards is in `FrozenRollout.Members`: the row at an
index carries that index as its order, and no cluster occurs twice.
-/

namespace Astronomer.Delivery

open List

variable {env : Env} {plan : FrozenRollout} {pos pos' : Nat × List UUID}

def digestMessage : String :=
  violationsText [⟨"digest", .invalid,
    "must use sha256 followed by 64 lowercase hexadecimal characters"⟩]

def checkDigest (field : String) (d : Digest) : Except Error Unit :=
  require d.valid (fail .invalidInput field digestMessage)

def VersionIdentity.validate (env : Env) (v : VersionIdentity) : Except Error Unit := do
  require (v.bundleVersionID != 0)
    (fail .invalidInput "bundle_version_id" "must be a non-zero UUID")
  checkDigest "spec_digest" v.specDigest
  require (env.sourceValid v.source) (fail .invalidInput "source" "is invalid")
  require (env.overridesValid v.overrides) (fail .invalidInput "overrides" "is invalid")
  match v.renderer with
  | some renderer => do
    require (env.rendererValid renderer) (fail .invalidInput "renderer" "is invalid")
    checkDigest "configuration_digest" v.configurationDigest
  | none =>
    require (v.configurationDigest == "")
      (fail .invalidInput "configuration_digest" "requires a frozen renderer")

def PreviousDeployment.validate (env : Env) (p : PreviousDeployment) : Except Error Unit := do
  require (decide (1 ≤ p.generation))
    (fail .invalidInput "previous.generation" "must be positive")
  p.version.validate env

def approvalDigest (env : Env) (plan : FrozenRollout) (cohort : Int) : Except Error Digest := do
  let clusterIDs ←
    if 0 ≤ cohort then
      match plan.cohorts[cohort.toNat]? with
      | some c =>
        if c.index = cohort.toNat then pure c.clusterIDs
        else throw (fail .invariant "cohort" "approval cohort index is inconsistent")
      | none => throw (fail .invariant "cohort" "approval cohort index is inconsistent")
    else pure []
  let members := plan.clusters.filter fun c => decide (cohort < 0) || c.cohort == cohort
  return env.approvalDigest
    { rolloutID := plan.id, targetID := plan.targetID
      targetGeneration := plan.targetGeneration, placementDigest := plan.placementDigest
      bundleVersionID := plan.desired.bundleVersionID, specDigest := plan.desired.specDigest
      strategyDigest := plan.strategyDigest, actor := plan.actor, cohort, clusterIDs
      configurations := members.map fun c => (c.clusterID, (plan.desiredFor c).specDigest) }

def frozenDigest (env : Env) (plan : FrozenRollout) : Digest :=
  env.planDigest { plan with planDigest := "" }

/-- The frozen versions of one cluster row: its own desired version, which must be of
the plan's bundle version, and the version before the rollout. -/
def PlannedCluster.checkVersions (env : Env) (plan : FrozenRollout) (cluster : PlannedCluster) :
    Except Error Unit := do
  (match cluster.desired with
    | some desired => do
      desired.validate env
      require (desired.bundleVersionID == plan.desired.bundleVersionID)
        (fail .invariant "clusters.desired" "bundle version must match the rollout")
    | none => .ok ())
  (match cluster.previous with
    | some previous => previous.validate env
    | none => .ok ())

def checkMember (env : Env) (plan : FrozenRollout) (index : Nat) (pos : Nat × List UUID)
    (clusterID : UUID) : Except Error (Nat × List UUID) := do
  let cluster ← orError plan.clusters[pos.1]?
    (fail .invariant "clusters" "cohort membership exceeds cluster rows")
  require (cluster.clusterID == clusterID && cluster.cohort == index && cluster.order == pos.1)
    (fail .invariant "clusters" "rows do not match frozen cohort order")
  require (!pos.2.contains clusterID)
    (fail .invariant "clusters" "contains duplicate membership")
  cluster.checkVersions env plan
  return (pos.1 + 1, clusterID :: pos.2)

def checkCohortApproval (env : Env) (plan : FrozenRollout) (cohort : Cohort) (index : Nat) :
    Except Error Unit :=
  if cohort.approvalRequired then
    require (match approvalDigest env plan index with
        | .ok digest => digest == cohort.approvalDigest
        | .error _ => false)
      (fail .invariant "cohort.approval_digest" "does not match frozen cohort")
  else
    require (cohort.approvalDigest == "")
      (fail .invariant "cohort.approval_digest" "must be empty when approval is not required")

def checkCohort (env : Env) (plan : FrozenRollout) (pos : Nat × List UUID)
    (entry : Cohort × Nat) : Except Error (Nat × List UUID) := do
  let (cohort, index) := entry
  require (cohort.index == index && cohort.name != "" && !cohort.clusterIDs.isEmpty &&
      decide (0 ≤ cohort.soakAfter))
    (fail .invariant "cohorts" "indices, names, membership, and soak must be valid")
  checkCohortApproval env plan cohort index
  cohort.clusterIDs.foldlM (checkMember env plan index) pos

/-- `FrozenRollout.Validate`. The five plan digests are checked in map order in the
source; only which of several bad fields is named depends on it. -/
def FrozenRollout.validate (env : Env) (plan : FrozenRollout) : Except Error Unit := do
  require (plan.id != 0 && plan.targetID != 0 && plan.projectID != 0 &&
      plan.targetGeneration != 0)
    (fail .invalidInput "identity" "rollout, target, project, and generation are required")
  plan.desired.validate env
  checkDigest "placement_digest" plan.placementDigest
  checkDigest "strategy_digest" plan.strategyDigest
  checkDigest "request_digest" plan.requestDigest
  checkDigest "approval.digest" plan.approval.digest
  checkDigest "plan_digest" plan.planDigest
  checkViolations (plan.strategy.validate env)
  require (env.strategyDigest plan.strategy == plan.strategyDigest)
    (fail .invariant "strategy_digest" "does not match strategy")
  require (plan.createdAt != 0 && decide (plan.createdAt < plan.deadline) &&
      plan.deadline == plan.createdAt + plan.strategy.progressDeadline)
    (fail .invalidInput "deadline" "must equal creation time plus progress deadline")
  require (!plan.cohorts.isEmpty && !plan.clusters.isEmpty)
    (fail .invalidInput "cohorts" "must not be empty")
  let pos ← plan.cohorts.zipIdx.foldlM (checkCohort env plan) (0, [])
  require (pos.1 == plan.clusters.length)
    (fail .invariant "clusters" "contains rows absent from cohorts")
  let initialDigest ← approvalDigest env plan (-1)
  require (initialDigest == plan.approval.digest)
    (fail .invariant "approval.digest" "does not match frozen rollout")
  require (frozenDigest env plan == plan.planDigest)
    (fail .invariant "plan_digest" ("does not match immutable plan: got " ++ plan.planDigest))

/-! ## What a valid plan guarantees -/

structure FrozenRollout.MembersUpTo (plan : FrozenRollout) (pos : Nat × List UUID) : Prop where
  le : pos.1 ≤ plan.clusters.length
  order : ∀ (i : Nat) (c : PlannedCluster), i < pos.1 → plan.clusters[i]? = some c → c.order = i
  seen : pos.2.reverse = (plan.clusters.take pos.1).map PlannedCluster.clusterID
  nodup : pos.2.Nodup

theorem FrozenRollout.MembersUpTo.zero (plan : FrozenRollout) : plan.MembersUpTo (0, []) :=
  ⟨Nat.zero_le _, fun _ _ h => absurd h (Nat.not_lt_zero _), by simp, nodup_nil⟩

theorem checkMember_membersUpTo {index clusterID} (h : plan.MembersUpTo pos)
    (hok : checkMember env plan index pos clusterID = .ok pos') : plan.MembersUpTo pos' := by
  simp only [checkMember, bind_eq_ok, orError_eq_ok, require_eq_ok, pure_eq_ok,
    Bool.and_eq_true, beq_iff_eq, Bool.not_eq_true', contains_eq_mem,
    decide_eq_false_iff_not] at hok
  obtain ⟨c, hc, -, ⟨⟨hid, -⟩, ho⟩, -, hn, -, -, rfl⟩ := hok
  have hlt : pos.1 < plan.clusters.length := (List.getElem?_eq_some_iff.mp hc).1
  refine ⟨hlt, ?_, ?_, nodup_cons.mpr ⟨hn, h.nodup⟩⟩
  · intro i c' hi hc'
    rcases Nat.lt_succ_iff_lt_or_eq.mp hi with hlt' | rfl
    · exact h.order i c' hlt' hc'
    · rw [hc] at hc'
      cases hc'
      exact ho
  · simp [take_add_one, hc, h.seen, hid]

structure FrozenRollout.Members (plan : FrozenRollout) : Prop where
  order : ∀ (i : Nat) (c : PlannedCluster), plan.clusters[i]? = some c → c.order = i
  nodup : (plan.clusters.map PlannedCluster.clusterID).Nodup

theorem FrozenRollout.members_of_validate
    (h : plan.validate env = .ok ()) : plan.Members := by
  simp only [FrozenRollout.validate, bind_eq_ok, require_eq_ok, beq_iff_eq] at h
  obtain ⟨-, -, -, -, -, -, -, -, -, -, -, -, -, -, -, -, -, -, -, -, -, -, pos, hl, -, hlen, -⟩ :=
    h
  have hup : plan.MembersUpTo pos := by
    refine foldlM_invariant (fun _ _ _ _ hi ho => ?_) hl (.zero plan)
    simp only [checkCohort, bind_eq_ok] at ho
    obtain ⟨-, -, -, -, hl⟩ := ho
    exact foldlM_invariant (fun _ _ _ _ hi ho => checkMember_membersUpTo hi ho) hl hi
  refine ⟨fun i c hc => hup.order i c ?_ hc, ?_⟩
  · rw [hlen]
    exact (List.getElem?_eq_some_iff.mp hc).1
  · have hsn := hup.seen
    rw [hlen, take_length] at hsn
    rw [← hsn]
    exact nodup_reverse.mpr hup.nodup

def FrozenRollout.CohortsUpTo (plan : FrozenRollout) (pos : Nat × List UUID) : Prop :=
  ∀ (i : Nat) (c : PlannedCluster), i < pos.1 → plan.clusters[i]? = some c →
    ∃ cohort ∈ plan.cohorts, cohort.index = c.cohort

theorem checkMember_cohortsUpTo {clusterID} {cohort : Cohort} (h : plan.CohortsUpTo pos)
    (hmem : cohort ∈ plan.cohorts)
    (hok : checkMember env plan cohort.index pos clusterID = .ok pos') :
    plan.CohortsUpTo pos' := by
  simp only [checkMember, bind_eq_ok, orError_eq_ok, require_eq_ok, pure_eq_ok,
    Bool.and_eq_true, beq_iff_eq] at hok
  obtain ⟨c, hc, -, ⟨⟨-, hidx⟩, -⟩, -, -, -, -, rfl⟩ := hok
  intro i c' hi hc'
  rcases Nat.lt_succ_iff_lt_or_eq.mp hi with hlt | rfl
  · exact h i c' hlt hc'
  · rw [hc] at hc'
    cases hc'
    exact ⟨cohort, hmem, hidx.symm⟩

theorem FrozenRollout.cohort_of_validate
    (h : plan.validate env = .ok ()) {planned : PlannedCluster} (hp : planned ∈ plan.clusters) :
    ∃ cohort ∈ plan.cohorts, cohort.index = planned.cohort := by
  simp only [FrozenRollout.validate, bind_eq_ok, require_eq_ok, beq_iff_eq] at h
  obtain ⟨-, -, -, -, -, -, -, -, -, -, -, -, -, -, -, -, -, -, -, -, -, -, pos, hl, -, hlen, -⟩ :=
    h
  have hup : plan.CohortsUpTo pos := by
    refine foldlM_invariant (fun pos pos' entry hen hin ho => ?_) hl
      fun i _ hi => absurd hi (Nat.not_lt_zero i)
    simp only [checkCohort, bind_eq_ok, require_eq_ok, Bool.and_eq_true, beq_iff_eq] at ho
    obtain ⟨-, ⟨⟨⟨hidx, -⟩, -⟩, -⟩, -, -, hmem⟩ := ho
    rw [← hidx] at hmem
    exact foldlM_invariant (fun _ _ _ _ hin ho =>
      checkMember_cohortsUpTo hin (fst_mem_of_mem_zipIdx hen) ho) hmem hin
  obtain ⟨i, hi⟩ := getElem?_of_mem hp
  exact hup i planned (by rw [hlen]; exact (List.getElem?_eq_some_iff.mp hi).1) hi

theorem FrozenRollout.cohort_index_of_validate (h : plan.validate env = .ok ()) {i}
    {cohort : Cohort} (hc : plan.cohorts[i]? = some cohort) : cohort.index = i := by
  simp only [FrozenRollout.validate, bind_eq_ok, require_eq_ok, beq_iff_eq] at h
  obtain ⟨-, -, -, -, -, -, -, -, -, -, -, -, -, -, -, -, -, -, -, -, -, -, pos, hl, -⟩ := h
  refine foldlM_forall_mem (P := fun _ => True)
    (Q := fun (entry : Cohort × Nat) _ => entry.1.index = entry.2)
    (fun _ _ _ _ _ _ => trivial) (fun _ _ entry _ _ ho => ?_) (fun _ _ _ _ _ hq _ => hq)
    hl trivial (cohort, i) (mem_zipIdx_iff_getElem?.mpr hc)
  simp only [checkCohort, bind_eq_ok, require_eq_ok, Bool.and_eq_true, beq_iff_eq] at ho
  obtain ⟨-, ⟨⟨⟨hidx, -⟩, -⟩, -⟩, -⟩ := ho
  exact hidx

end Astronomer.Delivery
