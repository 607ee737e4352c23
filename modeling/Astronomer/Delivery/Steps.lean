import Astronomer.Delivery.Effects

/-!
# What one event does

Two inversions of `World.step`, one for the tables and one for the workers. Every
invariant of the system is a case analysis over these.
-/

namespace Astronomer.Delivery

open List

variable {env : Env} {senv : StatusEnv} {w : World} {e : Event} {j : Job}

inductive World.Commits (env : Env) (senv : StatusEnv) (w : World) : Event → DB → Prop
  | create {plan : FrozenRollout} {now : Time} {newID : UUID → UUID} {db' : DB} :
      insertRollout env w.db now newID plan = .ok db' →
      World.Commits env senv w (.create plan now newID) db'
  | claim {replica : Nat} {owner : String} {lease : Duration} {id : UUID} {now : Time} {db' : DB}
      {row : RolloutRow} :
      claimDeliveryRollout w.db now owner lease id = some (db', row) →
      World.Commits env senv w (.claim replica owner lease id now) db'
  | apply {i : Nat} {now : Time} {newID : UUID → UUID} {replica : Nat} {owner : String}
      {claimed : RolloutRow} {runtime : LoadedRuntime} {decision : Decision} {decidedAt : Time}
      {db' : DB} :
      w.jobs[i]? = some ⟨replica, owner, claimed, .decided runtime decision decidedAt⟩ →
      applyDecision ⟨owner, claimed, runtime, decision, decidedAt⟩ now newID w.db = .ok db' →
      World.Commits env senv w (.apply i now newID) db'
  | act {clock : Clock} {request : ActionRequest} {db' : DB} :
      act w.db clock request = .ok db' → World.Commits env senv w (.act clock request) db'
  | approve {clock : Clock} {request : ApprovalRequest} {db' : DB} :
      approve w.db clock request = .ok db' → World.Commits env senv w (.approve clock request) db'
  | ingest {clock : Clock} {session : Session} {payload : DeliveryStatus} {db' : DB} :
      ingest senv w.db clock session payload = .ok db' →
      World.Commits env senv w (.ingest clock session payload) db'
  | connection {row : ConnectionRow} :
      World.Commits env senv w (.connection row) (writeConnection w.db row)
  | dropConnection {id : UUID} :
      World.Commits env senv w (.dropConnection id) (dropConnection w.db id)
  | labels {clusterID : UUID} {labels : String} :
      World.Commits env senv w (.labels clusterID labels) (writeLabels w.db clusterID labels)
  | writeDeployment {row : DeploymentRow} :
      World.Commits env senv w (.writeDeployment row) (writeDeploymentRow w.db row)

theorem World.db_load {i now} : (w.load i now).db = w.db := by
  simp only [World.load]
  split
  · split <;> rfl
  · rfl

theorem World.db_evaluate {i now windows} :
    (w.evaluate env i now windows).db = w.db := by
  simp only [World.evaluate]
  split
  · split <;> rfl
  · rfl

theorem World.step_db :
    (w.step env senv e).db = w.db ∨ w.Commits env senv e (w.step env senv e).db := by
  cases e with
  | create plan now newID => exact commitOr_eq_or_ok.imp id .create
  | claim replica owner lease id now =>
    simp only [World.step]
    split
    next h => exact .inr (.claim h)
    · exact .inl rfl
  | load i now => exact .inl World.db_load
  | evaluate i now windows => exact .inl World.db_evaluate
  | apply i now newID =>
    simp only [World.step, World.apply]
    split
    next hj => exact commitOr_eq_or_ok.imp id (.apply hj)
    · exact .inl rfl
  | restart replica => exact .inl rfl
  | act clock request => exact commitOr_eq_or_ok.imp id .act
  | approve clock request => exact commitOr_eq_or_ok.imp id .approve
  | ingest clock session payload => exact commitOr_eq_or_ok.imp id .ingest
  | connection row => exact .inr .connection
  | dropConnection id => exact .inr .dropConnection
  | labels clusterID labels => exact .inr .labels
  | writeDeployment row => exact .inr .writeDeployment

theorem World.step_db_induct {P : DB → Prop} (hold : P w.db)
    (hc : ∀ db', w.Commits env senv e db' → P db') : P (w.step env senv e).db := by
  rcases @World.step_db env senv w e with h | h
  · rw [h]
    exact hold
  · exact hc _ h

/-! ## State and log of a rollout -/

def DB.stateOf (db : DB) (id : UUID) : Option RolloutState := (db.rollout id).map (·.state)

def DB.applyReleases (db : DB) (id : UUID) : List RolloutEventRow :=
  db.rolloutEvents.filter fun e =>
    e.rolloutID == id && e.eventType == .clusterReleased &&
      e.reasonCode == AssignmentAction.apply.text

structure World.Unseen (w : World) (id : UUID) : Prop where
  approvals : ∀ a ∈ w.db.approvals, a.rolloutID ≠ id
  events : ∀ e ∈ w.db.rolloutEvents, e.rolloutID ≠ id
  clusterRows : ∀ rc ∈ w.db.rolloutClusters, rc.rolloutID ≠ id
  jobs : ∀ j ∈ w.jobs, j.claimed.id ≠ id
  caches : ∀ replica, (w.caches replica).entry id = none

theorem OneCluster.unseen {id} : world.Unseen id :=
  ⟨by simp [world], by simp [world], by simp [world], by simp [world], fun _ => rfl⟩

theorem filter_toRow_of_ne {id now newID} {other : FrozenRollout} (hne : other.id ≠ id) :
    (other.clusters.map (PlannedCluster.toRow other now newID)).filter
      (·.rolloutID == id) = [] := by
  refine filter_eq_nil_iff.mpr fun rc hrc => ?_
  obtain ⟨c, -, rfl⟩ := mem_map.mp hrc
  simp [PlannedCluster.toRow, hne]

theorem clustersOf_insertRollout {now newID} {plan : FrozenRollout} {db : DB}
    (hi : insertRollout env w.db now newID plan = .ok db) (hn : w.Unseen plan.id) :
    db.clustersOf plan.id = plan.clusters.map (PlannedCluster.toRow plan now newID) := by
  obtain ⟨-, -, -, -, hr⟩ := insertRollout_eq_ok hi
  obtain ⟨_, _, _, _, _, rfl⟩ := recompute_eq_some hr
  simp only [DB.clustersOf, DB.updateRollouts, filter_append]
  rw [filter_eq_nil_iff.mpr (fun rc hrc => by simp [hn.clusterRows rc hrc]),
    nil_append, filter_eq_self]
  intro rc hrc
  obtain ⟨c, -, rfl⟩ := mem_map.mp hrc
  simp [PlannedCluster.toRow]

section Log

variable {db db' : DB} {x : UUID}

theorem DB.stateOf_eq_core : db.stateOf x = (db.core x).map (·.state) := by
  simp [DB.stateOf, DB.core, Function.comp_def]

theorem DB.applyReleases_append (new : List RolloutEventRow)
    (h : db'.rolloutEvents = db.rolloutEvents ++ new)
    (hnw : ∀ e ∈ new, e.rolloutID = x → e.eventType = .clusterReleased →
      e.reasonCode ≠ AssignmentAction.apply.text) :
    db'.applyReleases x = db.applyReleases x := by
  rw [DB.applyReleases, h, filter_append]
  have hn : new.filter (fun e => e.rolloutID == x && e.eventType == .clusterReleased &&
      e.reasonCode == AssignmentAction.apply.text) = [] := by
    refine filter_eq_nil_iff.mpr fun e he => ?_
    simp only [Bool.and_eq_true, beq_iff_eq, not_and, and_imp]
    exact hnw e he
  rw [hn, append_nil]
  rfl

theorem DB.Frame.applyReleases {P : RolloutEventRow → Prop} (h : DB.Frame P db db')
    (hP : ∀ e, P e → e.rolloutID = x → e.eventType = .clusterReleased →
      e.reasonCode ≠ AssignmentAction.apply.text) :
    db'.applyReleases x = db.applyReleases x := by
  obtain ⟨new, hn, ha⟩ := h.events
  exact DB.applyReleases_append new hn fun e he => hP e (ha e he)

end Log

/-! ## What no event changes -/

def RolloutRow.frozen (r : RolloutRow) : RolloutRow :=
  { r.core with
    state := .draft, fencingGeneration := 0, leaseOwner := "", leaseExpiresAt := none
    lastDecisionDigest := "", startedAt := none, completedAt := none, lastErrorCode := "" }

/-! ## Workers -/

/-- Where a job in the hands of a worker comes from: it was there, or the event is the
claim, the load or the evaluation that made it. -/
inductive World.Hands (env : Env) (w : World) (e : Event) (j : Job) : Prop
  | held : j ∈ w.jobs → World.Hands env w e j
  | claim {lease : Duration} {id : UUID} {now : Time} {db' : DB} :
      e = .claim j.replica j.owner lease id now → j.stage = .claimed →
      claimDeliveryRollout w.db now j.owner lease id = some (db', j.claimed) →
      World.Hands env w e j
  | load {i : Nat} {now : Time} {cache : RuntimeCache} {runtime : LoadedRuntime} :
      e = .load i now → ⟨j.replica, j.owner, j.claimed, .claimed⟩ ∈ w.jobs →
      j.stage = .loaded runtime →
      loadRuntime w.db (w.caches j.replica) j.claimed now = .ok (cache, runtime) →
      World.Hands env w e j
  | evaluate {i : Nat} {now : Time} {windows : String → Except Error Bool}
      {runtime : LoadedRuntime} {decision : Decision} :
      e = .evaluate i now windows →
      ⟨j.replica, j.owner, j.claimed, .loaded runtime⟩ ∈ w.jobs →
      j.stage = .decided runtime decision now →
      evaluateClaimed env j.claimed j.owner runtime.rows
        (listDeliveryRolloutApprovals w.db j.claimed.id) windows now = .ok decision →
      World.Hands env w e j

theorem World.step_jobs (h : j ∈ (w.step env senv e).jobs) : w.Hands env e j := by
  cases e with
  | claim replica owner lease id now =>
    simp only [World.step] at h
    split at h
    next db' row hcm =>
      rcases mem_append.mp h with h | h
      · exact .held h
      · rw [mem_singleton.mp h]
        exact .claim rfl rfl hcm
    · exact .held h
  | load i now =>
    simp only [World.step, World.load] at h
    split at h
    next hj =>
      split at h
      next hl =>
        rcases mem_or_eq_of_mem_set h with h | rfl
        · exact .held h
        · exact .load rfl (mem_of_getElem? hj) rfl hl
      · exact .held (mem_of_mem_eraseIdx h)
    · exact .held h
  | evaluate i now windows =>
    simp only [World.step, World.evaluate] at h
    split at h
    next hj =>
      split at h
      next he =>
        rcases mem_or_eq_of_mem_set h with h | rfl
        · exact .held h
        · exact .evaluate rfl (mem_of_getElem? hj) rfl he
      · exact .held (mem_of_mem_eraseIdx h)
    · exact .held h
  | apply i now newID =>
    simp only [World.step, World.apply] at h
    split at h
    · exact .held (mem_of_mem_eraseIdx h)
    · exact .held h
  | restart replica => exact .held (mem_of_mem_filter h)
  | create _ _ _ | act _ _ | approve _ _ | ingest _ _ _ | connection _ | dropConnection _
  | labels _ _ | writeDeployment _ => exact .held h

end Astronomer.Delivery
