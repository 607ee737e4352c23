import Astronomer.Delivery.CacheCoherence
import Astronomer.Delivery.EventEffects
import Astronomer.Delivery.Schedulable

/-!
# Reachable runtimes

Each query that moves the cluster rows of a rollout leaves a row the scheduler can work with:
a ready row has its time, a released one can be rolled back or is on its way. So the
scheduler decides on every runtime the system can reach.
-/

namespace Astronomer.Delivery

open List

variable {newID : UUID → UUID} {limit : Nat}

/-! ## One row -/

structure RolloutClusterRow.Sane (rc : RolloutClusterRow) : Prop where
  fence : 0 ≤ rc.fence
  stamped : rc.updatedAt ≠ 0
  readyAt : ∀ t, rc.readyAt = some t → t ≠ 0
  ready : rc.state = .ready → rc.readyAt.isSome
  released : rc.releasedAt.isSome →
    canStartRollback rc.state ∨ rc.state = .rollingBack ∨ rc.state = .readyPrevious

namespace RolloutClusterRow

variable {rc : RolloutClusterRow} {now : Time}

theorem Sane.exists_readyAt (h : rc.Sane) (hst : rc.state = .ready) :
    ∃ t, rc.readyAt = some t ∧ t ≠ 0 := by
  obtain ⟨t, ht⟩ := Option.isSome_iff_exists.mp (h.ready hst)
  exact ⟨t, ht, h.readyAt t ht⟩

theorem Sane.startable (h : rc.Sane) (hr : rc.releasedAt.isSome)
    (hp : rc.state ≠ .readyPrevious) (hb : rc.state ≠ .rollingBack) :
    canStartRollback rc.state := by
  rcases h.released hr with hc | hst | hst
  · exact hc
  · exact absurd hst hb
  · exact absurd hst hp

theorem Sane.settle {toState code} (h : rc.Sane) (hn : now ≠ 0)
    (hs : rc.state = .pending ∧ toState = .blocked ∨ rc.state = .blocked ∧ toState = .pending ∨
      isApplyActive rc.state ∧ toState = .timedOut) :
    Sane { rc.settle now toState code with updatedAt := now } := by
  have hk : (rc.settle now toState code).readyAt = rc.readyAt := by
    rcases hs with ⟨-, rfl⟩ | ⟨-, rfl⟩ | ⟨-, rfl⟩ <;> rfl
  refine ⟨Int.add_nonneg h.fence (by decide), hn, fun t ht => h.readyAt t (hk ▸ ht), ?_, ?_⟩
  · intro hst
    have hto : toState = .ready := hst
    rcases hs with ⟨-, rfl⟩ | ⟨-, rfl⟩ | ⟨-, rfl⟩ <;> cases hto
  · intro hr
    have hw := h.released hr
    show canStartRollback toState = true ∨ toState = .rollingBack ∨ toState = .readyPrevious
    rcases hs with ⟨hst, -⟩ | ⟨hst, -⟩ | ⟨-, rfl⟩
    · simp [hst, canStartRollback] at hw
    · simp [hst, canStartRollback] at hw
    · exact .inl rfl

theorem Sane.release {deadline} {action : AssignmentAction} (h : rc.Sane) (hn : now ≠ 0) :
    Sane { rc.release now action.releaseState action deadline with updatedAt := now } := by
  refine ⟨Int.add_nonneg h.fence (by decide), hn, h.readyAt, ?_, ?_⟩
  · intro hst
    have hto : action.releaseState = .ready := hst
    cases action <;> cases hto
  · intro _
    show canStartRollback action.releaseState = true ∨ action.releaseState = .rollingBack ∨ _
    cases action
    · exact .inl rfl
    · exact .inr (.inl rfl)

theorem Sane.advance {phase code} (h : rc.Sane) (hn : now ≠ 0) :
    Sane { rc.advance now phase code with updatedAt := now } := by
  have hor : ∀ t, (rc.readyAt <|> some now) = some t → t ≠ 0 := by
    intro t ht
    cases hr : rc.readyAt with
    | none =>
      rw [hr] at ht
      exact Option.some.inj ht ▸ hn
    | some t0 =>
      rw [hr] at ht
      exact Option.some.inj ht ▸ h.readyAt t0 hr
  refine ⟨Int.add_nonneg h.fence (by decide), hn, ?_, ?_, ?_⟩
  · cases phase <;> first | exact h.readyAt | exact hor | exact fun _ ht => by cases ht
  · intro hst
    have hto : advancedState phase rc.assignmentAction = .ready := hst
    have hph : phase = .ready := by
      cases phase <;> cases hac : rc.assignmentAction <;> rw [hac] at hto <;>
        first | rfl | cases hto
    subst hph
    show (rc.readyAt <|> some now).isSome
    cases rc.readyAt <;> rfl
  · intro _
    show canStartRollback (advancedState phase rc.assignmentAction) = true ∨
      advancedState phase rc.assignmentAction = .rollingBack ∨
      advancedState phase rc.assignmentAction = .readyPrevious
    cases phase <;> cases rc.assignmentAction <;> decide

theorem Sane.reset (h : rc.Sane) (hn : now ≠ 0) : Sane { rc.reset with updatedAt := now } where
  fence := Int.add_nonneg h.fence (by decide)
  stamped := hn
  readyAt _ ht := by cases ht
  ready hst := by cases hst
  released hr := by cases hr

end RolloutClusterRow

/-! ## The rows of a rollout -/

def DB.RowsSane (db : DB) (id : UUID) : Prop := ∀ rc ∈ db.clustersOf id, rc.Sane

section Rows

variable {db db' : DB} {id : UUID} {now : Time} {w : Work}

section

variable (h : db.RowsSane id)

include h

theorem DB.RowsSane.of_eq (hrs : db'.rolloutClusters = db.rolloutClusters) :
    db'.RowsSane id := by
  intro rc hrc
  rw [DB.clustersOf, hrs] at hrc
  exact h rc hrc

theorem DB.RowsSane.updateClusterRows {p f} (hid : ∀ rc, (f rc).rolloutID = rc.rolloutID)
    (hf : ∀ rc, rc.Sane → p rc → RolloutClusterRow.Sane { f rc with updatedAt := now }) :
    (db.updateClusterRows now p f).RowsSane id := by
  intro rc' hrc'
  obtain ⟨rc, hrc, rfl⟩ := mem_clustersOf_updateClusterRows hid hrc'
  split
  next hp => exact hf rc (h rc hrc) hp
  · exact h rc hrc

theorem DB.RowsSane.applyDecision {env input clusters}
    (hl : w.decision.Lawful env input clusters) (hn : now ≠ 0)
    (hok : Delivery.applyDecision w now newID db = .ok db') : db'.RowsSane id := by
  refine applyDecision_keeps (P := fun s : DB => s.RowsSane id) (fun s s' t ht hs ho => ?_)
    (fun s s' r hr hs ho => ?_) (fun _ _ _ _ hs => hs.of_eq rfl) (fun _ _ _ hs => hs.of_eq rfl)
    h hok
  · obtain ⟨_, _, _, -, -, rfl, -⟩ := applyClusterTransition_eq_ok ho
    refine hs.updateClusterRows (by intro; rfl) fun rc hrc hc => hrc.settle hn ?_
    -- the compare-and-set found the row in the state the transition starts from
    simp only [DB.clusterCAS, Bool.and_eq_true, beq_iff_eq] at hc
    rw [hc.1.1.2]
    exact hl.settles ht
  · obtain ⟨_, _, deployed, _, _, _, -, -, -, hup, -, rfl, -⟩ := applyRelease_eq_ok ho
    have hd : deployed.RowsSane id := hs.of_eq (upsert_clusterRows hup).1
    refine hd.updateClusterRows (by intro; rfl) fun rc hrc _ => ?_
    rw [(hl.release hr).1]
    exact hrc.release hn

theorem DB.RowsSane.ingest {senv session payload} {clock : Clock}
    (hn : clock.dbNow ≠ 0) (hok : Delivery.ingest senv db clock session payload = .ok db') :
    db'.RowsSane id := by
  refine ingest_keeps (P := fun s : DB => s.RowsSane id) (fun _ _ hs => hs.of_eq rfl)
    (fun _ _ hs => hs.of_eq rfl) (fun _ _ _ _ _ _ hs hu => ?_) (fun s updated hs => ?_) h hok
  · obtain ⟨_, -, -, rfl⟩ := DB.updateDeployment_eq_some.mp hu
    exact hs.of_eq rfl
  · rcases @advanceFromStatus_eq s clock updated with heq | ⟨_, _, _, _, -, -, -, heq, -⟩ <;>
      rw [heq]
    · exact hs
    · exact hs.updateClusterRows (by intro; rfl) fun rc hrc _ => hrc.advance hn

theorem DB.RowsSane.act {request} {clock : Clock} (hn : clock.dbNow ≠ 0)
    (hok : Delivery.act db clock request = .ok db') : db'.RowsSane id := by
  obtain ⟨_, _, -, -, -, -, rfl, -⟩ := act_eq_ok hok
  have hrs : (resetTables db clock.dbNow request.action request.rolloutID).RowsSane id := by
    simp only [resetTables]
    split
    · exact h.updateClusterRows (by intro; rfl) fun rc hrc _ => hrc.reset hn
    · exact h
  exact hrs.of_eq rfl

theorem DB.RowsSane.approve {clock request}
    (hok : Delivery.approve db clock request = .ok db') : db'.RowsSane id := by
  obtain ⟨_, _, -, -, -, rfl, -⟩ := approve_eq_ok hok
  refine h.of_eq ?_
  simp only [approvalTables]
  split <;> rfl

theorem DB.RowsSane.writeDeploymentRow {row} :
    (Delivery.writeDeploymentRow db row).RowsSane id := by
  simp only [Delivery.writeDeploymentRow]
  split
  · split
    · exact h.of_eq rfl
    · exact h
  · split
    next hu =>
      obtain ⟨_, -, -, rfl⟩ := DB.updateDeployment_eq_some.mp hu
      exact h.of_eq rfl
    · exact h

end

end Rows

/-! ## The clusters of a rollout -/

/-- The plan's clusters are there, under ids the database drew: the foreign key of the cluster
rows asks for them and restricts their deletion. -/
def DB.Hosts (db : DB) (plan : FrozenRollout) : Prop :=
  ∀ c ∈ plan.clusters, c.clusterID ≠ 0 ∧ (db.clusters.find? (·.id == c.clusterID)).isSome
deriving Decidable

theorem DB.Hosts.write {plan} {db db' : DB} (h : DB.Write db db') (hh : db.Hosts plan) :
    db'.Hosts plan := by
  cases h with
  | rollouts | clusterRows | create | log | insertDeployment => exact hh
  | updateDeployment _ hu =>
    obtain ⟨_, -, -, rfl⟩ := DB.updateDeployment_eq_some.mp hu
    exact hh
  | connection =>
    simp only [writeConnection]
    split <;> exact hh
  | dropConnection =>
    simp only [Delivery.dropConnection]
    split <;> exact hh
  | labels =>
    simp only [writeLabels]
    split
    · exact hh
    · split
      · exact hh
      · intro c hc
        refine ⟨(hh c hc).1, ?_⟩
        show ((updateWhere _ _ db.clusters).find? _).isSome
        rw [find?_updateWhere (by intro; rfl), Option.isSome_map]
        exact (hh c hc).2

structure Roster (plan : FrozenRollout) (db : DB) : Prop where
  isSome : (db.rollout plan.id).isSome
  members : (db.clustersOf plan.id).map RolloutClusterRow.clusterID =
    plan.clusters.map PlannedCluster.clusterID
  hosts : db.Hosts plan

theorem Roster.write {plan db db'} (h : DB.Write db db') (hr : Roster plan db) :
    Roster plan db' := by
  have hky := congrArg (List.map Prod.snd) (h.clusterKeys hr.isSome)
  simp only [DB.clusterKeys, map_map] at hky
  exact ⟨h.isSome hr.isSome, hky.trans hr.members, hr.hosts.write h⟩

theorem Roster.runtime_members {db} {plan : FrozenRollout} (h : Roster plan db)
    (hlm : plan.clusters.length ≤ limit) :
    ((listDeliveryRolloutRuntime db plan.id limit).map (·.row.clusterID)).Perm
      (plan.clusters.map PlannedCluster.clusterID) := by
  obtain ⟨r, hr⟩ := Option.isSome_iff_exists.mp h.isSome
  have ha : ∀ rc ∈ db.clustersOf plan.id, ∃ row, runtimeRow db r rc = some row ∧
      row.row.clusterID = rc.clusterID := by
    intro rc hrc
    have hmem : rc.clusterID ∈ plan.clusters.map PlannedCluster.clusterID :=
      h.members ▸ mem_map_of_mem hrc
    obtain ⟨c, hc, hid⟩ := mem_map.mp hmem
    obtain ⟨cluster, hcl⟩ := Option.isSome_iff_exists.mp (h.hosts c hc).2
    rw [hid] at hcl
    exact ⟨_, by rw [runtimeRow, hcl, Option.map_some], rfl⟩
  have hi : ((db.clustersOf plan.id).filterMap (runtimeRow db r)).map (·.row.clusterID) =
      plan.clusters.map PlannedCluster.clusterID := by
    rw [← h.members]
    clear hlm
    generalize db.clustersOf plan.id = rows at ha
    induction rows with
    | nil => rfl
    | cons rc rows ih =>
      obtain ⟨row, hrw, hid⟩ := ha rc mem_cons_self
      rw [filterMap_cons_some hrw, map_cons, map_cons, hid,
        ih fun rc' hrc' => ha rc' (mem_cons_of_mem _ hrc')]
  have hs := (perm_insertionSort runtimeOrder
    ((db.clustersOf plan.id).filterMap (runtimeRow db r))).map (·.row.clusterID)
  rw [hi] at hs
  have hl := hs.length_eq
  rw [length_map, length_map] at hl
  rw [listDeliveryRolloutRuntime, hr]
  simp only
  rw [take_of_length_le (hl.trans_le hlm)]
  exact hs

/-! ## The system -/

def Event.Clocked : Event → Prop
  | .create _ dbNow _ | .apply _ dbNow _ => dbNow ≠ 0
  | .act clock _ | .ingest clock _ _ => clock.dbNow ≠ 0
  | _ => True

instance (e : Event) : Decidable e.Clocked := by
  apply @Event.casesOn (fun e => Decidable e.Clocked) e <;> intros <;>
    dsimp only [Event.Clocked] <;> infer_instance

def RolloutRow.Live (r : RolloutRow) : Prop := r.state ≠ .draft ∧ 0 ≤ r.fencingGeneration

structure World.Deciding (env : Env) (plan : FrozenRollout) (w : World) : Prop where
  staffed : w.Staffed env plan
  integrity : w.Integrity
  roster : Roster plan w.db
  rows : w.db.RowsSane plan.id
  live : ∃ r, w.db.core plan.id = some r ∧ r.Live

section System

variable {env : Env} {senv : StatusEnv} {plan : FrozenRollout} {w : World} {e : Event} {db db' : DB}

theorem Decision.Lawful.toState_ne_draft {input clusters} {d : Decision} {t : RolloutTransition}
    (h : d.Lawful env input clusters) (ht : d.rolloutTransition = some t) : t.toState ≠ .draft := by
  have hm : ∃ targets : List RolloutState, t.toState ∈ targets ∧ .draft ∉ targets := by
    cases hst : input.snapshot.state <;> simp only [Decision.Lawful, hst] at h
    case resolving => exact ⟨_, (h.2 t ht).2.2, by split <;> simp⟩
    case awaitingApproval => exact ⟨_, (h.2.1 t ht).2.2, by simp⟩
    case queued => exact ⟨_, (h.2 t ht).2.2, by simp⟩
    case progressing => exact ⟨_, (h.moves t ht).2.2, by simp⟩
    case failed => exact ⟨_, (h.2.1 t ht).2.2, by simp⟩
    case rollingBack => exact ⟨_, (h.moves t ht).2.2, by simp⟩
    all_goals
      rw [h.2] at ht
      cases ht
  obtain ⟨targets, hmem, hnot⟩ := hm
  exact fun heq => hnot (heq ▸ hmem)

theorem actionTransition_ne_draft {action} : (actionTransition action).2 ≠ .draft := by
  cases action <;> decide

theorem World.Commits.live (h : w.Commits env senv e db') (hw : w.Deciding env plan) :
    ∃ r, db'.core plan.id = some r ∧ r.Live := by
  obtain ⟨r, hr, hl⟩ := hw.live
  have hb : 0 ≤ r.fencingGeneration + 1 := Int.add_nonneg hl.2 (by decide)
  cases h with
  | @create other _ _ _ h =>
    obtain ⟨-, hn, -⟩ := insertRollout_eq_ok h
    have hne : plan.id ≠ other.id := fun heq => by
      rw [← heq] at hn
      rw [DB.core, hn] at hr
      cases hr
    exact ⟨r, by rw [insertRollout_core h, if_neg hne, hr], hl⟩
  | claim h =>
    rw [claimDeliveryRollout_core h, hr]
    split
    · exact ⟨_, rfl, hl.1, hb⟩
    · exact ⟨_, rfl, hl⟩
  | apply hj h =>
    rw [applyDecision_core h, hr]
    split
    next hid =>
      obtain ⟨hp, hd⟩ := hw.staffed.jobs _ (mem_of_getElem? hj) hid.symm
      obtain ⟨approvals, windows, -, he⟩ := hd _ _ _ rfl
      obtain ⟨_, _, -, -, -, -, -, hlw⟩ := evaluateClaimed_lawful hp he
      refine ⟨_, rfl, ?_⟩
      split
      next t ht => exact ⟨hlw.toState_ne_draft ht, hl.2⟩
      · exact hl
    · exact ⟨_, rfl, hl⟩
  | act h =>
    rw [act_core h, hr]
    split
    · exact ⟨_, rfl, actionTransition_ne_draft, hb⟩
    · exact ⟨_, rfl, hl⟩
  | @approve _ request _ h =>
    rw [approve_core h, hr]
    split
    · refine ⟨_, rfl, ?_, hb⟩
      show request.decision.toState ≠ .draft
      cases request.decision <;> decide
    · exact ⟨_, rfl, hl⟩
  | ingest h => exact ⟨r, ((ingest_frame h).core _).trans hr, hl⟩
  | connection => exact ⟨r, (writeConnection_around.core _).trans hr, hl⟩
  | dropConnection => exact ⟨r, (dropConnection_around.core _).trans hr, hl⟩
  | labels => exact ⟨r, (writeLabels_around.core _).trans hr, hl⟩
  | writeDeployment => exact ⟨r, ((writeDeploymentRow_frame (P := StatusLog)).core _).trans hr, hl⟩

theorem World.Commits.rowsSane (h : w.Commits env senv e db') (hw : w.Deciding env plan)
    (he : e.Clocked) : db'.RowsSane plan.id := by
  cases h with
  | create h =>
    intro rc hrc
    rw [(insertRollout_tables hw.staffed.isSome h).1] at hrc
    exact hw.rows rc hrc
  | claim h =>
    obtain ⟨_, -, -, -, -, rfl⟩ := claimDeliveryRollout_eq_some h
    exact hw.rows.of_eq rfl
  | @apply _ _ _ _ _ claimed _ _ _ _ hj h =>
    have hmem := mem_of_getElem? hj
    by_cases hid : claimed.id = plan.id
    · obtain ⟨hp, hd⟩ := hw.staffed.jobs _ hmem hid
      obtain ⟨approvals, windows, -, hev⟩ := hd _ _ _ rfl
      obtain ⟨_, _, -, -, -, -, -, hl⟩ := evaluateClaimed_lawful hp hev
      exact hw.rows.applyDecision hl he h
    · -- the decision of another rollout writes rows of its own
      have hc := fun hh => applyDecision_effect hh hw.integrity.keys h
      obtain ⟨hp, -, hef⟩ := hc ((hw.integrity.jobs _ hmem).rows _ rfl)
      intro rc hrc
      obtain ⟨rc0, hrc0, -, rfl | ⟨hot, -⟩⟩ := hef.rows _ rc hrc
      · exact hw.rows rc hrc0
      · exact absurd (hot.trans hp).symm hid
  | act h => exact hw.rows.act he h
  | approve h => exact hw.rows.approve h
  | ingest h => exact hw.rows.ingest he h
  | connection => exact hw.rows.of_eq writeConnection_around.clusterRows
  | dropConnection => exact hw.rows.of_eq dropConnection_around.clusterRows
  | labels => exact hw.rows.of_eq writeLabels_around.clusterRows
  | writeDeployment => exact hw.rows.writeDeploymentRow

theorem World.Deciding.step (h : w.Deciding env plan) (he : e.Clocked) :
    (w.step env senv e).Deciding env plan where
  staffed := h.staffed.step
  integrity := h.integrity.step
  roster := World.step_writes.keeps (fun _ _ hw hr => hr.write hw) h.roster
  rows := World.step_db_induct (P := fun db => db.RowsSane plan.id) h.rows fun _ hc =>
    hc.rowsSane h he
  live := World.step_db_induct (P := fun db => ∃ r, db.core plan.id = some r ∧ r.Live) h.live
    fun _ hc => hc.live h

theorem World.Deciding.of_insert (senv : StatusEnv) {now}
    (hi : insertRollout env w.db now newID plan = .ok db) (hn : w.Unseen plan.id)
    (hw : w.Integrity) (hh : w.db.Hosts plan) (hnw : now ≠ 0) :
    World.Deciding env plan { w with db } := by
  have hrs := clustersOf_insertRollout hi hn
  have hc : db.clusters = w.db.clusters := by
    obtain ⟨-, -, -, -, hr⟩ := insertRollout_eq_ok hi
    obtain ⟨_, _, _, _, _, rfl⟩ := recompute_eq_some hr
    rfl
  have hs : World.Staffed env plan { w with db } := .of_insert hi hn.jobs
  refine ⟨hs, ?_, ⟨hs.isSome, ?_, ?_⟩, fun rc hrc => ?_,
    plan.toRow.core, by simp [insertRollout_core hi], nofun, Int.one_nonneg⟩
  · rw [← @World.step_create env senv w plan db now newID hi]
    exact hw.step
  · rw [hrs, map_map]
    rfl
  · rw [DB.Hosts, hc]
    exact hh
  · have hmem : rc ∈ db.clustersOf plan.id := hrc
    rw [hrs] at hmem
    obtain ⟨c, -, rfl⟩ := mem_map.mp hmem
    exact ⟨le_refl 0, hnw, nofun, nofun, nofun⟩

theorem World.Deciding.mem_runtime {row : RuntimeRow} (h : w.Deciding env plan)
    (hr : row ∈ listDeliveryRolloutRuntime w.db plan.id limit) :
    row.row.Sane ∧ row.row.clusterID ≠ 0 := by
  obtain ⟨_, -, -, hmem⟩ := mem_listDeliveryRolloutRuntime hr
  have hpl : row.row.clusterID ∈ plan.clusters.map PlannedCluster.clusterID :=
    h.roster.members ▸ mem_map_of_mem hmem
  obtain ⟨c, hc, hid⟩ := mem_map.mp hpl
  exact ⟨h.rows _ hmem, hid ▸ (h.roster.hosts c hc).1⟩

theorem World.Deciding.sane {r} (h : w.Deciding env plan) (hr : w.db.rollout plan.id = some r)
    (hlm : plan.clusters.length ≤ limit)
    (hg : ∀ c ∈ (runtimeFromRows plan r (listDeliveryRolloutRuntime w.db plan.id limit)).clusters,
      0 ≤ c.currentGeneration ∧ c.currentGeneration < maxInt64) :
    (runtimeFromRows plan r (listDeliveryRolloutRuntime w.db plan.id limit)).Sane := by
  obtain ⟨core, hcr, hl⟩ := h.live
  rw [← DB.core_inj hr hcr] at hl
  refine ⟨hl.1, hl.2, ?_, fun c hc => ?_⟩
  · have hmem := h.roster.runtime_members hlm
    show ((List.map RuntimeRow.toRuntime _).map _).Perm _
    rw [map_map]
    exact hmem
  · obtain ⟨row, hrw, rfl⟩ := mem_map.mp hc
    obtain ⟨hs, hnm⟩ := h.mem_runtime hrw
    refine ⟨hnm, hs.fence, hg _ hc, fun hst => ?_, hs.stamped, hs.startable⟩
    obtain ⟨t, ht, hne⟩ := hs.exists_readyAt hst
    show row.row.readyAt.getD 0 ≠ 0
    rw [ht]
    exact hne

end System

/-- **The scheduler decides on every reachable runtime.** Whatever happens to the system after a
rollout was inserted, as long as the generations of its deployments can still count up, a worker
with a live lease gets a decision. In particular every released cluster can start its rollback, is
on its way back or is back, and every ready cluster has the time it got ready. -/
theorem evaluate_of_reachable {env : Env} {senv : StatusEnv} {plan : FrozenRollout} {w : World}
    {db : DB} {now : Time} {newID : UUID → UUID} {es : List Event} {limit : Nat}
    (hins : insertRollout env w.db now newID plan = .ok db) (hnew : w.Unseen plan.id)
    (hw : w.Integrity) (hhosts : w.db.Hosts plan) (hnow : now ≠ 0) (hclock : ∀ e ∈ es, e.Clocked)
    (hlimit : plan.clusters.length ≤ limit) :
    let final := (run (World.step env senv) { w with db } es).db
    ∃ r, final.rollout plan.id = some r ∧ r.frozenPlan = plan ∧
      let snapshot := runtimeFromRows plan r (listDeliveryRolloutRuntime final plan.id limit)
      ((∀ c ∈ snapshot.clusters, 0 ≤ c.currentGeneration ∧ c.currentGeneration < maxInt64) →
        ∀ input : EvaluateInput, input.snapshot = snapshot → input.now ≠ 0 →
          input.lease.validate input.now snapshot.fence = .ok () →
          ∃ d, evaluate env input = .ok d) ∧
      (∀ c ∈ snapshot.clusters, c.everReleased → c.state ≠ .readyPrevious →
        c.state ≠ .rollingBack → canStartRollback c.state) ∧
      ∀ c ∈ snapshot.clusters, c.state = .ready → ∃ t, c.readySince = some t ∧ t ≠ 0 := by
  have hm : RunMeets (World.step env senv) (fun _ e => e.Clocked) { w with db } es :=
    .of_forall hclock
  have h : (run (World.step env senv) { w with db } es).Deciding env plan :=
    hm.preserves (fun _ _ h he => h.step he) (.of_insert senv hins hnew hw hhosts hnow)
  obtain ⟨core, hcr, hp⟩ := h.staffed.row
  obtain ⟨r, hr, rfl⟩ := Option.map_eq_some_iff.mp hcr
  refine ⟨r, hr, hp, ?_, ?_, ?_⟩
  · intro hg input hsn hnow hl
    have hs := h.sane hr hlimit hg
    rw [← hsn] at hs hl
    refine evaluate_exists_ok ?_ hs hnow hl
    rw [hsn]
    exact (insertRollout_eq_ok hins).1
  · intro c hc hrl hpr hb
    obtain ⟨row, hrw, rfl⟩ := mem_map.mp hc
    exact (h.mem_runtime hrw).1.startable hrl hpr hb
  · intro c hc hst
    obtain ⟨row, hrw, rfl⟩ := mem_map.mp hc
    exact (h.mem_runtime hrw).1.exists_readyAt hst

open OneCluster in
/-- The fourth pass of the rollout gets its decision too. -/
theorem released_decides :
    ∃ r, (run (World.step env senv) (inserted firstPlan) released).db.rollout 1 = some r ∧
      ∃ d, evaluate env
        { now := 14
          snapshot := runtimeFromRows firstPlan r (listDeliveryRolloutRuntime
            (run (World.step env senv) (inserted firstPlan) released).db 1 1)
          lease := ⟨"w", r.fencingGeneration, 44⟩, initialApproval := none
          cohortApprovals := [], maintenance := { isOpen := true } } = .ok d := by
  obtain ⟨r, hr, -, hd, -⟩ := @evaluate_of_reachable env senv firstPlan world _ 10 (· + 100)
    released 1 (by rfl) unseen integrity (by decide) (by decide) (by decide) (by decide)
  refine ⟨r, hr, hd ?_ _ rfl (show (14 : Time) ≠ 0 by decide) ?_⟩
  · show ∀ c ∈ (listDeliveryRolloutRuntime _ 1 1).map RuntimeRow.toRuntime, _
    decide +kernel
  · have how : (("w" != "") && decide ("w".utf8ByteSize ≤ maxLeaseOwnerLength) &&
        !hasUnsafeByte "w") = true := by decide +kernel
    have hl : decide ((14 : Time) < 44) = true := by decide
    simp only [Lease.validate, bind_eq_ok, require_eq_ok]
    exact ⟨(), how, (), beq_self_eq_true _, hl⟩

end Astronomer.Delivery
