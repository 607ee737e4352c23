import Astronomer.Delivery.Steps

/-!
# Events as chains of single writes

Whatever an event commits is a chain of a few kinds of writes. An invariant of the tables
that every one of them keeps is an invariant of the system.
-/

namespace Astronomer.Delivery

open List

variable {id : UUID} {newID : UUID → UUID}

structure RolloutClusterRow.SameKeys (rc rc' : RolloutClusterRow) : Prop where
  id : rc'.id = rc.id
  rollout : rc'.rolloutID = rc.rolloutID
  cluster : rc'.clusterID = rc.clusterID

structure DeploymentRow.SameKeys (d d' : DeploymentRow) : Prop where
  id : d'.id = d.id
  target : d'.targetID = d.targetID
  cluster : d'.clusterID = d.clusterID

inductive DB.Write (db : DB) : DB → Prop
  | rollouts {p : RolloutRow → Bool} {f : RolloutRow → RolloutRow} :
      (∀ r, (f r).frozen = r.frozen) → DB.Write db (db.updateRollouts p f)
  | clusterRows {now : Time} {p : RolloutClusterRow → Bool}
      {f : RolloutClusterRow → RolloutClusterRow} :
      (∀ rc : RolloutClusterRow, rc.SameKeys (f rc)) → DB.Write db (db.updateClusterRows now p f)
  | create {plan : FrozenRollout} {now : Time} {newID : UUID → UUID} :
      db.rollout plan.id = none → (plan.clusters.map fun c => newID c.clusterID).Nodup →
      (∀ c ∈ plan.clusters, ∀ rc ∈ db.rolloutClusters, rc.id ≠ newID c.clusterID) →
      DB.Write db { db with
        rollouts := db.rollouts ++ [plan.toRow]
        rolloutClusters :=
          db.rolloutClusters ++ plan.clusters.map (PlannedCluster.toRow plan now newID) }
  | log {approvals : List ApprovalRow} {rolloutEvents : List RolloutEventRow}
      {inventories : List InventoryRow} {receipts : List ReceiptRow} :
      DB.Write db { db with approvals, rolloutEvents, inventories, receipts }
  | insertDeployment {row : DeploymentRow} :
      (∀ d ∈ db.deployments, d.id ≠ row.id) →
      db.deployment row.targetID row.clusterID = none →
      DB.Write db (db.insertDeployment row)
  | updateDeployment {p : DeploymentRow → Bool} {f : DeploymentRow → DeploymentRow}
      {row : DeploymentRow} {db' : DB} :
      (∀ d : DeploymentRow, p d → d.SameKeys (f d)) →
      db.updateDeployment p f = some (db', row) →
      DB.Write db db'
  | connection {row : ConnectionRow} : DB.Write db (writeConnection db row)
  | dropConnection {id : UUID} : DB.Write db (dropConnection db id)
  | labels {clusterID : UUID} {labels : String} : DB.Write db (writeLabels db clusterID labels)

abbrev DB.Writes : DB → DB → Prop := Relation.ReflTransGen DB.Write

section Writes

variable {db db' : DB} {now : Time}

theorem DB.Writes.keeps {P : DB → Prop} (hstep : ∀ db db', DB.Write db db' → P db → P db')
    (h : DB.Writes db db') (h0 : P db) : P db' := by
  induction h with
  | refl => exact h0
  | tail _ hl ih => exact hstep _ _ hl ih

theorem DB.Writes.updateRollouts {p f} (h : DB.Writes db db') (hf : ∀ r, (f r).frozen = r.frozen) :
    DB.Writes db (db'.updateRollouts p f) :=
  h.tail (.rollouts hf)

theorem DB.Writes.updateClusterRows {p f} (h : DB.Writes db db')
    (hf : ∀ rc : RolloutClusterRow, rc.SameKeys (f rc)) :
    DB.Writes db (db'.updateClusterRows now p f) :=
  h.tail (.clusterRows hf)

theorem DB.Writes.createRolloutEvent {e} (h : DB.Writes db db') :
    DB.Writes db (db'.createRolloutEvent e) :=
  h.tail .log

theorem DB.Writes.of_upsert {d row} (h : upsertClusterDeploymentDesired db d id = some (db', row)) :
    DB.Writes db db' := by
  simp only [upsertClusterDeploymentDesired] at h
  split at h
  next hn =>
    split at h
    next hf =>
      cases h
      simp only [all_eq_true, bne_iff_ne, ne_eq] at hf
      exact .single (.insertDeployment hf hn)
    · cases h
  · split at h
    · exact .single (.updateDeployment (by intro _ _; exact ⟨rfl, rfl, rfl⟩) h)
    · cases h

theorem DB.Writes.of_insertRollout {env plan} (h : insertRollout env db now newID plan = .ok db') :
    DB.Writes db db' := by
  obtain ⟨-, hn, hnd, hf, hr⟩ := insertRollout_eq_ok h
  obtain ⟨_, _, _, _, _, rfl⟩ := recompute_eq_some hr
  exact .updateRollouts (.single (.create hn hnd hf)) (by intro; rfl)

theorem DB.Writes.of_applyClusterTransition {w t} (h : applyClusterTransition w now db t = .ok db')
    : DB.Writes db db' := by
  obtain ⟨_, _, _, -, -, rfl, -⟩ := applyClusterTransition_eq_ok h
  exact .createRolloutEvent (.updateClusterRows .refl (by intro; exact ⟨rfl, rfl, rfl⟩))

theorem DB.Writes.of_applyRelease {w plan release}
    (h : applyRelease w now plan newID db release = .ok db') :
    DB.Writes db db' := by
  obtain ⟨_, _, _, _, _, _, -, -, -, hup, -, rfl, -⟩ := applyRelease_eq_ok h
  exact .createRolloutEvent (.updateClusterRows (DB.Writes.of_upsert hup)
    (by intro; exact ⟨rfl, rfl, rfl⟩))

theorem applyDecision_keeps {P : DB → Prop} {w : Work}
    (hst : ∀ s s' t, t ∈ w.decision.clusterTransitions → P s →
      applyClusterTransition w now s t = .ok s' → P s')
    (hrl : ∀ s s' r, r ∈ w.decision.releases → P s →
      applyRelease w now w.claimed.frozenPlan newID s r = .ok s' → P s')
    (hrll : ∀ (s : DB) p f, (∀ r, RolloutRow.frozen (f r) = r.frozen ∧
      (f r).runtimeGeneration = r.runtimeGeneration) → P s → P (s.updateRollouts p f))
    (hev : ∀ (s : DB) e, e.eventType = .rolloutTransition → P s → P (s.createRolloutEvent e))
    (h : P db) (hok : applyDecision w now newID db = .ok db') : P db' := by
  obtain ⟨_, settled, released, counted, -, -, -, -, hs, hr, hc, hf⟩ := applyDecision_eq_ok hok
  have h1 : P released := foldlM_invariant hrl hr (foldlM_invariant hst hs h)
  have h2 : P counted := by
    simp only [recountAfter] at hc
    split at hc
    · cases hc
      exact h1
    · rw [orError_eq_ok] at hc
      obtain ⟨_, _, _, _, _, rfl⟩ := recompute_eq_some hc
      exact hrll _ _ _ (by intro; exact ⟨rfl, rfl⟩) h1
  have h3 : P (finishTables w now counted) := hrll _ _ _ (by intro r; split <;> exact ⟨rfl, rfl⟩) h2
  rcases finishDecision_eq_ok hf with rfl | ⟨e, hty, -, rfl⟩
  · exact h3
  · exact hev _ e hty h3

theorem DB.Writes.of_applyDecision {w} (h : applyDecision w now newID db = .ok db') :
    DB.Writes db db' :=
  applyDecision_keeps (P := DB.Writes db)
    (fun _ _ _ _ hs ho => hs.trans (DB.Writes.of_applyClusterTransition ho))
    (fun _ _ _ _ hs ho => hs.trans (DB.Writes.of_applyRelease ho))
    (fun _ _ _ hf hs => hs.updateRollouts fun r => (hf r).1) (fun _ _ _ hs => hs.createRolloutEvent)
    .refl h

theorem DB.Writes.of_ingest {senv clock session payload}
    (h : ingest senv db clock session payload = .ok db') :
    DB.Writes db db' := by
  refine ingest_keeps (P := DB.Writes db) (fun _ _ hdb => hdb.tail .log)
    (fun _ _ hdb => hdb.tail .log) (fun _ _ _ _ _ _ hdb hu => ?_) (fun s updated hdb => ?_) .refl h
  · exact hdb.tail (.updateDeployment (by intro _ _; exact ⟨rfl, rfl, rfl⟩) hu)
  · rcases @advanceFromStatus_eq s clock updated with heq | ⟨_, _, _, _, -, -, -, heq, -⟩ <;>
      rw [heq]
    · exact hdb
    · exact .createRolloutEvent (.updateClusterRows hdb (by intro; exact ⟨rfl, rfl, rfl⟩))

theorem DB.Writes.of_writeDeploymentRow {row} :
    DB.Writes db (writeDeploymentRow db row) := by
  simp only [writeDeploymentRow]
  split
  next hn =>
    split
    next hf =>
      simp only [all_eq_true, bne_iff_ne, ne_eq] at hf
      exact .single (.insertDeployment hf hn)
    · exact .refl
  · split
    next hu =>
      refine .single (.updateDeployment (fun d hd => ?_) hu)
      simp only [Bool.and_eq_true, beq_iff_eq] at hd
      exact ⟨rfl, hd.1.symm, hd.2.symm⟩
    · exact .refl

end Writes

variable {env : Env} {senv : StatusEnv} {w : World} {e : Event} {db' : DB}

theorem World.Commits.writes (h : w.Commits env senv e db') : DB.Writes w.db db' := by
  cases h with
  | create h => exact .of_insertRollout h
  | claim h =>
    obtain ⟨_, -, -, -, -, rfl⟩ := claimDeliveryRollout_eq_some h
    exact .updateRollouts .refl (by intro; rfl)
  | apply _ h => exact .of_applyDecision h
  | @act clock request _ h =>
    obtain ⟨_, _, -, -, -, -, rfl, -⟩ := act_eq_ok h
    have hrs : DB.Writes w.db (resetTables w.db clock.dbNow request.action request.rolloutID) := by
      simp only [resetTables]
      split
      · exact .updateClusterRows .refl (by intro; exact ⟨rfl, rfl, rfl⟩)
      · exact .refl
    exact .createRolloutEvent (.updateRollouts hrs (by intro; rfl))
  | @approve clock request _ h =>
    obtain ⟨_, _, -, -, -, rfl, -⟩ := approve_eq_ok h
    have hr : DB.Writes w.db
        { w.db with approvals := w.db.approvals ++ [request.row clock.dbNow] } := .single .log
    refine DB.Writes.createRolloutEvent ?_
    simp only [approvalTables]
    split
    · exact .updateRollouts hr (by intro; rfl)
    · exact hr
  | ingest h => exact .of_ingest h
  | connection => exact .single .connection
  | dropConnection => exact .single .dropConnection
  | labels => exact .single .labels
  | writeDeployment => exact .of_writeDeploymentRow

theorem World.step_writes : DB.Writes w.db (w.step env senv e).db :=
  World.step_db_induct (P := DB.Writes w.db) .refl fun _ h => h.writes

/-! ## Keys -/

structure DB.PrimaryKeys (db : DB) : Prop where
  connections : (db.connections.map (·.id)).Nodup
  deployments : (db.deployments.map (·.id)).Nodup

theorem DB.PrimaryKeys.write {db db' : DB} (h : DB.Write db db') (hk : db.PrimaryKeys) :
    db'.PrimaryKeys := by
  cases h with
  | rollouts | clusterRows | create | log => exact ⟨hk.connections, hk.deployments⟩
  | @insertDeployment row hf _ =>
    refine ⟨hk.connections, nodup_map_insert hk.deployments fun hmem => ?_⟩
    obtain ⟨d, hd, heq⟩ := mem_map.mp hmem
    exact hf d hd heq
  | @updateDeployment p f _ _ hky hu =>
    obtain ⟨_, -, -, rfl⟩ := DB.updateDeployment_eq_some.mp hu
    refine ⟨hk.connections, ?_⟩
    show ((updateWhere p f db.deployments).map (·.id)).Nodup
    rw [map_updateWhere_of_where fun d hp => (hky d hp).id]
    exact hk.deployments
  | @connection row =>
    simp only [writeConnection]
    split
    next hn =>
      refine ⟨nodup_map_insert hk.connections fun hmem => ?_, hk.deployments⟩
      obtain ⟨c, hc, heq⟩ := mem_map.mp hmem
      have := find?_eq_none.mp hn c hc
      simp [heq] at this
    · refine ⟨?_, hk.deployments⟩
      show ((updateWhere _ _ db.connections).map (·.id)).Nodup
      rw [map_updateWhere (by intro; rfl)]
      exact hk.connections
  | dropConnection =>
    simp only [Delivery.dropConnection]
    split
    · exact hk
    · exact ⟨hk.connections.sublist (filter_sublist.map _), hk.deployments⟩
  | labels =>
    simp only [writeLabels]
    split
    · exact hk
    · split
      · exact hk
      · exact ⟨hk.connections, hk.deployments⟩

def DB.clusterKeys (db : DB) (id : UUID) : List (UUID × UUID) :=
  (db.clustersOf id).map fun rc => (rc.id, rc.clusterID)

theorem DB.exists_of_clusterKeys {db db' : DB} {rc : RolloutClusterRow}
    (h : db'.clusterKeys id = db.clusterKeys id) (hrc : rc ∈ db'.clustersOf id) :
    ∃ rc0 ∈ db.clustersOf id, rc0.id = rc.id ∧ rc0.clusterID = rc.clusterID := by
  have hmem : (rc.id, rc.clusterID) ∈ db.clusterKeys id := h ▸ mem_map_of_mem hrc
  obtain ⟨rc0, hrc0, heq⟩ := mem_map.mp hmem
  exact ⟨rc0, hrc0, congrArg Prod.fst heq, congrArg Prod.snd heq⟩

theorem DB.Write.frozen {x} {db db' : DB} {r : RolloutRow} (h : DB.Write db db')
    (hr : db.core x = some r) : ∃ r', db'.core x = some r' ∧ r'.frozen = r.frozen := by
  cases h with
  | rollouts hf =>
    obtain ⟨r0, hr0, rfl⟩ := Option.map_eq_some_iff.mp hr
    have hid := fun r => congrArg RolloutRow.id (hf r)
    rw [DB.core, DB.rollout_updateRollouts (by exact hid), hr0]
    refine ⟨_, rfl, ?_⟩
    dsimp only
    split
    · exact hf r0
    · rfl
  | clusterRows => exact ⟨r, DB.core_updateClusterRows.trans hr, rfl⟩
  | create =>
    obtain ⟨r0, hr0, rfl⟩ := Option.map_eq_some_iff.mp hr
    refine ⟨r0.core, ?_, rfl⟩
    show Option.map _ ((db.rollouts ++ _).find? _) = _
    rw [find?_append, show db.rollouts.find? _ = some r0 from hr0]
    rfl
  | log => exact ⟨r, hr, rfl⟩
  | insertDeployment => exact ⟨r, DB.core_insertDeployment.trans hr, rfl⟩
  | updateDeployment _ hu => exact ⟨r, (DB.core_of_updateDeployment hu).trans hr, rfl⟩
  | connection => exact ⟨r, (writeConnection_around.core x).trans hr, rfl⟩
  | dropConnection => exact ⟨r, (dropConnection_around.core x).trans hr, rfl⟩
  | labels => exact ⟨r, (writeLabels_around.core x).trans hr, rfl⟩

theorem DB.Write.isSome {db db' : DB} (h : DB.Write db db')
    (hr : (db.rollout id).isSome) : (db'.rollout id).isSome := by
  obtain ⟨r, hrw⟩ := Option.isSome_iff_exists.mp hr
  obtain ⟨r', hr', -⟩ := h.frozen (DB.core_of_rollout hrw)
  obtain ⟨r'', hrw', -⟩ := Option.map_eq_some_iff.mp hr'
  rw [hrw']
  rfl

theorem DB.Write.clusterKeys {db db' : DB} (h : DB.Write db db')
    (hr : (db.rollout id).isSome) : db'.clusterKeys id = db.clusterKeys id := by
  have hs : ∀ {db' : DB}, db'.rolloutClusters = db.rolloutClusters →
      db'.clusterKeys id = db.clusterKeys id := fun heq => by
    rw [DB.clusterKeys, DB.clustersOf, heq]
    rfl
  cases h with
  | rollouts | log | insertDeployment => exact hs rfl
  | clusterRows hky =>
    simp only [DB.clusterKeys, DB.clustersOf, DB.updateClusterRows]
    rw [filter_updateWhere fun rc => by simp [(hky rc).rollout]]
    exact map_updateWhere fun rc => by simp [(hky rc).id, (hky rc).cluster]
  | create hn =>
    have hne : ∀ {other : FrozenRollout}, db.rollout other.id = none → other.id ≠ id := by
      rintro other hn rfl
      rw [hn] at hr
      cases hr
    show ((db.rolloutClusters ++ _).filter _).map _ = _
    rw [filter_append, filter_toRow_of_ne (hne hn), append_nil]
    rfl
  | updateDeployment _ hu =>
    obtain ⟨_, -, -, rfl⟩ := DB.updateDeployment_eq_some.mp hu
    exact hs rfl
  | connection => exact hs writeConnection_around.clusterRows
  | dropConnection => exact hs dropConnection_around.clusterRows
  | labels => exact hs writeLabels_around.clusterRows

theorem DB.Writes.clusterKeys {db db' : DB} (h : DB.Writes db db')
    (hr : (db.rollout id).isSome) : db'.clusterKeys id = db.clusterKeys id := by
  have ha : (db'.rollout id).isSome ∧ db'.clusterKeys id = db.clusterKeys id :=
    h.keeps (P := fun s => (s.rollout id).isSome ∧ s.clusterKeys id = db.clusterKeys id)
      (fun _ _ hw hs => ⟨hw.isSome hs.1, (hw.clusterKeys hs.1).trans hs.2⟩) ⟨hr, rfl⟩
  exact ha.2

theorem DB.Writes.frozen {x} {db db' : DB} {r : RolloutRow} (h : DB.Writes db db')
    (hr : db.core x = some r) : ∃ r', db'.core x = some r' ∧ r'.frozen = r.frozen := by
  refine h.keeps (P := fun db => ∃ r', db.core x = some r' ∧ r'.frozen = r.frozen)
    (fun _ _ hw ⟨r1, hr1, hk⟩ => ?_) ⟨r, hr, rfl⟩
  obtain ⟨r', hr', hf⟩ := hw.frozen hr1
  exact ⟨r', hr', hf.trans hk⟩

theorem World.frozen_step {x} {r : RolloutRow} (hr : w.db.core x = some r) :
    ∃ r', (w.step env senv e).db.core x = some r' ∧ r'.frozen = r.frozen :=
  World.step_writes.frozen hr

/-- No event rewrites what `InsertRollout` stores of a plan. -/
theorem World.plan_immutable (events : List Event) : w.db.rollout id = none ∨
    (((run (step env senv) w events).db.core id).map (·.frozen) =
        (w.db.core id).map (·.frozen) ∧
      (run (step env senv) w events).db.clusterKeys id = w.db.clusterKeys id) := by
  cases hr : w.db.rollout id with
  | none => exact .inl rfl
  | some r =>
    have hw : DB.Writes w.db (run (step env senv) w events).db :=
      run_preserves (P := (DB.Writes w.db <| db ·)) (fun _ _ h => h.trans step_writes) .refl
    obtain ⟨r', hr', hf⟩ := hw.frozen (DB.core_of_rollout hr)
    exact .inr ⟨by simp [hr', DB.core_of_rollout hr, hf], hw.clusterKeys (by simp [hr])⟩

end Astronomer.Delivery
