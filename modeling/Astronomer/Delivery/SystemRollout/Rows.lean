import Astronomer.Delivery.SystemRollout.Steps

/-!
# What happens to one row

`RowMoves` lists every way in which a step changes an assignment, each with the
conditions under which the code takes it, and `RolloutMoves` every way in which it
changes a rollout. Invariants are proved by going through these lists.
-/

namespace Astronomer.Delivery.SystemRollout

open List

variable {now : Time} {e : Event} {i : UUID}

variable {clock : Clock} {db db' : DB} {id c : UUID} {row row' : RolloutRow} {t t' : Assignments}
  {a a' b : AssignmentRow}

/-! ## The release of a cohort -/

theorem AssignmentRow.isOf_iff : a.isOf id ↔ a.rolloutID = some id := by
  simp [AssignmentRow.isOf]

structure FirstPending (t : Assignments) (id : UUID) (a : AssignmentRow) : Prop where
  of : a.rolloutID = some id
  pending : a.phase = .pending
  first : ∀ b ∈ t.rows, b.rolloutID = some id → b.phase = .pending → a.cohort ≤ b.cohort

theorem firstPending_of_mem {limit} (h : c ∈ nextAssignments t id limit) (ha : t.get c = some a) :
    FirstPending t id a := by
  simp only [nextAssignments, mem_map] at h
  obtain ⟨b, hb, rfl⟩ := h
  have hb := (mem_insertionSort _).mp (mem_of_mem_take hb)
  simp only [mem_filter, Bool.and_eq_true, beq_iff_eq, AssignmentRow.isOf_iff] at hb
  obtain ⟨⟨hmem, hof, hpd⟩, hm⟩ := hb
  obtain rfl : b = a := Option.some.inj ((Keyed.get_of_mem hmem).symm.trans ha)
  obtain ⟨-, hle⟩ := min?_eq_some_iff.mp hm.symm
  refine ⟨hof, hpd, fun b' hb' hof' hpd' => hle _ (mem_map_of_mem ?_)⟩
  simp [hb', hof', hpd', AssignmentRow.isOf]

theorem get_releasedNext (h : (releasedNext clock db row).get c = some a') :
    ∃ a, db.assignments.get c = some a ∧
      (a' = a ∨ FirstPending db.assignments row.id a ∧ a' = a.released clock.now) := by
  unfold releasedNext releaseNextCohort at h
  simp only at h
  split at h
  · exact ⟨a', h, .inl rfl⟩
  · simp only [releaseSystemRolloutNextCohort, Keyed.get_update, Option.map_eq_some_iff] at h
    obtain ⟨a, ha, hm⟩ := h
    refine ⟨a, ha, ?_⟩
    split at hm
    next hn =>
      have hmem := contains_iff_mem.mp hn
      rw [Keyed.key_of_get ha] at hmem
      exact .inr ⟨firstPending_of_mem hmem ha, hm.symm⟩
    · exact .inl hm.symm

theorem Released.get (h : Released clock db row t) (ha : t.get c = some a') :
    ∃ a, db.assignments.get c = some a ∧
      (a' = a ∨ FirstPending db.assignments row.id a ∧ a' = a.released clock.now ∧
        (row.state = .queued ∨ row.state = .progressing ∧ settled (countsOf clock db row) ∧
          ¬ awaitsApproval row.strategy (countsOf clock db row))) := by
  cases h with
  | nothing => exact ⟨a', ha, .inl rfl⟩
  | queued hqd =>
    obtain ⟨a, hg, rfl | ⟨hf, rfl⟩⟩ := get_releasedNext ha
    · exact ⟨a', hg, .inl rfl⟩
    · exact ⟨a, hg, .inr ⟨hf, rfl, .inl hqd⟩⟩
  | progressing hp hs ho =>
    obtain ⟨a, hg, rfl | ⟨hf, rfl⟩⟩ := get_releasedNext ha
    · exact ⟨a', hg, .inl rfl⟩
    · exact ⟨a, hg, .inr ⟨hf, rfl, .inr ⟨hp, hs, ho⟩⟩⟩

/-! ## The start of a rollback -/

def AssignmentRow.goesBack (a : AssignmentRow) (id : UUID) : Prop :=
  a.rolloutID = some id ∧ a.phase ≠ .pending ∧ a.phase ≠ .aborted

theorem Begins.get (h : Begins now row t t') (ha : t'.get c = some a') :
    ∃ a previous, t.get c = some a ∧ row.previousReleaseID = some previous ∧
      (a' = a ∧ ¬ a.goesBack row.id ∨
        a.goesBack row.id ∧ a' = a.sentBack previous row.releaseID now) := by
  obtain ⟨previous, hp, rfl⟩ := h
  simp only [beginSystemRolloutAssignmentRollback, Keyed.get_update, Option.map_eq_some_iff] at ha
  obtain ⟨a, hg, hm⟩ := ha
  refine ⟨a, previous, hg, hp, ?_⟩
  split at hm
  next hb =>
    refine .inr ⟨?_, hm.symm⟩
    simpa [AssignmentRow.goesBack, AssignmentRow.isOf_iff, and_assoc] using hb
  next hb =>
    refine .inl ⟨hm.symm, ?_⟩
    simpa [AssignmentRow.goesBack, AssignmentRow.isOf_iff, and_assoc] using hb

/-! ## The assignments of a new rollout -/

structure Ensured (releaseID id : UUID) (before : Option AssignmentRow)
    (a : AssignmentRow) : Prop where
  desired : a.desiredReleaseID = releaseID
  of : a.rolloutID = some id
  pending : a.phase = .pending
  generation : ∀ b ∈ before, b.generation < a.generation
  unready : a.readyAt = none

theorem get_ensureSystemRolloutAssignment
    {clusterID desired rolloutID previous cohort order deadline} :
    (ensureSystemRolloutAssignment t clusterID desired previous rolloutID cohort order
        deadline).get c = t.get c ∧ clusterID ≠ c ∨
      clusterID = c ∧ ∃ a, (ensureSystemRolloutAssignment t clusterID desired previous rolloutID
        cohort order deadline).get c = some a ∧ Ensured desired rolloutID (t.get c) a := by
  unfold ensureSystemRolloutAssignment
  rw [Keyed.get_upsert]
  by_cases hc : clusterID = c
  · refine .inr ⟨hc, _, if_pos hc, ?_⟩
    cases t.get c with
    | none => exact ⟨rfl, rfl, rfl, fun b hb => absurd hb (Option.not_mem_none b), rfl⟩
    | some b =>
      refine ⟨rfl, rfl, rfl, fun b' hb' => ?_, rfl⟩
      rw [← Option.mem_some_iff.mp hb']
      exact Nat.lt_succ_self _
  · exact .inl ⟨if_neg hc, hc⟩

theorem get_ensureAll {releaseID previous rolloutID deadline planned} :
    (ensureAll t releaseID previous rolloutID deadline planned).get c = t.get c ∨
      (∃ item ∈ planned, item.clusterID = c) ∧
        ∃ a, (ensureAll t releaseID previous rolloutID deadline planned).get c = some a ∧
          Ensured releaseID rolloutID (t.get c) a := by
  unfold ensureAll
  induction planned generalizing t with
  | nil => exact .inl rfl
  | cons item planned ih =>
    rw [foldl_cons]
    -- the rest of the loop leaves the row of this iteration or writes it again
    rcases @get_ensureSystemRolloutAssignment c t item.clusterID releaseID rolloutID
        (some previous) item.cohort item.order deadline with ⟨hs, hne⟩ | ⟨hi, a1, ha1, hf⟩
    · rcases @ih _ with hrest | ⟨⟨item', hi', hid⟩, a, ha, he⟩
      · exact .inl (hrest.trans hs)
      · rw [hs] at he
        exact .inr ⟨⟨item', mem_cons_of_mem _ hi', hid⟩, a, ha, he⟩
    · rcases @ih _ with hrest | ⟨-, a, ha, he⟩
      · exact .inr ⟨⟨item, mem_cons_self, hi⟩, a1, hrest.trans ha1, hf⟩
      · refine .inr ⟨⟨item, mem_cons_self, hi⟩, a, ha, he.desired, he.of,
          he.pending, fun b hb => ?_, he.unready⟩
        exact (hf.generation b hb).trans (he.generation a1 ha1)

/-! ## One row, one step -/

theorem observedPhase_eq_pending {o r phase} :
    observedPhase o r phase = .pending ↔ phase = .pending := by
  unfold observedPhase
  split
  · rfl
  · grind

inductive RowMoves (db db' : DB) : Event → AssignmentRow → AssignmentRow → Prop
  | kept {e : Event} {a : AssignmentRow} : RowMoves db db' e a a
  | ensured {clock : Clock} {id previous : UUID} {request : StartRequest} {a a' : AssignmentRow}
      (hidle : db.countActiveSystemRollouts = 0)
      (hcurrent : db.getCurrentSystemRolloutRelease = some previous)
      (hfresh : db.rollouts.get id = none)
      (hstarted : (db'.rollouts.get id).isSome)
      (heligible : a.clusterID ∈ db.listSystemRolloutEligibleClusters)
      (h : Ensured request.releaseID id (some a) a') :
      RowMoves db db' (.start clock id request) a a'
  | observed {clock : Clock} {o : Inventory} {a : AssignmentRow} {r : ReleaseRow}
      (hr : db.releases.get a.desiredReleaseID = some r) :
      RowMoves db db' (.observe clock a.clusterID o) a (a.observe o r)
  | retried {clock : Clock} {request : ActRequest} {row row' : RolloutRow} {a : AssignmentRow}
      (hrow : db.rollouts.get request.id = some row) (haction : request.action = .retry)
      (hof : a.rolloutID = some row.id) (hfailed : a.phase = .failed)
      (hacts : Acts clock request.action db row db' row') :
      RowMoves db db' (.act clock request) a a.retried
  | aborted {clock : Clock} {request : ActRequest} {row row' : RolloutRow} {a : AssignmentRow}
      (hrow : db.rollouts.get request.id = some row) (haction : request.action = .abort)
      (hof : a.rolloutID = some row.id) (hpending : a.phase = .pending)
      (hacts : Acts clock request.action db row db' row') :
      RowMoves db db' (.act clock request) a a.aborted
  | rolledBack {clock : Clock} {request : ActRequest} {row row' : RolloutRow} {previous : UUID}
      {a : AssignmentRow} (hrow : db.rollouts.get request.id = some row)
      (haction : request.action = .rollback) (hprevious : row.previousReleaseID = some previous)
      (hback : a.goesBack row.id) (hacts : Acts clock request.action db row db' row') :
      RowMoves db db' (.act clock request) a (a.sentBack previous row.releaseID clock.now)
  | released {clock : Clock} {id : UUID} {row : RolloutRow} {a : AssignmentRow}
      (hrow : db.rollouts.get id = some row) (hfirst : FirstPending db.assignments row.id a)
      (hopen : row.state = .queued ∨ row.state = .progressing ∧
        settled (countsOf clock db row) ∧ ¬ awaitsApproval row.strategy (countsOf clock db row)) :
      RowMoves db db' (.reconcile clock id) a (a.released clock.now)
  | sentBack {clock : Clock} {id previous : UUID} {row : RolloutRow} {a : AssignmentRow}
      (hrow : db.rollouts.get id = some row)
      (hactive : row.state = .queued ∨ row.state = .progressing)
      (hprevious : row.previousReleaseID = some previous) (hback : a.goesBack row.id) :
      RowMoves db db' (.reconcile clock id) a (a.sentBack previous row.releaseID clock.now)
  | releasedAndSentBack {clock : Clock} {id previous : UUID} {row : RolloutRow}
      {a : AssignmentRow} (hrow : db.rollouts.get id = some row)
      (hfirst : FirstPending db.assignments row.id a)
      (hopen : row.state = .queued ∨ row.state = .progressing ∧
        settled (countsOf clock db row) ∧ ¬ awaitsApproval row.strategy (countsOf clock db row))
      (hprevious : row.previousReleaseID = some previous) :
      RowMoves db db' (.reconcile clock id) a
        ((a.released clock.now).sentBack previous row.releaseID clock.now)

inductive RowNew (db db' : DB) : Event → AssignmentRow → Prop
  | seeded {clock : Clock} {c : UUID} {o : Inventory} {r : ReleaseRow}
      (hcurrent : db.releases.current = some r) :
      RowNew db db' (.observe clock c o) (seededAssignment c r clock.dbNow)
  | ensured {clock : Clock} {id previous : UUID} {request : StartRequest} {a : AssignmentRow}
      (hidle : db.countActiveSystemRollouts = 0)
      (hcurrent : db.getCurrentSystemRolloutRelease = some previous)
      (hfresh : db.rollouts.get id = none)
      (hstarted : (db'.rollouts.get id).isSome)
      (heligible : a.clusterID ∈ db.listSystemRolloutEligibleClusters)
      (h : Ensured request.releaseID id none a) : RowNew db db' (.start clock id request) a

theorem Forward.rows (h : Forward clock db row db' row' t) (hr : db.rollouts.get id = some row)
    (hac : row.state = .queued ∨ row.state = .progressing)
    (ha : db'.assignments.get c = some a') :
    ∃ a, db.assignments.get c = some a ∧ RowMoves db db' (.reconcile clock id) a a' := by
  by_cases hb : row'.state = .rollingBack
  · obtain ⟨a1, previous, ha1, hp, hm⟩ := (h.back hb).get ha
    obtain ⟨a, hg, rfl | ⟨hf, rfl, ho⟩⟩ := h.released.get ha1
    · rcases hm with ⟨rfl, -⟩ | ⟨hgs, rfl⟩
      · exact ⟨a', hg, .kept⟩
      · exact ⟨a1, hg, .sentBack hr hac hp hgs⟩
    · rcases hm with ⟨rfl, hgs⟩ | ⟨-, rfl⟩
      · exact absurd ⟨hf.of, nofun, nofun⟩ hgs
      · exact ⟨a, hg, .releasedAndSentBack hr hf ho hp⟩
  · rw [h.forward hb] at ha
    obtain ⟨a, hg, rfl | ⟨hf, rfl, ho⟩⟩ := h.released.get ha
    · exact ⟨a', hg, .kept⟩
    · exact ⟨a, hg, .released hr hf ho⟩

theorem Acts.rows {request : ActRequest} (h : Acts clock request.action db row db' row')
    (hr : db.rollouts.get request.id = some row) (ha : db'.assignments.get c = some a') :
    ∃ a, db.assignments.get c = some a ∧ RowMoves db db' (.act clock request) a a' := by
  have hat := h.assignments
  cases han : request.action with
  | rollback =>
    rw [han] at hat
    obtain ⟨a, previous, hg, hp, ⟨rfl, -⟩ | ⟨hgs, rfl⟩⟩ := Begins.get hat ha
    · exact ⟨a', hg, .kept⟩
    · exact ⟨a, hg, .rolledBack hr han hp hgs h⟩
  | retry =>
    rw [han] at hat
    rw [show db'.assignments = _ from hat, retrySystemRolloutAssignments, Keyed.get_update,
      Option.map_eq_some_iff] at ha
    obtain ⟨a, hg, hm⟩ := ha
    refine ⟨a, hg, ?_⟩
    split at hm
    next hw =>
      simp only [Bool.and_eq_true, AssignmentRow.isOf_iff, beq_iff_eq] at hw
      exact hm ▸ .retried hr han hw.1 hw.2 h
    · exact hm ▸ .kept
  | abort =>
    rw [han] at hat
    rw [show db'.assignments = _ from hat, abortSystemRolloutPendingAssignments,
      Keyed.get_update, Option.map_eq_some_iff] at ha
    obtain ⟨a, hg, hm⟩ := ha
    refine ⟨a, hg, ?_⟩
    split at hm
    next hw =>
      simp only [Bool.and_eq_true, AssignmentRow.isOf_iff, beq_iff_eq] at hw
      exact hm ▸ .aborted hr han hw.1 hw.2 h
    · exact hm ▸ .kept
  | _ =>
    rw [han] at hat
    rw [show db'.assignments = _ from hat] at ha
    exact ⟨a', ha, .kept⟩

theorem Stepped.rows (h : Stepped db e db') (ha : db'.assignments.get c = some a') :
    (∃ a, db.assignments.get c = some a ∧ RowMoves db db' e a a') ∨
      db.assignments.get c = none ∧ RowNew db db' e a' := by
  cases h with
  | refused | registered => exact .inl ⟨a', ha, .kept⟩
  | @started _ id _ _ _ _ _ _ hss =>
    rw [hss.assignments] at ha
    rcases get_ensureAll with hs | ⟨⟨item, hi, hid⟩, a1, ha1, he⟩
    · exact .inl ⟨a', hs ▸ ha, .kept⟩
    · obtain rfl : a1 = a' := Option.some.inj (ha1.symm.trans ha)
      have hel : a1.clusterID ∈ db.listSystemRolloutEligibleClusters := by
        rw [Keyed.key_of_get ha, ← hid]
        exact hss.eligible item hi
      have hsd : (db'.rollouts.get id).isSome := by
        rw [hss.rollouts, Keyed.get_insert, if_pos hss.rowID]
        rfl
      cases hbf : db.assignments.get c with
      | none =>
        rw [hbf] at he
        exact .inr ⟨rfl, .ensured hss.idle hss.current (hss.rowID ▸ hss.fresh) hsd hel he⟩
      | some a =>
        rw [hbf] at he
        have hcl : a.clusterID = a1.clusterID :=
          (Keyed.key_of_get hbf).trans (Keyed.key_of_get ha).symm
        exact .inl ⟨a, rfl, .ensured hss.idle hss.current
          (hss.rowID ▸ hss.fresh) hsd (hcl ▸ hel) he⟩
  | acted hrw hat => exact .inl (hat.rows hrw ha)
  | reconciled hrw hrc =>
    cases hrc with
    | back row' hbc hrw' hst =>
      rw [hrw'.assignments] at ha
      exact .inl ⟨a', ha, .kept⟩
    | forward row' t hac hf => exact .inl (hf.rows hrw hac ha)
  | observed ho _ _ =>
    generalize haf : db'.assignments = after at ha ho
    cases ho with
    | nothing => exact .inl ⟨a', ha, .kept⟩
    | seeded r hcr hfr =>
      rw [Keyed.get_insert] at ha
      split at ha
      next hc =>
        cases ha
        exact .inr ⟨hc ▸ hfr, .seeded hcr⟩
      · exact .inl ⟨a', ha, .kept⟩
    | written a r hg hr =>
      obtain rfl := Keyed.key_of_get hg
      rw [Keyed.get_set] at ha
      split at ha
      next hc =>
        obtain ⟨b, hb, rfl⟩ := Option.map_eq_some_iff.mp ha
        exact .inl ⟨a, by rw [← hc]; exact hg, .observed hr⟩
      · exact .inl ⟨a', ha, .kept⟩
  | configured hcn =>
    rw [hcn.assignments] at ha
    exact .inl ⟨a', ha, .kept⟩

theorem Begins.isSome (h : Begins now row t t') :
    (t'.get c).isSome = (t.get c).isSome := by
  obtain ⟨previous, -, rfl⟩ := h
  rw [beginSystemRolloutAssignmentRollback, Keyed.get_update, Option.isSome_map]

theorem Released.isSome (h : Released clock db row t) :
    (t.get c).isSome = (db.assignments.get c).isSome := by
  have hr : ((releasedNext clock db row).get c).isSome = (db.assignments.get c).isSome := by
    unfold releasedNext releaseNextCohort
    simp only
    split
    · rfl
    · simp only [releaseSystemRolloutNextCohort, Keyed.get_update, Option.isSome_map]
      rfl
  cases h with
  | nothing => rfl
  | queued | progressing => exact hr

theorem ActsOn.isSome {action} (h : ActsOn now row t t' action) :
    (t'.get c).isSome = (t.get c).isSome := by
  cases action with
  | rollback => exact Begins.isSome h
  | retry =>
    rw [show t' = _ from h, retrySystemRolloutAssignments, Keyed.get_update, Option.isSome_map]
  | abort =>
    rw [show t' = _ from h, abortSystemRolloutPendingAssignments, Keyed.get_update,
      Option.isSome_map]
  | _ => rw [show t' = _ from h]

theorem Stepped.row_isSome (h : Stepped db e db') (ha : (db.assignments.get c).isSome) :
    (db'.assignments.get c).isSome := by
  cases h with
  | refused | registered => exact ha
  | @started _ id request _ _ previous deadline planned hst =>
    rw [hst.assignments]
    rcases @get_ensureAll c db.assignments request.releaseID previous id deadline planned with
      hs | ⟨-, a, hg, -⟩
    · exact hs ▸ ha
    · exact Option.isSome_of_eq_some hg
  | acted _ hat => exact hat.assignments.isSome ▸ ha
  | reconciled _ hrc =>
    cases hrc with
    | back _ _ hrw _ => exact hrw.assignments ▸ ha
    | forward row' t _ hf =>
      rw [← hf.released.isSome] at ha
      by_cases hb : row'.state = .rollingBack
      · exact (hf.back hb).isSome ▸ ha
      · exact hf.forward hb ▸ ha
  | observed ho _ _ =>
    generalize db'.assignments = after at ho ⊢
    cases ho with
    | nothing => exact ha
    | seeded =>
      rw [Keyed.get_insert]
      split
      · rfl
      · exact ha
    | written =>
      rw [Keyed.get_set]
      split
      · exact Option.isSome_map.trans ha
      · exact ha
  | configured hc => exact hc.assignments ▸ ha

theorem Stepped.moves (h : Stepped db e db') (ha : db.assignments.get c = some a) :
    ∃ a', db'.assignments.get c = some a' ∧ RowMoves db db' e a a' := by
  obtain ⟨a', ha'⟩ := Option.isSome_iff_exists.mp (h.row_isSome (Option.isSome_of_eq_some ha))
  rcases h.rows ha' with ⟨a1, ha1, hm⟩ | ⟨hn, -⟩
  · obtain rfl : a1 = a := Option.some.inj (ha1.symm.trans ha)
    exact ⟨a', ha', hm⟩
  · rw [hn] at ha
    cases ha

/-! ## One rollout, one step -/

inductive RolloutMoves (db : DB) : Event → DB → RolloutRow → RolloutRow → Prop
  | kept {e : Event} {db' : DB} {row : RolloutRow} : RolloutMoves db e db' row row
  | acted {clock : Clock} {request : ActRequest} {db' : DB} {row row' : RolloutRow}
      (hid : request.id = row.id) (h : Acts clock request.action db row db' row') :
      RolloutMoves db (.act clock request) db' row row'
  | back {clock : Clock} {id : UUID} {db' : DB} {row row' : RolloutRow} (hid : id = row.id)
      (hrow : row.state = .rollingBack) (h : Rewrites db db' row row')
      (hstate : row'.state = rollbackVerdict (countsOf clock db row)) :
      RolloutMoves db (.reconcile clock id) db' row row'
  | forward {clock : Clock} {id : UUID} {db' : DB} {row row' : RolloutRow} {t : Assignments}
      (hid : id = row.id) (hrow : row.state = .queued ∨ row.state = .progressing)
      (h : Forward clock db row db' row' t) : RolloutMoves db (.reconcile clock id) db' row row'

theorem RolloutMoves.continues (h : RolloutMoves db e db' row row') :
    row.Continues row' := by
  cases h with
  | kept => exact ⟨rfl, rfl, rfl, rfl, rfl⟩
  | acted _ h | back _ _ h _ | forward _ _ h => exact h.continues

theorem get_set_of_continues {table : Keyed RolloutRow.id} (hr : table.get id = some row)
    (hc : row.Continues row') :
    (table.set row').get i = if row.id = i then some row' else table.get i := by
  rw [Keyed.get_set, hc.id]
  split
  next hi =>
    rw [← hi, Keyed.key_of_get hr, hr]
    rfl
  · rfl

theorem Stepped.rollouts (h : Stepped db e db') (hr' : db'.rollouts.get i = some row') :
    (∃ row, db.rollouts.get i = some row ∧ RolloutMoves db e db' row row') ∨
      db.rollouts.get i = none ∧ ∃ clock request previous deadline planned,
        e = .start clock i request ∧ Starts db i request db' row' previous deadline planned := by
  cases h with
  | refused | registered => exact .inl ⟨row', hr', .kept⟩
  | @started clock id request _ row previous deadline planned hs =>
    rw [hs.rollouts, Keyed.get_insert] at hr'
    split at hr'
    next hi =>
      cases hr'
      obtain rfl : id = i := hs.rowID.symm.trans hi
      exact .inr ⟨hi ▸ hs.fresh, clock, request, previous, deadline, planned, rfl, hs⟩
    · exact .inl ⟨row', hr', .kept⟩
  | acted hr hat =>
    rw [hat.rollouts, get_set_of_continues hr hat.continues] at hr'
    split at hr'
    next hi =>
      cases hr'
      have hid := Keyed.key_of_get hr
      exact .inl ⟨_, by rw [← hi, hid]; exact hr, .acted hid.symm hat⟩
    · exact .inl ⟨row', hr', .kept⟩
  | reconciled hr hrc =>
    have hid := Keyed.key_of_get hr
    cases hrc with
    | back row1 hb hrw hst =>
      rw [hrw.rollouts, get_set_of_continues hr hrw.continues] at hr'
      split at hr'
      next hi =>
        cases hr'
        exact .inl ⟨_, by rw [← hi, hid]; exact hr, .back hid.symm hb hrw hst⟩
      · exact .inl ⟨row', hr', .kept⟩
    | forward row1 t ha hf =>
      rw [hf.rollouts, get_set_of_continues hr hf.continues] at hr'
      split at hr'
      next hi =>
        cases hr'
        exact .inl ⟨_, by rw [← hi, hid]; exact hr, .forward hid.symm ha hf⟩
      · exact .inl ⟨row', hr', .kept⟩
  | observed _ hrl _ =>
    rw [hrl] at hr'
    exact .inl ⟨row', hr', .kept⟩
  | configured hc =>
    rw [hc.rollouts] at hr'
    exact .inl ⟨row', hr', .kept⟩

theorem Stepped.rollout_isSome (h : Stepped db e db')
    (hr : (db.rollouts.get i).isSome) : (db'.rollouts.get i).isSome := by
  obtain ⟨row, hr⟩ := Option.isSome_iff_exists.mp hr
  cases h with
  | refused | registered => exact Option.isSome_of_eq_some hr
  | started hs =>
    rw [hs.rollouts, Keyed.get_insert]
    split
    · rfl
    · exact Option.isSome_of_eq_some hr
  | acted hr1 hat =>
    rw [hat.rollouts, get_set_of_continues hr1 hat.continues]
    split
    · rfl
    · exact Option.isSome_of_eq_some hr
  | reconciled hr1 hrc =>
    cases hrc with
    | back _ _ hrw _ =>
      rw [hrw.rollouts, get_set_of_continues hr1 hrw.continues]
      split
      · rfl
      · exact Option.isSome_of_eq_some hr
    | forward _ _ _ hf =>
      rw [hf.rollouts, get_set_of_continues hr1 hf.continues]
      split
      · rfl
      · exact Option.isSome_of_eq_some hr
  | observed _ hrl _ => exact hrl ▸ Option.isSome_of_eq_some hr
  | configured hc => exact hc.rollouts ▸ Option.isSome_of_eq_some hr

theorem Stepped.continues (h : Stepped db e db') (hr : db.rollouts.get i = some row)
    (hr' : db'.rollouts.get i = some row') : row.Continues row' := by
  rcases h.rollouts hr' with ⟨row1, hr1, hm⟩ | ⟨hn, -⟩
  · obtain rfl : row1 = row := Option.some.inj (hr1.symm.trans hr)
    exact hm.continues
  · rw [hn] at hr
    cases hr

/-! ## Assignments and their rollouts -/

def DB.Linked (db : DB) : Prop :=
  ∀ c a i, db.assignments.get c = some a → a.rolloutID = some i → (db.rollouts.get i).isSome

theorem RowMoves.rolloutID (h : RowMoves db db' e a a') : a'.rolloutID = a.rolloutID ∨
      ∃ clock id request, e = .start clock id request ∧ a'.rolloutID = some id ∧
        a'.phase = .pending ∧ db.rollouts.get id = none ∧ (db'.rollouts.get id).isSome := by
  cases h with
  | ensured _ _ hf hsd _ he => exact .inr ⟨_, _, _, rfl, he.of, he.pending, hf, hsd⟩
  | _ => exact .inl rfl

theorem DB.Linked.step (h : db.Linked) (hsp : Stepped db e db') : db'.Linked := by
  intro c a' i ha' hof
  rcases hsp.rows ha' with ⟨a, ha, hm⟩ | ⟨-, hn⟩
  · rcases hm.rolloutID with hs | ⟨_, id, _, -, hid, -, -, hsd⟩
    · exact hsp.rollout_isSome (h c a i ha (hs ▸ hof))
    · rw [hof] at hid
      exact Option.some.inj hid ▸ hsd
  · cases hn with
    | seeded => cases hof
    | ensured _ _ _ hsd _ he =>
      rw [he.of] at hof
      exact Option.some.inj hof ▸ hsd

end Astronomer.Delivery.SystemRollout
