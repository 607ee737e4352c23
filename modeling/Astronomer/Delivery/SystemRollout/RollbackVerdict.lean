import Astronomer.Delivery.SystemRollout.Exclusive

/-!
# How a rollback ends

A pass over a rollout that is rolling back only counts its targets, and no operator's action
is legal meanwhile. A rollback without targets therefore never ends.
-/

namespace Astronomer.Delivery.SystemRollout

variable {env : Env} {clock : Clock} {db db' : DB} {e : Event} {es : List Event} {id : UUID}
  {row row' : RolloutRow} {a a' : AssignmentRow}

/-! ## The number check always passes -/

structure DB.Counted (db : DB) : Prop where
  linked : db.Linked
  counted : ∀ i row, db.rollouts.get i = some row →
    db.assignments.count (·.isOf i) ≤ row.totalClusters

theorem Stepped.of_before (h : Stepped db e db') {c i} (hr : db.rollouts.get i = some row)
    (ha' : db'.assignments.get c = some a') (hof : a'.rolloutID = some i) :
    ∃ a, db.assignments.get c = some a ∧ a.rolloutID = some i ∧ RowMoves db db' e a a' := by
  rcases h.rows ha' with ⟨a, ha, hm⟩ | ⟨-, hn⟩
  · rcases hm.rolloutID with hs | ⟨_, j, _, -, hj, -, hf, -⟩
    · exact ⟨a, ha, hs ▸ hof, hm⟩
    · obtain rfl : j = i := Option.some.inj (hj.symm.trans hof)
      rw [hf] at hr
      cases hr
  · cases hn with
    | seeded => cases hof
    | @ensured _ j _ _ _ _ _ hf _ _ he =>
      obtain rfl : j = i := Option.some.inj (he.of.symm.trans hof)
      rw [hf] at hr
      cases hr

theorem DB.Counted.step (h : db.Counted) (hsp : Stepped db e db') : db'.Counted := by
  refine ⟨h.linked.step hsp, fun i row' hr' => ?_⟩
  rcases hsp.rollouts hr' with ⟨row, hr, hm⟩ | ⟨hn, _, _, _, _, _, rfl, hst⟩
  · rw [hm.continues.totalClusters]
    refine le_trans (Keyed.count_le_count_of_get fun c a' ha' hof => ?_) (h.counted i row hr)
    obtain ⟨a, ha, hof0, -⟩ := hsp.of_before hr ha' (AssignmentRow.isOf_iff.mp hof)
    exact ⟨a, ha, AssignmentRow.isOf_iff.mpr hof0⟩
  · -- the rows of a new rollout are the planned clusters
    rw [hst.totalClusters, ← List.length_map PlannedCluster.clusterID]
    refine Keyed.count_le_length fun a' ha' hof => ?_
    have hg := Keyed.get_of_mem ha'
    rw [hst.assignments] at hg
    rcases get_ensureAll with hs | ⟨⟨item, hi, hid⟩, -⟩
    · have hl := h.linked _ a' i (hs ▸ hg) (AssignmentRow.isOf_iff.mp hof)
      rw [hn] at hl
      cases hl
    · exact List.mem_map.mpr ⟨item, hi, hid⟩

theorem DB.Counted.numbersValid (h : db.Counted) (hr : db.rollouts.get id = some row) :
    (countsOf clock db row).ready + (countsOf clock db row).failed ≤ row.totalClusters ∧
      (countsOf clock db row).released ≤ row.totalClusters := by
  have hid := Keyed.key_of_get hr
  have hc := h.counted id row hr
  rw [← hid] at hc
  constructor
  · refine le_trans (Keyed.count_add_count_le (fun a ha => ?_) fun a ha => ?_) hc
    · simp only [Bool.and_eq_true, beq_iff_eq] at ha
      simp [ha.1, ha.2]
    · exact (Bool.and_eq_true_iff.mp ha).1
  · exact le_trans (Keyed.count_le_count fun a ha => (Bool.and_eq_true_iff.mp ha).1) hc

/-! ## The verdict -/

theorem writeRollout_succeeds {f hf} {counters : DB.Counters}
    (h : counters.ready + counters.failed ≤ row.totalClusters ∧
      counters.released ≤ row.totalClusters) :
    ∃ db', db.writeRollout row counters f hf = .ok db' :=
  ⟨_, dif_pos h⟩

theorem reconcileRollback_succeeds {p : Pass}
    (h : p.current.counters.ready + p.current.counters.failed ≤ p.row.totalClusters ∧
      p.current.counters.released ≤ p.row.totalClusters) :
    ∃ db', reconcileRollback clock p = .ok db' := by
  have hf : ∀ state code, ∃ db', finish clock.now p state code = .ok db' := by
    intro state code
    obtain ⟨mid, hm⟩ : ∃ mid, p.db.finishSystemRollout p.row state p.current.counters code
        clock.now = .ok mid := writeRollout_succeeds h
    exact ⟨_, by simp only [finish, hm]; rfl⟩
  unfold reconcileRollback
  split
  · exact hf _ _
  · split
    · exact hf _ _
    · unfold updateCountersAndCommit DB.updateSystemRolloutCounters
      exact writeRollout_succeeds h

theorem DB.Counted.stateOf_reconcile (h : db.Counted) (hr : db.rollouts.get id = some row)
    (hb : row.state = .rollingBack) :
    (SystemRollout.step env db (.reconcile clock id)).stateOf id =
      some (rollbackVerdict (countsOf clock db row)) := by
  obtain ⟨db', hc⟩ : ∃ db', reconcileRollback clock (readPass clock.dbNow db row) = .ok db' :=
    reconcileRollback_succeeds (@DB.Counted.numbersValid clock db id row h hr)
  have ho : reconcileOne clock id db = .ok db' := by
    simp [reconcileOne, hr, hb, hc, RolloutState.terminal]
  have hstep : SystemRollout.step env db (.reconcile clock id) = db' := by
    simp [SystemRollout.step, Event.transaction, ho, commitOr]
  obtain ⟨row', hr', hst⟩ := reconcileRollback_ok hb hc
  have hrl : db'.rollouts = db.rollouts.set row' := hr'.rollouts
  rw [hstep, DB.stateOf, hrl, get_set_of_continues hr hr'.continues,
    if_pos (Keyed.key_of_get hr), Option.map_some, hst]
  rfl

def DB.Has (db : DB) (id : UUID) (q : Phase → Bool) : Prop :=
  ∃ a ∈ db.assignments.rows, a.rolloutID = some id ∧ q a.phase
deriving Decidable

theorem count_pos_iff_has {q} :
    0 < db.assignments.count (fun a => a.isOf id && q a.phase) ↔ db.Has id q := by
  rw [Keyed.count_pos]
  simp only [Bool.and_eq_true, AssignmentRow.isOf_iff, DB.Has]

theorem rollbackComplete_iff : rollbackComplete (countsOf clock db row) ↔
      db.Has row.id (·.rollbackTarget) ∧ ∀ a ∈ db.assignments.rows, a.rolloutID = some row.id →
        a.phase.rollbackTarget → a.phase = .rolledBack := by
  have hfl : (countsOf clock db row).rollbackFailed = 0 ↔
    ¬ db.Has row.id (· == .rollbackFailed) := by
    rw [← count_pos_iff_has, Nat.pos_iff_ne_zero, not_not]
    rfl
  have ht : 0 < (countsOf clock db row).rollbackTargets ↔ db.Has row.id (·.rollbackTarget) :=
    count_pos_iff_has
  have hb : (countsOf clock db row).rolledBack = (countsOf clock db row).rollbackTargets ↔
      ∀ a ∈ db.assignments.rows, (a.isOf row.id && a.phase.rollbackTarget) →
        (a.isOf row.id && a.phase == .rolledBack) :=
    Keyed.count_eq_count fun a ha => by
      simp only [Bool.and_eq_true, beq_iff_eq] at ha ⊢
      exact ⟨ha.1, by rw [ha.2]; rfl⟩
  simp only [rollbackComplete, Bool.and_eq_true, beq_iff_eq, decide_eq_true_eq, hfl, ht,
    hb, AssignmentRow.isOf_iff]
  constructor
  · rintro ⟨⟨-, htg⟩, hal⟩
    exact ⟨htg, fun a ha hof hph => (hal a ha ⟨hof, hph⟩).2⟩
  · rintro ⟨htg, hal⟩
    refine ⟨⟨?_, htg⟩, fun a ha h => ⟨h.1, hal a ha h.1 h.2⟩⟩
    rintro ⟨a, ha, hof, hph⟩
    have hph : a.phase = .rollbackFailed := by simpa using hph
    have hr := hal a ha hof (by rw [hph]; rfl)
    rw [hph] at hr
    cases hr

/-- The rollback of a rollout is decided: a target has failed, or there are targets and none of
them is still rolling back. -/
def DB.Decided (db : DB) (id : UUID) : Prop :=
  db.Has id (· == .rollbackFailed) ∨
    db.Has id (·.rollbackTarget) ∧ ¬ db.Has id (· == .rollingBack)

theorem Phase.rollbackTarget_iff {phase : Phase} : phase.rollbackTarget ↔
    phase = .rollingBack ∨ phase = .rolledBack ∨ phase = .rollbackFailed := by
  cases phase <;> simp [Phase.rollbackTarget]

theorem rollbackVerdict_ne_rollingBack :
    rollbackVerdict (countsOf clock db row) ≠ .rollingBack ↔ db.Decided row.id := by
  have hfl : 0 < (countsOf clock db row).rollbackFailed ↔ db.Has row.id (· == .rollbackFailed) :=
    @count_pos_iff_has db row.id (· == .rollbackFailed)
  unfold rollbackVerdict DB.Decided
  rw [← hfl]
  by_cases hps : 0 < (countsOf clock db row).rollbackFailed
  · simp [hps]
  · have hn : ¬ db.Has row.id (· == .rollbackFailed) := fun h => hps (hfl.mpr h)
    simp only [hps, if_false, false_or]
    have hc : rollbackComplete (countsOf clock db row) ↔
        db.Has row.id (·.rollbackTarget) ∧ ¬ db.Has row.id (· == .rollingBack) := by
      rw [rollbackComplete_iff]
      refine and_congr_right fun _ => ⟨fun hal => ?_, fun hal a ha hof hph => ?_⟩
      · rintro ⟨a, ha, hof, hph⟩
        have hph : a.phase = .rollingBack := by simpa using hph
        have hr := hal a ha hof (by rw [hph]; rfl)
        rw [hph] at hr
        cases hr
      · rcases Phase.rollbackTarget_iff.mp hph with hp | hp | hp
        · exact absurd ⟨a, ha, hof, by simp [hp]⟩ hal
        · exact hp
        · exact absurd ⟨a, ha, hof, by simp [hp]⟩ hn
    rw [← hc]
    split <;> simp_all

theorem rollbackVerdict_mem :
    some (rollbackVerdict (countsOf clock db row)) ∈ [some .rolledBack, some .rollbackFailed] ↔
      db.Decided row.id := by
  rw [← @rollbackVerdict_ne_rollingBack clock]
  rcases rollbackVerdict_cases (countsOf clock db row) with ⟨h, -⟩ | ⟨h, -⟩ | h <;> simp [h]

/-! ## The operator meanwhile -/

theorem actionTransition_rollingBack {action hasPrevious next} :
    actionTransition .rollingBack action hasPrevious ≠ .ok next := by
  cases action <;> cases hasPrevious <;> simp [actionTransition]

theorem stateOf_act_rollingBack {request : ActRequest} (hr : db.rollouts.get request.id = some row)
    (hb : row.state = .rollingBack) :
    (step env db (.act clock request)).stateOf request.id = some .rollingBack := by
  have hsp := @step_cases env db (.act clock request)
  generalize SystemRollout.step env db (.act clock request) = db' at hsp ⊢
  cases hsp with
  | refused => simp [DB.stateOf, hr, hb]
  | acted hr1 hat =>
    obtain rfl := Option.some.inj (hr1.symm.trans hr)
    obtain ⟨code, ht⟩ := hat.transition
    rw [hb] at ht
    exact absurd ht actionTransition_rollingBack

def Event.Drives (id : UUID) : Event → Prop
  | .act _ request => request.id = id
  | .reconcile _ i => i = id
  | _ => False

theorem DB.Counted.drives_iff (h : db.Counted) (hb : db.stateOf id = some .rollingBack) :
    (∃ e : Event, e.Drives id ∧ (SystemRollout.step env db e).stateOf id ≠ some .rollingBack) ↔
      db.Decided id := by
  obtain ⟨row, hr, hst⟩ := Option.map_eq_some_iff.mp hb
  obtain rfl := Keyed.key_of_get hr
  constructor
  · rintro ⟨e, hdr, hc⟩
    cases e with
    | act clock request =>
      have hid : request.id = row.id := hdr
      rw [← hid] at hr hc
      exact absurd (stateOf_act_rollingBack hr hst) hc
    | reconcile clock i =>
      obtain rfl : i = row.id := hdr
      rw [h.stateOf_reconcile hr hst] at hc
      exact rollbackVerdict_ne_rollingBack.mp fun heq => hc (congrArg some heq)
    | _ => exact hdr.elim
  · intro hd
    refine ⟨.reconcile ⟨0, 0⟩ row.id, rfl, ?_⟩
    rw [h.stateOf_reconcile hr hst]
    exact fun heq => rollbackVerdict_ne_rollingBack.mpr hd (Option.some.inj heq)

/-- **How a rollback ends.** In every state that a run reaches with the rollout rolling back:
once no assignment is `rolling_back` any more, a pass ends the rollback exactly when it has
a target; and a pass or an action changes the state exactly when the rollback is decided. -/
theorem rollback_ends_iff (env : Env) (h0 : db.Counted)
    (hback : (run (step env) db es).stateOf id = some .rollingBack) :
    (¬ (run (step env) db es).Has id (· == .rollingBack) → ∀ clock,
      ((step env (run (step env) db es) (.reconcile clock id)).stateOf id ∈
          [some .rolledBack, some .rollbackFailed] ↔
        (run (step env) db es).Has id (·.rollbackTarget))) ∧
    ((∃ e : Event, e.Drives id ∧
        (step env (run (step env) db es) e).stateOf id ≠ some .rollingBack) ↔
      (run (step env) db es).Decided id) := by
  have hc : (run (step env) db es).Counted :=
    run_preserves (fun db e h => h.step (step_cases db e)) h0
  refine ⟨fun hn clock => ?_, hc.drives_iff hback⟩
  obtain ⟨row, hr, hst⟩ := Option.map_eq_some_iff.mp hback
  obtain rfl := Keyed.key_of_get hr
  rw [hc.stateOf_reconcile hr hst, rollbackVerdict_mem]
  constructor
  · rintro (⟨a, ha, hof, hph⟩ | ⟨htg, -⟩)
    · have hph : a.phase = .rollbackFailed := by simpa using hph
      exact ⟨a, ha, hof, by rw [hph]; rfl⟩
    · exact htg
  · intro htg
    exact .inr ⟨htg, hn⟩

namespace Fleet

def returnedRun : List Event :=
  [start 1 2 strategy, act 1 1 .approve, pass 1, act 1 3 .rollback, runs 11 1 'a', runs 12 1 'a',
    incompatible 13]

def unreleasedRun : List Event :=
  [start 1 2 strategy, act 1 1 .approve, act 1 2 .pause, act 1 3 .rollback]

theorem db_counted : DB.Counted Fleet.db := by
  constructor
  · intro c a i ha
    cases ha
  · intro i row hr
    cases hr

end Fleet

open Fleet in
theorem returnedRun_ends :
    (run (step Fleet.env) Fleet.db returnedRun).stateOf 1 = some .rollingBack ∧
      ∀ clock, (step Fleet.env (run (step Fleet.env) Fleet.db returnedRun)
          (.reconcile clock 1)).stateOf 1 ∈ [some .rolledBack, some .rollbackFailed] := by
  have hb : (run (step Fleet.env) Fleet.db returnedRun).stateOf 1 = some .rollingBack := by
    decide +kernel
  refine ⟨hb, fun clock => ?_⟩
  exact ((rollback_ends_iff Fleet.env db_counted hb).1 (by decide +kernel) clock).mpr
    (by decide +kernel)

open Fleet in
/-- **A rollback without targets is stuck**: no assignment is `rolling_back`, and neither a pass
nor an action ends it. -/
theorem unreleasedRun_stuck :
    (run (step Fleet.env) Fleet.db unreleasedRun).stateOf 1 = some .rollingBack ∧
      ¬ (run (step Fleet.env) Fleet.db unreleasedRun).Has 1 (· == .rollingBack) ∧
      ∀ e : Event, e.Drives 1 →
        (step Fleet.env (run (step Fleet.env) Fleet.db unreleasedRun) e).stateOf 1 =
          some .rollingBack := by
  have hc : (run (step Fleet.env) Fleet.db unreleasedRun).Counted :=
    run_preserves (fun db e h => h.step (step_cases db e)) db_counted
  have hb : (run (step Fleet.env) Fleet.db unreleasedRun).stateOf 1 = some .rollingBack := by
    decide +kernel
  have hu : ¬ (run (step Fleet.env) Fleet.db unreleasedRun).Decided 1 := by
    unfold DB.Decided
    decide +kernel
  refine ⟨hb, by decide +kernel, fun e hdr => ?_⟩
  by_contra hch
  exact hu ((hc.drives_iff hb).mp ⟨e, hdr, hch⟩)

end Astronomer.Delivery.SystemRollout
