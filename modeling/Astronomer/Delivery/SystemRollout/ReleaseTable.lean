import Astronomer.Delivery.SystemRollout.Exclusive

/-!
# The released release and the rollouts

A rollout that succeeds promotes its release and retires its previous one; one that is rolled
back leaves the table alone. So after a rollback the released release is the previous one
exactly when neither the rollout nor any other was promoted meanwhile.
-/

namespace Astronomer.Delivery.SystemRollout

variable {env : Env} {db db' : DB} {e : Event} {es : List Event} {row row' : RolloutRow}
  {a a' : AssignmentRow}

def PreviousReleased (db : DB) (row : RolloutRow) : Prop :=
  ∃ r ∈ db.releases.current, row.previousReleaseID = some r.id
deriving Decidable

/-- A finished rollout is brought back only while no rollout is active and its previous release
is the released one. -/
def ReleaseUnmoved (db : DB) (e : Event) : Prop :=
  ∀ row ∈ reactivated db e, db.countActiveSystemRollouts = 0 ∧ PreviousReleased db row
deriving Decidable

/-- The release table follows the rollouts: what every active rollout goes back to is released,
and assignments that went back want their rollout's previous release. -/
structure DB.InStep (db : DB) : Prop where
  one : db.countActiveSystemRollouts ≤ 1
  previous : ∀ i row, db.rollouts.get i = some row → row.state.active →
    PreviousReleased db row
  linked : db.Linked
  targets : ∀ c a i row, db.assignments.get c = some a → a.rolloutID = some i →
    db.rollouts.get i = some row → a.phase.rollbackTarget →
      row.previousReleaseID = some a.desiredReleaseID

/-! ## Rows -/

theorem observedPhase_rollbackTarget {o r} {phase : Phase}
    (h : (observedPhase o r phase).rollbackTarget) : phase.rollbackTarget := by
  unfold observedPhase at h
  split at h
  · exact h
  · split at h
    next hb =>
      rcases hb.2 with rfl | rfl <;> rfl
    · split at h
      · cases h
      · split at h
        next hb =>
          rcases hb.2 with rfl | rfl <;> rfl
        · split at h
          · cases h
          · split at h
            · exact h
            · cases h

theorem RowMoves.rollbackTarget (h : RowMoves db db' e a a')
    (htg : a'.phase.rollbackTarget) :
    a.phase.rollbackTarget ∧ a'.desiredReleaseID = a.desiredReleaseID ∧
        a'.rolloutID = a.rolloutID ∨
      ∃ row, db.rollouts.get row.id = some row ∧ a'.rolloutID = some row.id ∧
        row.previousReleaseID = some a'.desiredReleaseID := by
  cases h with
  | kept => exact .inl ⟨htg, rfl, rfl⟩
  | ensured _ _ _ _ _ he =>
    rw [he.pending] at htg
    cases htg
  | observed hr => exact .inl ⟨observedPhase_rollbackTarget htg, rfl, rfl⟩
  | retried | aborted | released => cases htg
  | rolledBack hrw _ hp hb | sentBack hrw _ hp hb =>
    exact .inr ⟨_, Keyed.key_of_get hrw ▸ hrw, hb.1, hp⟩
  | releasedAndSentBack hrw hf _ hp => exact .inr ⟨_, Keyed.key_of_get hrw ▸ hrw, hf.of, hp⟩

/-! ## The release table -/

theorem Stepped.current (h : Stepped db e db') {r} (hc : db.releases.current = some r) :
    db'.releases.current = some r ∨
      ∃ row row', db.rollouts.get row.id = some row ∧ row.state.active ∧
        db'.rollouts.get row.id = some row' ∧ row'.state = .succeeded ∧
        ∃ r', db'.releases.current = some r' ∧ r'.id = row.releaseID := by
  cases h with
  | refused | registered => exact .inl hc
  | started hst => exact .inl (hst.releases ▸ hc)
  | acted _ hat => exact .inl (hat.releases ▸ hc)
  | reconciled hr hrc =>
    cases hrc with
    | back _ _ hrw _ => exact .inl (hrw.releases ▸ hc)
    | forward row' t ha hf =>
      by_cases hsc : row'.state = .succeeded
      · refine .inr ⟨_, row', Keyed.key_of_get hr ▸ hr, ?_, ?_, hsc, (hf.promoted hsc).current⟩
        · rcases ha with hs | hs <;> rw [hs] <;> rfl
        · rw [hf.rollouts, get_set_of_continues hr hf.continues, if_pos rfl]
      · exact .inl (hf.releases hsc ▸ hc)
  | observed _ _ hrl => exact .inl (hrl ▸ hc)
  | configured hcn => exact .inl (hcn.current r hc)

theorem DB.InStep.previous_step (h : db.InStep) (hok : ReleaseUnmoved db e)
    (hsp : Stepped db e db') {i} (hrw' : db'.rollouts.get i = some row')
    (ha : row'.state.active) : PreviousReleased db' row' := by
  rcases hsp.rollouts hrw' with ⟨row, hrw, hm⟩ | ⟨-, _, _, _, _, _, rfl, hs⟩
  · have hrw1 : db.rollouts.get row.id = some row := Keyed.key_of_get hrw ▸ hrw
    -- the rollout was active, or nothing was
    have hbf : PreviousReleased db row ∧
        (row.state.active ∨ db.countActiveSystemRollouts = 0) := by
      rcases hm.active hrw1 ha with hbf | hb
      · exact ⟨h.previous i row hrw hbf, .inl hbf⟩
      · exact ⟨(hok row hb).2, .inr (hok row hb).1⟩
    obtain ⟨⟨r, hr, hp⟩, hsr⟩ := hbf
    rcases hsp.current hr with hc | ⟨other, other', hot, ha1, hot', hdone, -⟩
    · exact ⟨r, hc, hm.continues.previousReleaseID.trans hp⟩
    · exfalso
      rcases hsr with hsr | hz
      · have heq : row = other := Keyed.count_le_one.mp h.one row (Keyed.mem_of_get hrw) other
          (Keyed.mem_of_get hot) hsr ha1
        subst heq
        rw [Keyed.key_of_get hrw, hrw'] at hot'
        rw [Option.some.inj hot', hdone] at ha
        cases ha
      · have hi := Keyed.count_eq_zero.mp hz other (Keyed.mem_of_get hot)
        rw [ha1] at hi
        cases hi
  · obtain ⟨r, hr, hid⟩ := Option.map_eq_some_iff.mp hs.current
    exact ⟨r, hs.releases ▸ hr, hs.previousReleaseID.trans (congrArg some hid.symm)⟩

theorem DB.InStep.targets_step (h : db.InStep) (hsp : Stepped db e db') {c i}
    (ha' : db'.assignments.get c = some a') (hof : a'.rolloutID = some i)
    (hr' : db'.rollouts.get i = some row') (htg : a'.phase.rollbackTarget) :
    row'.previousReleaseID = some a'.desiredReleaseID := by
  rcases hsp.rows ha' with ⟨a, ha, hm⟩ | ⟨-, hn⟩
  · rcases hm.rollbackTarget htg with ⟨hbf, hd, hs⟩ | ⟨row, hr, hid, hpv⟩
    · have hof0 : a.rolloutID = some i := hs ▸ hof
      obtain ⟨row, hr⟩ := Option.isSome_iff_exists.mp (h.linked c a i ha hof0)
      rw [(hsp.continues hr hr').previousReleaseID, hd]
      exact h.targets c a i row ha hof0 hr hbf
    · obtain rfl : row.id = i := Option.some.inj (hid.symm.trans hof)
      rw [(hsp.continues hr hr').previousReleaseID, hpv]
  · cases hn with
    | seeded => cases hof
    | ensured _ _ _ _ _ he =>
      rw [he.pending] at htg
      cases htg

theorem DB.InStep.step (h : db.InStep) (hok : ReleaseUnmoved db e) : (step env db e).InStep where
  one := one_active_step h.one fun row hr => (hok row hr).1
  previous _ _ hr' ha := h.previous_step hok (step_cases db e) hr' ha
  linked := h.linked.step (step_cases db e)
  targets _ _ _ _ ha' hof hr' htg := h.targets_step (step_cases db e) ha' hof hr' htg

/-! ## Entering `rolled_back` -/

/-- Whenever a step takes a rollout into `rolled_back`, its previous release is the released
one, and its assignments that were rolled back want that release. -/
def RolledBackReleased (db db' : DB) : Prop :=
  ∀ row ∈ db'.rollouts.rows, row.state = .rolledBack → db.stateOf row.id ≠ some .rolledBack →
    PreviousReleased db' row ∧
      ∀ a ∈ db'.assignments.rows, a.rolloutID = some row.id → a.phase = .rolledBack →
        row.previousReleaseID = some a.desiredReleaseID
deriving Decidable

theorem RolloutMoves.rolledBack (h : RolloutMoves db e db' row row')
    (hst : row'.state = .rolledBack) (hne : row.state ≠ .rolledBack) :
    row.state = .rollingBack ∧ db'.releases = db.releases := by
  cases h with
  | kept => exact absurd hst hne
  | acted _ hat =>
    obtain ⟨code, ht⟩ := hat.transition
    rw [hst] at ht
    rcases actionTransition_ok ht with h | h | h | h | h | h <;> cases h.2.2
  | back _ hb hrw _ => exact ⟨hb, hrw.releases⟩
  | forward _ _ hf => exact absurd hst hf.live.1

theorem DB.InStep.rolledBackReleased (h : db.InStep) (hok : ReleaseUnmoved db e) :
    RolledBackReleased db (SystemRollout.step env db e) := by
  intro row' hmem hst he
  have hsp := @step_cases env db e
  have hrw' := Keyed.get_of_mem hmem
  have haf : (SystemRollout.step env db e).InStep := h.step hok
  refine ⟨?_, fun a ha hof hph =>
    haf.targets _ a _ row' (Keyed.get_of_mem ha) hof hrw' (by rw [hph]; rfl)⟩
  rcases hsp.rollouts hrw' with ⟨row, hrw, hm⟩ | ⟨-, _, _, _, _, _, -, hs⟩
  · have hne : row.state ≠ .rolledBack := by
      intro hbf
      exact he (by rw [DB.stateOf, hrw, Option.map_some, hbf])
    obtain ⟨hb, hrl⟩ := hm.rolledBack hst hne
    obtain ⟨r, hr, hp⟩ := h.previous _ row hrw (by rw [hb]; rfl)
    exact ⟨r, hrl ▸ hr, hm.continues.previousReleaseID.trans hp⟩
  · rw [hs.state] at hst
    cases hst

/-- **The released release follows rollbacks** in every run in which a finished rollout is
brought back only while no rollout is active and its previous release is the released one. -/
theorem rolledBack_previous_released (env : Env) (h0 : db.InStep)
    (hmeets : RunMeets (step env) ReleaseUnmoved db es) :
    RunMeets (step env) (fun db e => RolledBackReleased db (step env db e)) db es :=
  RunMeets.of_invariant (P := DB.InStep) (fun _ _ h hok => h.step hok)
    (fun _ _ h hok => h.rolledBackReleased hok) hmeets h0

namespace Fleet

theorem db_inStep : Fleet.db.InStep where
  one := by decide
  previous _ _ hr := by cases hr
  linked _ _ _ ha := by cases ha
  targets _ _ _ _ ha := by cases ha

def rolledBackRun : List Event :=
  [start 1 2 strategy, act 1 1 .approve, pass 1, act 1 3 .rollback, runs 11 1 'a', runs 12 1 'a',
    runs 13 1 'a', pass 1]

def undoneRun : List Event :=
  [start 1 2 strategy, act 1 1 .approve, pass 1, runs 11 2 'b', runs 12 2 'b', runs 13 2 'b',
    pass 1, act 1 4 .rollback, runs 11 1 'a', runs 12 1 'a', runs 13 1 'a', pass 1]

end Fleet

open Fleet in
theorem rolledBackRun_released :
    RunMeets (step Fleet.env) (fun db e => RolledBackReleased db (step Fleet.env db e)) Fleet.db
      rolledBackRun ∧
    (run (step Fleet.env) Fleet.db rolledBackRun).stateOf 1 = some .rolledBack :=
  ⟨rolledBack_previous_released Fleet.env Fleet.db_inStep (by decide +kernel), by decide +kernel⟩

open Fleet in
theorem undoneRun_not_released :
    ¬ RunMeets (step Fleet.env) (fun db e => RolledBackReleased db (step Fleet.env db e)) Fleet.db
      undoneRun ∧
    (run (step Fleet.env) Fleet.db undoneRun).stateOf 1 = some .rolledBack ∧
    (run (step Fleet.env) Fleet.db undoneRun).getCurrentSystemRolloutRelease = some 2 := by
  decide +kernel

end Astronomer.Delivery.SystemRollout
