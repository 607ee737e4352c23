import Astronomer.Delivery.SystemRollout.Rows

/-!
# One active rollout

`Start` counts the active rollouts before it inserts one. `Act` does not: `retry`
and `rollback` bring a finished rollout back whatever else is going on. As long as
they are used only while nothing is active, at most one rollout ever is.
-/

namespace Astronomer.Delivery.SystemRollout

variable {env : Env} {db db' : DB} {e : Event} {es : List Event} {row row' : RolloutRow}

def reactivated (db : DB) : Event → Option RolloutRow
  | .act _ request => (db.rollouts.get request.id).filter fun row =>
      !row.state.active && (request.action == .retry || request.action == .rollback)
  | _ => none

def Undisturbed (db : DB) (e : Event) : Prop :=
  ∀ _row ∈ reactivated db e, db.countActiveSystemRollouts = 0
deriving Decidable

/-! ## What becomes active -/

theorem rollbackVerdict_cases (counts : Counts) :
    rollbackVerdict counts = .rollbackFailed ∧ 0 < counts.rollbackFailed ∨
      rollbackVerdict counts = .rolledBack ∧ rollbackComplete counts ∨
      rollbackVerdict counts = .rollingBack := by
  unfold rollbackVerdict
  split
  · exact .inl ⟨rfl, ‹_›⟩
  · split
    · exact .inr (.inl ⟨rfl, ‹_›⟩)
    · exact .inr (.inr rfl)

theorem RolloutMoves.active (h : RolloutMoves db e db' row row')
    (hr : db.rollouts.get row.id = some row) (hac : row'.state.active) :
    row.state.active ∨ reactivated db e = some row := by
  cases h with
  | kept => exact .inl hac
  | @acted clock request _ _ _ hid hat =>
    by_cases hbf : row.state.active
    · exact .inl hbf
    · right
      obtain ⟨code, ht⟩ := hat.transition
      have hbf : row.state.active = false := by simpa using hbf
      have han : request.action = .retry ∨ request.action = .rollback := by
        rcases actionTransition_ok ht with ⟨-, hs, -⟩ | ⟨-, hs | hs, -⟩ | ⟨-, hs, -⟩ |
          ⟨-, hs, -⟩ | ⟨ha, -, -⟩ | ⟨ha, -, -⟩
        · simp [hs, RolloutState.active] at hbf
        · simp [hs, RolloutState.active] at hbf
        · simp [hs, RolloutState.active] at hbf
        · simp [hs, RolloutState.active] at hbf
        · rw [hs] at hbf
          cases hbf
        · exact .inl ha
        · exact .inr ha
      rcases han with ha | ha <;> simp [reactivated, hid, hr, hbf, ha]
  | back _ hb _ _ => exact .inl (by rw [hb]; rfl)
  | forward _ hf _ => rcases hf with hs | hs <;> exact .inl (by rw [hs]; rfl)

def Event.rollout : Event → Option UUID
  | .start _ id _ => some id
  | .act _ request => some request.id
  | .reconcile _ id => some id
  | _ => none

theorem active_source (hok : Undisturbed db e) (h : Stepped db e db') {i}
    (hr' : db'.rollouts.get i = some row') (ha : row'.state.active) :
    (∃ row, db.rollouts.get i = some row ∧ row.state.active) ∨
      db.countActiveSystemRollouts = 0 ∧ e.rollout = some i := by
  rcases h.rollouts hr' with ⟨row, hr, hm⟩ | ⟨-, _, _, _, _, _, rfl, hs⟩
  · have hr1 : db.rollouts.get row.id = some row := Keyed.key_of_get hr ▸ hr
    rcases hm.active hr1 ha with hbf | hb
    · exact .inl ⟨row, hr, hbf⟩
    · refine .inr ⟨hok row hb, ?_⟩
      cases e with
      | act clock request =>
        have hf := (Option.filter_eq_some_iff.mp hb).1
        rw [Event.rollout, ← Keyed.key_of_get hf, Keyed.key_of_get hr]
      | _ => cases hb
  · exact .inr ⟨hs.idle, rfl⟩

theorem one_active_step (h : db.countActiveSystemRollouts ≤ 1) (hok : Undisturbed db e) :
    (step env db e).countActiveSystemRollouts ≤ 1 := by
  have hsp := @step_cases env db e
  have ho := Keyed.count_le_one.mp h
  have hp : ∀ i row, db.rollouts.get i = some row → row.state.active →
      db.countActiveSystemRollouts ≠ 0 := by
    intro i row hr hac hz
    have hi := Keyed.count_eq_zero.mp hz row (Keyed.mem_of_get hr)
    rw [hac] at hi
    cases hi
  refine Keyed.count_le_one.mpr fun a ha b hb haA haB => ?_
  have hg := Keyed.get_of_mem ha
  have hgt := Keyed.get_of_mem hb
  have hid : a.id = b.id := by
    rcases active_source hok hsp hg haA with ⟨a0, ha0, hac0⟩ | ⟨hz, hnm⟩
    · rcases active_source hok hsp hgt haB with ⟨b0, hb0, hac1⟩ | ⟨hz, -⟩
      · have heq := ho a0 (Keyed.mem_of_get ha0) b0 (Keyed.mem_of_get hb0) hac0 hac1
        rw [← Keyed.key_of_get ha0, ← Keyed.key_of_get hb0, heq]
      · exact absurd hz (hp _ _ ha0 hac0)
    · rcases active_source hok hsp hgt haB with ⟨b0, hb0, hac1⟩ | ⟨-, hnm'⟩
      · exact absurd hz (hp _ _ hb0 hac1)
      · exact Option.some.inj (hnm.symm.trans hnm')
  rw [hid, hgt] at hg
  exact (Option.some.inj hg).symm

/-- **At most one active rollout** in every state of a run in which finished rollouts are
brought back only while nothing is active. -/
theorem at_most_one_active (env : Env) (h0 : db.countActiveSystemRollouts ≤ 1)
    (hmeets : RunMeets (step env) Undisturbed db es) :
    (run (step env) db es).countActiveSystemRollouts ≤ 1 :=
  hmeets.preserves (P := fun db => db.countActiveSystemRollouts ≤ 1)
    (fun _ _ h hok => one_active_step h hok) h0

namespace Fleet

def retriedRun : List Event :=
  [start 1 2 strategy, act 1 1 .approve, pass 1, .reconcile (at' 2000) 1, act 1 4 .retry]

def overlapRun : List Event :=
  [start 1 2 strategy, act 1 1 .approve, pass 1, .reconcile (at' 2000) 1, start 2 2 strategy,
    act 1 4 .retry]

end Fleet

open Fleet in
theorem retriedRun_one_active :
    (run (step Fleet.env) Fleet.db retriedRun).countActiveSystemRollouts ≤ 1 :=
  at_most_one_active Fleet.env (by decide +kernel) (by decide +kernel)

open Fleet in
theorem overlapRun_two_active :
    (run (step Fleet.env) Fleet.db overlapRun).countActiveSystemRollouts = 2 := by
  decide +kernel

end Astronomer.Delivery.SystemRollout
