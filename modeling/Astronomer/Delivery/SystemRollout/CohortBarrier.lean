import Astronomer.Delivery.SystemRollout.RollbackVerdict

/-!
# Cohorts and the canary's approval

In the `progressing` branch nothing may be in flight or ready for less than `MinReady`, and
the canary waits for its approval. The `queued` branch asks for neither: it relies on being
reached with nothing released, or by the approval. `resume` reaches it too.
-/

namespace Astronomer.Delivery.SystemRollout

open List

variable {env : Env} {clock : Clock} {db db' : DB} {e : Event} {es : List Event} {id c : UUID}
  {row row' : RolloutRow} {a a' b : AssignmentRow} {t t' : Assignments}

/-! ## Vocabulary -/

def Event.Steers (id : UUID) : Event → Prop
  | .start .. => False
  | .act _ request => request.id = id ∧
      (request.action = .approve ∨ request.action = .pause ∨ request.action = .resume)
  | .reconcile _ i => i = id
  | .observe .. | .configure .. | .register .. => True

instance : Decidable (e.Steers id) := by
  apply @Event.casesOn (fun e => Decidable (e.Steers id)) e <;> intros <;>
    dsimp only [Event.Steers] <;> infer_instance

def CanaryHas (t : Assignments) (id : UUID) (q : Phase → Bool) : Prop :=
  ∃ a ∈ t.rows, a.rolloutID = some id ∧ a.cohort = 0 ∧ q a.phase
deriving Decidable

def LaterReleased (t : Assignments) (id : UUID) : Prop :=
  ∃ a ∈ t.rows, a.rolloutID = some id ∧ 0 < a.cohort ∧ a.phase ≠ .pending
deriving Decidable

def CanaryReady (t : Assignments) (id : UUID) : Prop :=
  ∀ a ∈ t.rows, a.rolloutID = some id → a.cohort = 0 → a.phase = .ready
deriving Decidable

/-- A queued rollout is passed over only with nothing in flight and nothing immature, as the
`progressing` branch demands; with an approval after the canary, a progressing rollout is
passed over only without a failed canary assignment, and resumed only while a canary
assignment is pending or a later cohort has been released. -/
def Orderly (db : DB) : Event → Prop
  | .reconcile clock id => ∀ row ∈ db.rollouts.get id,
      (row.state = .queued → (countsOf clock db row).inFlight = 0 ∧
        (countsOf clock db row).immatureReady = 0) ∧
      (row.state = .progressing → approvalAfterCanary row.strategy →
        ¬ CanaryHas db.assignments id (· == .failed))
  | .act _ request => request.action = .resume → ∀ row ∈ db.rollouts.get request.id,
      approvalAfterCanary row.strategy →
        CanaryHas db.assignments request.id (· == .pending) ∨
          LaterReleased db.assignments request.id
  | _ => True

instance : Decidable (Orderly db e) := by
  apply @Event.casesOn (fun e => Decidable (Orderly db e)) e <;> intros <;>
    dsimp only [Orderly] <;> infer_instance

/-! ## The barrier -/

/-- An assignment leaves `pending` only in a pass, and then every assignment of a smaller cohort
has left `pending`, is not in flight, and is not ready for less than `MinReady`. -/
def BarrierKept (id : UUID) (db : DB) (e : Event) (db' : DB) : Prop :=
  ∀ c a a', db.assignments.get c = some a → db'.assignments.get c = some a' →
    a.rolloutID = some id → a.phase = .pending → a'.phase ≠ .pending →
    ∃ clock row, e = .reconcile clock id ∧ db.rollouts.get id = some row ∧
      ∀ b ∈ db.assignments.rows, b.rolloutID = some id → b.cohort < a.cohort →
        b.phase ≠ .pending ∧ b.phase.inFlight = false ∧
          ¬ (b.phase = .ready ∧ b.readyAfter (clock.dbNow - row.strategy.minReady))

theorem not_inFlight (h : (countsOf clock db row).inFlight = 0) (hb : b ∈ db.assignments.rows)
    (hof : b.rolloutID = some row.id) : b.phase.inFlight = false := by
  have hz := Keyed.count_eq_zero.mp h b hb
  simpa [AssignmentRow.isOf_iff.mpr hof] using hz

theorem not_immature (h : (countsOf clock db row).immatureReady = 0)
    (hms : 1000000 ∣ row.strategy.minReady) (hb : b ∈ db.assignments.rows)
    (hof : b.rolloutID = some row.id) :
    ¬ (b.phase = .ready ∧ b.readyAfter (clock.dbNow - row.strategy.minReady)) := by
  rintro ⟨hr, haf⟩
  have hz := Keyed.count_eq_zero.mp h b hb
  have hw : milliseconds row.strategy.minReady * 1000000 = row.strategy.minReady :=
    Int.tdiv_mul_cancel hms
  simp [AssignmentRow.isOf_iff.mpr hof, hr, hw, haf] at hz

theorem FirstPending.barrier (h : FirstPending db.assignments row.id a)
    (hms : 1000000 ∣ row.strategy.minReady)
    (hq : (countsOf clock db row).inFlight = 0 ∧ (countsOf clock db row).immatureReady = 0)
    (hb : b ∈ db.assignments.rows) (hof : b.rolloutID = some row.id) (hlt : b.cohort < a.cohort) :
    b.phase ≠ .pending ∧ b.phase.inFlight = false ∧
      ¬ (b.phase = .ready ∧ b.readyAfter (clock.dbNow - row.strategy.minReady)) := by
  refine ⟨fun hpd => ?_, not_inFlight hq.1 hb hof, not_immature hq.2 hms hb hof⟩
  exact absurd (h.first b hb hof hpd) (Nat.not_le.mpr hlt)

theorem Stepped.barrier (h : Stepped db e db') (hst : e.Steers id) (hok : Orderly db e)
    (hms : ∀ row ∈ db.rollouts.get id, 1000000 ∣ row.strategy.minReady) :
    BarrierKept id db e db' := by
  intro c a a' ha ha' hof hpd hlf
  obtain ⟨a1, ha1, hm⟩ := h.moves ha
  obtain rfl : a1 = a' := Option.some.inj (ha1.symm.trans ha')
  -- the two ways in which a pass releases
  have hp : ∀ {clock i row1}, e = .reconcile clock i → db.rollouts.get i = some row1 →
      FirstPending db.assignments row1.id a →
      (row1.state = .queued ∨ row1.state = .progressing ∧ settled (countsOf clock db row1) ∧
        ¬ awaitsApproval row1.strategy (countsOf clock db row1)) →
      ∃ clock row, e = .reconcile clock id ∧ db.rollouts.get id = some row ∧
        ∀ b ∈ db.assignments.rows, b.rolloutID = some id → b.cohort < a.cohort →
          b.phase ≠ .pending ∧ b.phase.inFlight = false ∧
            ¬ (b.phase = .ready ∧ b.readyAfter (clock.dbNow - row.strategy.minReady)) := by
    rintro clock i row1 rfl hr1 hf ho
    obtain rfl : i = id := hst
    obtain rfl := Keyed.key_of_get hr1
    refine ⟨clock, row1, rfl, hr1, fun b hb hof' hlt => ?_⟩
    refine hf.barrier (hms row1 hr1) ?_ hb hof' hlt
    rcases ho with hqd | ⟨-, hs, -⟩
    · exact (hok row1 hr1).1 hqd
    · exact ⟨hs.1, hs.2.1⟩
  cases hm with
  | kept => exact absurd hpd hlf
  | ensured => exact hst.elim
  | observed hr => exact absurd (by simp [AssignmentRow.observe, observedPhase, hpd]) hlf
  | retried _ _ _ hfl =>
    rw [hfl] at hpd
    cases hpd
  | aborted _ han =>
    rcases hst.2 with h | h | h <;> rw [han] at h <;> cases h
  | rolledBack _ _ _ hg | sentBack _ _ _ hg => exact absurd hpd hg.2.1
  | released hr1 hf ho | releasedAndSentBack hr1 hf ho => exact hp rfl hr1 hf ho

/-! ## The gate

The invariant behind the approval. `W` stands for "the canary has been ready" and `A`
for "the rollout has been approved after that"; both are facts about the events so far. -/

def RolloutState.forward : RolloutState → Bool
  | .awaitingApproval | .queued | .progressing | .paused => true
  | _ => false

def Phase.forward : Phase → Bool
  | .pending | .released | .applying | .ready | .failed => true
  | _ => false

structure Gated (t : Assignments) (row : RolloutRow) (W A : Prop) : Prop where
  gate : approvalAfterCanary row.strategy
  phases : row.state.forward → ∀ a ∈ t.rows, a.rolloutID = some row.id →
    a.phase.forward
  awaiting : row.state = .awaitingApproval → CanaryHas t row.id (· == .pending) ∨ W
  queued : row.state = .queued → CanaryHas t row.id (· == .pending) ∨ A
  later : LaterReleased t row.id → A
  -- a canary cohort may be empty; its readiness is then no news
  canary : row.state ≠ .awaitingApproval → CanaryHas t row.id (fun _ => true) ∨ A

def Covered (id : UUID) (t t' : Assignments) : Prop :=
  ∀ a ∈ t.rows, a.rolloutID = some id → ∃ a' ∈ t'.rows, a'.rolloutID = some id ∧
    a'.cohort = a.cohort ∧ (a'.phase = .pending ↔ a.phase = .pending)

theorem CanaryHas.pending_of_covered (h : CanaryHas t id (· == .pending)) (hon : Covered id t t') :
    CanaryHas t' id (· == .pending) := by
  obtain ⟨a, ha, hof, hch, hph⟩ := h
  obtain ⟨a', ha', hof', hch', hpd⟩ := hon a ha hof
  exact ⟨a', ha', hof', hch'.trans hch, by simpa [hpd] using hph⟩

theorem CanaryHas.any_of_covered (h : CanaryHas t id (fun _ => true)) (hon : Covered id t t') :
    CanaryHas t' id (fun _ => true) := by
  obtain ⟨a, ha, hof, hch, -⟩ := h
  obtain ⟨a', ha', hof', hch', -⟩ := hon a ha hof
  exact ⟨a', ha', hof', hch'.trans hch, rfl⟩

theorem LaterReleased.of_covered (h : LaterReleased t' id) (hb : Covered id t' t) :
    LaterReleased t id := by
  obtain ⟨a', ha', hof', hch', hph'⟩ := h
  obtain ⟨a, ha, hof, hch, hpd⟩ := hb a' ha' hof'
  exact ⟨a, ha, hof, by omega, fun hph => hph' (hpd.mp hph)⟩

/-! ### Events other than passes -/

theorem RowMoves.of_steers (h : RowMoves db db' e a a') (hst : e.Steers id)
    (hp : ∀ clock i, e ≠ .reconcile clock i) :
    a'.rolloutID = a.rolloutID ∧ a'.cohort = a.cohort ∧ (a'.phase = .pending ↔ a.phase = .pending) ∧
      (a.phase.forward → a'.phase.forward) := by
  cases h with
  | kept => exact ⟨rfl, rfl, .rfl, fun h => h⟩
  | ensured => exact hst.elim
  | observed hr =>
    refine ⟨rfl, rfl, observedPhase_eq_pending, fun hf => ?_⟩
    unfold AssignmentRow.observe observedPhase
    cases hph : a.phase <;> simp_all [Phase.forward] <;> split_ifs <;> rfl
  | retried _ han | aborted _ han | rolledBack _ han =>
    rcases hst.2 with h | h | h <;> rw [han] at h <;> cases h
  | released | sentBack | releasedAndSentBack => exact absurd rfl (hp _ _)

theorem Stepped.covered (h : Stepped db e db') (hst : e.Steers id)
    (hp : ∀ clock i, e ≠ .reconcile clock i) : Covered id db.assignments db'.assignments := by
  intro a ha hof
  obtain ⟨a', ha', hm⟩ := h.moves (Keyed.get_of_mem ha)
  obtain ⟨hof', hch, hpd, -⟩ := hm.of_steers hst hp
  exact ⟨a', Keyed.mem_of_get ha', hof'.trans hof, hch, hpd⟩

theorem Stepped.before_of_steers (h : Stepped db e db') (hst : e.Steers id)
    (hp : ∀ clock i, e ≠ .reconcile clock i) (ha' : a' ∈ db'.assignments.rows)
    (hof : a'.rolloutID = some id) :
    ∃ a ∈ db.assignments.rows, a.rolloutID = some id ∧ a.cohort = a'.cohort ∧
      (a.phase = .pending ↔ a'.phase = .pending) ∧
      (a.phase.forward → a'.phase.forward) := by
  rcases h.rows (Keyed.get_of_mem ha') with ⟨a, ha, hm⟩ | ⟨-, hn⟩
  · obtain ⟨hof', hch, hpd, hf⟩ := hm.of_steers hst hp
    exact ⟨a, Keyed.mem_of_get ha, hof' ▸ hof, hch.symm, hpd.symm, hf⟩
  · cases hn with
    | seeded => cases hof
    | ensured => exact hst.elim

variable {W A W' A' : Prop}

theorem Gated.keep (h : Gated db.assignments row W A) (hsp : Stepped db e db')
    (hst : e.Steers row.id) (hp : ∀ clock i, e ≠ .reconcile clock i) (hW : W → W')
    (hA : A → A') : Gated db'.assignments row W' A' := by
  have hon := hsp.covered hst hp
  have hb : Covered row.id db'.assignments db.assignments := by
    intro a' ha' hof
    obtain ⟨a, ha, hof', hch, hpd, -⟩ := hsp.before_of_steers hst hp ha' hof
    exact ⟨a, ha, hof', hch, hpd⟩
  refine ⟨h.gate, fun hf a' ha' hof => ?_, fun hs => ?_, fun hs => ?_, fun hl => ?_, fun hs => ?_⟩
  · obtain ⟨a, ha, hof', -, -, hph⟩ := hsp.before_of_steers hst hp ha' hof
    exact hph (h.phases hf a ha hof')
  · exact (h.awaiting hs).imp (·.pending_of_covered hon) hW
  · exact (h.queued hs).imp (·.pending_of_covered hon) hA
  · exact hA (h.later (hl.of_covered hb))
  · exact (h.canary hs).imp (·.any_of_covered hon) hA

theorem steered_transition {state next code hasPrevious} {request : ActRequest}
    (han : request.action = .approve ∨ request.action = .pause ∨ request.action = .resume)
    (h : actionTransition state request.action hasPrevious = .ok (next, code)) :
    request.action = .approve ∧ state = .awaitingApproval ∧ next = .queued ∨
      request.action = .pause ∧ (state = .queued ∨ state = .progressing) ∧ next = .paused ∨
      request.action = .resume ∧ state = .paused ∧ next = .queued := by
  rcases actionTransition_ok h with h | h | h | h | h | h
  · exact .inl h
  · exact .inr (.inl h)
  · exact .inr (.inr h)
  all_goals rcases han with ha | ha | ha <;> rw [h.1] at ha <;> cases ha

theorem Gated.act (h : Gated t row W A) {hasPrevious code} {request : ActRequest}
    (hc : row.Continues row')
    (han : request.action = .approve ∨ request.action = .pause ∨ request.action = .resume)
    (ht : actionTransition row.state request.action hasPrevious = .ok (row'.state, code))
    (hrs : request.action = .resume →
      CanaryHas t row.id (· == .pending) ∨ LaterReleased t row.id) (hA : A → A')
    (hsn : CanaryReady t row.id → W) (har : request.action = .approve → W → A') :
    Gated t row' W' A' := by
  -- all three lead from a forward state to one that awaits nothing
  obtain ⟨hfw, hne, hq, hcn⟩ : row.state.forward ∧ row'.state ≠ .awaitingApproval ∧
      (row'.state = .queued → CanaryHas t row.id (· == .pending) ∨ A') ∧
      (CanaryHas t row.id (fun _ => true) ∨ A') := by
    rcases steered_transition han ht with ⟨ha, hs, hs'⟩ | ⟨ha, hs, hs'⟩ | ⟨ha, hs, hs'⟩
    · refine ⟨by rw [hs]; rfl, by rw [hs']; nofun, fun _ => (h.awaiting hs).imp_right (har ha), ?_⟩
      by_cases hay : CanaryHas t row.id (fun _ => true)
      · exact .inl hay
      · refine .inr (har ha (hsn fun a ha hof hch => ?_))
        exact absurd ⟨a, ha, hof, hch, rfl⟩ hay
    · refine ⟨?_, by rw [hs']; nofun, by rw [hs']; nofun, (h.canary ?_).imp_right hA⟩
      · rcases hs with hs | hs <;> rw [hs] <;> rfl
      · rcases hs with hs | hs <;> rw [hs] <;> nofun
    · exact ⟨by rw [hs]; rfl, by rw [hs']; nofun, fun _ => (hrs ha).imp_right fun hr =>
        hA (h.later hr), (h.canary (by rw [hs]; nofun)).imp_right hA⟩
  have hid : row'.id = row.id := hc.id
  rw [← hid] at hq hcn
  exact ⟨hc.strategy ▸ h.gate, fun _ => hid ▸ h.phases hfw, fun hs => absurd hs hne, hq,
    fun hl => hA (h.later (hid ▸ hl)), fun _ => hcn⟩

/-! ### Passes -/

theorem canaryReady_of_settled (hs : settled (countsOf clock db row))
    (hpa : ∀ a ∈ db.assignments.rows, a.rolloutID = some row.id → a.phase.forward)
    (hpd : ¬ CanaryHas db.assignments row.id (· == .pending))
    (hfl : ¬ CanaryHas db.assignments row.id (· == .failed)) :
    CanaryReady db.assignments row.id := by
  intro a ha hof hch
  have hi := not_inFlight hs.1 ha hof
  have hf := hpa a ha hof
  cases hph : a.phase with
  | pending => exact absurd ⟨a, ha, hof, hch, by simp [hph]⟩ hpd
  | failed => exact absurd ⟨a, ha, hof, hch, by simp [hph]⟩ hfl
  | ready => rfl
  | _ => simp [hph, Phase.forward, Phase.inFlight] at hi hf

theorem exists_later_ready (hne : (countsOf clock db row).maxReadyCohort ≠ 0)
    (hb : b ∈ db.assignments.rows) (hof : b.rolloutID = some row.id) (hr : b.phase = .ready) :
    ∃ a ∈ db.assignments.rows, a.rolloutID = some row.id ∧ 0 < a.cohort ∧ a.phase = .ready := by
  have hmem : b.cohort ∈ (db.assignments.rows.filter fun a =>
      a.isOf row.id && a.phase == .ready).map AssignmentRow.cohort := by
    refine mem_map_of_mem (mem_filter.mpr ⟨hb, ?_⟩)
    simp [AssignmentRow.isOf_iff.mpr hof, hr]
  simp only [countsOf, getSystemRolloutAssignmentCounts] at hne
  split at hne
  next m hm =>
    obtain ⟨a, ha, rfl⟩ := mem_map.mp (max?_mem hm)
    obtain ⟨ha, hq⟩ := mem_filter.mp ha
    simp only [Bool.and_eq_true, AssignmentRow.isOf_iff, beq_iff_eq] at hq
    exact ⟨a, ha, hq.1, by omega, hq.2⟩
  next hm =>
    rw [max?_eq_none_iff.mp hm] at hmem
    exact absurd hmem not_mem_nil

theorem pendingCanary_eq_zero :
    (countsOf clock db row).pendingCanary = 0 ↔
      ¬ CanaryHas db.assignments row.id (· == .pending) := by
  rw [← Nat.le_zero, ← not_lt]
  refine not_congr (Keyed.count_pos.trans ?_)
  simp only [CanaryHas, Bool.and_eq_true, AssignmentRow.isOf_iff, beq_iff_eq, and_comm]

theorem Gated.later_of_released (h : Gated db.assignments row W A) (hrl : Released clock db row t)
    (hfl : row.state = .progressing → ¬ CanaryHas db.assignments row.id (· == .failed))
    (hl : LaterReleased t row.id) : A := by
  obtain ⟨a', ha', hof, hch, hph⟩ := hl
  obtain ⟨a, ha, rfl | ⟨hf, rfl, ho⟩⟩ := hrl.get (Keyed.get_of_mem ha')
  · exact h.later ⟨a', Keyed.mem_of_get ha, hof, hch, hph⟩
  · have hch : 0 < a.cohort := hch
    have hn : ¬ CanaryHas db.assignments row.id (· == .pending) := by
      rintro ⟨b, hb, hob, hz, hpd⟩
      have hle := hf.first b hb hob (by simpa using hpd)
      omega
    rcases ho with hqd | ⟨hp, hs, hw⟩
    · exact (h.queued hqd).resolve_left hn
    · -- the canary is ready, so a later cohort must be: the approval was not asked for
      rcases h.canary (by rw [hp]; nofun) with ⟨b, hb, hob, hz, -⟩ | hap
      · have hr : CanaryReady db.assignments row.id := canaryReady_of_settled hs
          (h.phases (by rw [hp]; rfl)) hn (hfl hp)
        have hne : (countsOf clock db row).maxReadyCohort ≠ 0 := fun hm =>
          hw ⟨h.gate, hm, pendingCanary_eq_zero.mpr hn⟩
        obtain ⟨a1, ha1, hof1, hch1, hr1⟩ := exists_later_ready hne hb hob (hr b hb hob hz)
        exact h.later ⟨a1, ha1, hof1, hch1, by rw [hr1]; nofun⟩
      · exact hap

theorem CanaryHas.any_of_released (h : CanaryHas db.assignments row.id (fun _ => true))
    (hr : Released clock db row t) : CanaryHas t row.id (fun _ => true) := by
  obtain ⟨b, hb, hof, hz, -⟩ := h
  have hs := hr.isSome.trans (Option.isSome_of_eq_some (Keyed.get_of_mem hb))
  obtain ⟨b', hb'⟩ := Option.isSome_iff_exists.mp hs
  obtain ⟨a, ha, hm⟩ := hr.get hb'
  obtain rfl : b = a := Option.some.inj ((Keyed.get_of_mem hb).symm.trans ha)
  refine ⟨b', Keyed.mem_of_get hb', ?_⟩
  rcases hm with rfl | ⟨-, rfl, -⟩
  · exact ⟨hof, hz, rfl⟩
  · exact ⟨hof, hz, rfl⟩

theorem Begins.covered {now} (h : Begins now row t t') :
    Covered row.id t t' ∧ Covered row.id t' t := by
  have hmt : ∀ {c a a'}, t.get c = some a → t'.get c = some a' →
      a'.rolloutID = a.rolloutID ∧ a'.cohort = a.cohort ∧
        (a'.phase = .pending ↔ a.phase = .pending) := by
    intro c a a' ha ha'
    obtain ⟨a1, previous, ha1, -, hm⟩ := h.get ha'
    obtain rfl : a1 = a := Option.some.inj (ha1.symm.trans ha)
    rcases hm with ⟨rfl, -⟩ | ⟨hg, rfl⟩
    · exact ⟨rfl, rfl, .rfl⟩
    · exact ⟨rfl, rfl, iff_of_false nofun hg.2.1⟩
  constructor
  · intro a ha hof
    have hs := h.isSome.trans (Option.isSome_of_eq_some (Keyed.get_of_mem ha))
    obtain ⟨a', ha'⟩ := Option.isSome_iff_exists.mp hs
    obtain ⟨hof', hch, hpd⟩ := hmt (Keyed.get_of_mem ha) ha'
    exact ⟨a', Keyed.mem_of_get ha', hof'.trans hof, hch, hpd⟩
  · intro a' ha' hof'
    obtain ⟨a, previous, ha, -⟩ := h.get (Keyed.get_of_mem ha')
    obtain ⟨hof, hch, hpd⟩ := hmt ha (Keyed.get_of_mem ha')
    exact ⟨a, Keyed.mem_of_get ha, hof ▸ hof', hch.symm, hpd.symm⟩

theorem Gated.pass (h : Gated db.assignments row W A)
    (hac : row.state = .queued ∨ row.state = .progressing)
    (hf : Forward clock db row db' row' t)
    (hfl : row.state = .progressing → ¬ CanaryHas db.assignments row.id (· == .failed))
    (hsn : CanaryReady db.assignments row.id → W) : Gated db'.assignments row' W A := by
  have hid : row'.id = row.id := hf.continues.id
  have hg : approvalAfterCanary row'.strategy := hf.continues.strategy ▸ h.gate
  have hpa : ∀ a ∈ db.assignments.rows, a.rolloutID = some row.id → a.phase.forward :=
    h.phases (by rcases hac with hs | hs <;> rw [hs] <;> rfl)
  have hl : LaterReleased t row.id → A := h.later_of_released hf.released hfl
  have hc : CanaryHas t row.id (fun _ => true) ∨ A :=
    (h.canary (by rcases hac with hs | hs <;> rw [hs] <;> nofun)).imp_left
      (·.any_of_released hf.released)
  by_cases hb : row'.state = .rollingBack
  · obtain ⟨hon, hfr⟩ := (hf.back hb).covered
    refine ⟨hg, by rw [hb]; nofun, by rw [hb]; nofun, by rw [hb]; nofun, ?_, fun _ => ?_⟩
    · rw [hid]
      exact fun hr => hl (hr.of_covered hfr)
    · rw [hid]
      exact hc.imp_left (·.any_of_covered hon)
  · rw [hf.forward hb]
    refine ⟨hg, fun _ => ?_, fun hs => ?_, fun hs => ?_, ?_, fun _ => ?_⟩
    · rw [hid]
      intro a' ha' hof
      obtain ⟨a, ha, rfl | ⟨-, rfl, -⟩⟩ := hf.released.get (Keyed.get_of_mem ha')
      · exact hpa a' (Keyed.mem_of_get ha) hof
      · rfl
    · -- the pass found the canary settled and nothing of it pending
      obtain ⟨hp, -, hst, hw⟩ := hf.awaiting hs
      exact .inr (hsn (canaryReady_of_settled hst hpa (pendingCanary_eq_zero.mp hw.2.2) (hfl hp)))
    · obtain ⟨hqd, rfl⟩ := hf.requeued hs
      rw [hid]
      exact h.queued hqd
    · rw [hid]
      exact hl
    · rw [hid]
      exact hc

/-! ## Runs -/

def WasReady (env : Env) (db : DB) (id : UUID) (es : List Event) : Prop :=
  ∃ before after, es = before ++ after ∧ CanaryReady (run (step env) db before).assignments id

/-- Among the events `es` after `db` is an approval of the waiting rollout, and the canary was
ready before it. -/
def ApprovedAfterCanary (env : Env) (db : DB) (id : UUID) (es : List Event) : Prop :=
  ∃ before after clock request, es = before ++ .act clock request :: after ∧ request.id = id ∧
    request.action = .approve ∧
    (run (step env) db before).stateOf id = some .awaitingApproval ∧
    (run (step env) db (before ++ [.act clock request])).stateOf id = some .queued ∧
    WasReady env db id before

theorem WasReady.snoc (h : WasReady env db id es) : WasReady env db id (es ++ [e]) := by
  obtain ⟨before, after, rfl, hr⟩ := h
  exact ⟨before, after ++ [e], by simp, hr⟩

theorem ApprovedAfterCanary.snoc (h : ApprovedAfterCanary env db id es) :
    ApprovedAfterCanary env db id (es ++ [e]) := by
  obtain ⟨before, after, clock, request, rfl, h⟩ := h
  exact ⟨before, after ++ [e], clock, request, by simp, h⟩

def GatedAfter (env : Env) (db : DB) (id : UUID) (es : List Event) : Prop :=
  ∃ row, (run (step env) db es).rollouts.get id = some row ∧
    Gated (run (step env) db es).assignments row (WasReady env db id es)
      (ApprovedAfterCanary env db id es)

theorem Gated.reconciled (h : Gated db.assignments row W A) (hr : db.rollouts.get id = some row)
    (hsp : Stepped db (.reconcile clock id) db') (hr' : db'.rollouts.get id = some row')
    (hok : Orderly db (.reconcile clock id)) (hsn : CanaryReady db.assignments row.id → W) :
    Gated db'.assignments row' W A := by
  have hid := Keyed.key_of_get hr
  cases hsp with
  | refused =>
    obtain rfl := Option.some.inj (hr.symm.trans hr')
    exact h
  | reconciled hr1 hrc =>
    obtain rfl := Option.some.inj (hr.symm.trans hr1)
    cases hrc with
    | back row1 hb hrw hst =>
      rw [hrw.rollouts, get_set_of_continues hr hrw.continues, if_pos hid] at hr'
      obtain rfl := Option.some.inj hr'
      have hnot : row1.state = .rollbackFailed ∨ row1.state = .rolledBack ∨
          row1.state = .rollingBack := by
        rw [hst]
        exact (rollbackVerdict_cases _).imp (·.1) (·.imp_left (·.1))
      rw [hrw.assignments]
      refine ⟨hrw.continues.strategy ▸ h.gate, ?_, ?_, ?_, ?_, fun _ => ?_⟩
      · rcases hnot with hs | hs | hs <;> rw [hs] <;> nofun
      · rcases hnot with hs | hs | hs <;> rw [hs] <;> nofun
      · rcases hnot with hs | hs | hs <;> rw [hs] <;> nofun
      · rw [hrw.continues.id]
        exact h.later
      · rw [hrw.continues.id]
        exact h.canary (by rw [hb]; nofun)
    | forward row1 t ha hf =>
      rw [hf.rollouts, get_set_of_continues hr hf.continues, if_pos hid] at hr'
      obtain rfl := Option.some.inj hr'
      exact h.pass ha hf (fun hp => hid ▸ (hok row hr).2 hp h.gate) hsn

theorem Gated.mono (h : Gated t row W A) (hW : W → W') (hA : A → A') : Gated t row W' A' :=
  ⟨h.gate, h.phases, fun hs => (h.awaiting hs).imp_right hW, fun hs => (h.queued hs).imp_right hA,
    fun hl => hA (h.later hl), fun hs => (h.canary hs).imp_right hA⟩

theorem GatedAfter.snoc (h : GatedAfter env db id es) (hst : e.Steers id)
    (hok : Orderly (run (step env) db es) e) : GatedAfter env db id (es ++ [e]) := by
  obtain ⟨row, hr, hg⟩ := h
  have hid := Keyed.key_of_get hr
  have hsn : CanaryReady (run (step env) db es).assignments row.id → WasReady env db id es :=
    fun hrd => ⟨es, [], by simp, hid ▸ hrd⟩
  have hsp := @step_cases env (run (step env) db es) e
  have hrn : run (step env) db (es ++ [e]) = step env (run (step env) db es) e := run_snoc
  rw [← hrn] at hsp
  obtain ⟨row', hr'⟩ :=
    Option.isSome_iff_exists.mp (hsp.rollout_isSome (Option.isSome_of_eq_some hr))
  refine ⟨row', hr', ?_⟩
  by_cases hp : ∃ clock i, e = .reconcile clock i
  · obtain ⟨clock, i, rfl⟩ := hp
    obtain rfl : i = id := hst
    exact (hg.reconciled hr hsp hr' hok hsn).mono WasReady.snoc ApprovedAfterCanary.snoc
  · have hp : ∀ clock i, e ≠ .reconcile clock i := fun clock i h => hp ⟨clock, i, h⟩
    obtain ⟨row1, hr1, hm⟩ | ⟨hn, -⟩ := hsp.rollouts hr'
    · obtain rfl := Option.some.inj (hr.symm.trans hr1)
      cases hm with
      | kept => exact hg.keep hsp (hid ▸ hst) hp WasReady.snoc ApprovedAfterCanary.snoc
      | @acted clock request _ _ _ hnm hat =>
        obtain ⟨code, ht⟩ := hat.transition
        have hag : (run (step env) db (es ++ [.act clock request])).assignments =
            (run (step env) db es).assignments := by
          have hac := hat.assignments
          rcases hst.2 with ha | ha | ha <;> rw [ha] at hac <;> exact hac
        rw [hag]
        refine (hg.act hat.continues hst.2 ht (fun ha => ?_)
          ApprovedAfterCanary.snoc hsn fun ha hw => ?_).mono WasReady.snoc fun h => h
        · rw [← hnm]
          exact hok ha row (by rw [hnm, hid]; exact hr) hg.gate
        · -- the approval that the gate waited for
          rcases steered_transition hst.2 ht with ⟨-, hs, hs'⟩ | ⟨ha', -⟩ | ⟨ha', -⟩
          · refine ⟨es, [], clock, request, rfl, hst.1, ha, ?_, ?_, hw⟩
            · rw [DB.stateOf, hr, Option.map_some, hs]
            · rw [DB.stateOf, hr', Option.map_some, hs']
          all_goals
            rw [ha] at ha'
            cases ha'
      | back | forward => exact absurd rfl (hp _ _)
    · rw [hn] at hr
      cases hr

theorem Stepped.fresh (h : Stepped db e db') (hl : db.Linked) (hn : db.rollouts.get id = none)
    (hr' : db'.rollouts.get id = some row') :
    row'.state = .awaitingApproval ∧
      ∀ a ∈ db'.assignments.rows, a.rolloutID = some id → a.phase = .pending := by
  rcases h.rollouts hr' with ⟨row, hr, -⟩ | ⟨-, clock, request, _, _, _, rfl, hst⟩
  · rw [hn] at hr
    cases hr
  · refine ⟨hst.state, fun a ha hof => ?_⟩
    rcases h.rows (Keyed.get_of_mem ha) with ⟨b, hb, hm⟩ | ⟨-, hrw⟩
    · rcases hm.rolloutID with hs | ⟨_, _, _, -, -, hpd, -⟩
      · have hln := hl _ b id hb (hs ▸ hof)
        rw [hn] at hln
        cases hln
      · exact hpd
    · cases hrw with
      | ensured _ _ _ _ _ he => exact he.pending

theorem gatedAfter_nil (hr : db.rollouts.get id = some row)
    (hg : approvalAfterCanary row.strategy) (hst : row.state = .awaitingApproval)
    (hpd : ∀ a ∈ db.assignments.rows, a.rolloutID = some id → a.phase = .pending) :
    GatedAfter env db id [] := by
  obtain rfl := Keyed.key_of_get hr
  refine ⟨row, hr, hg, fun _ a ha hof => ?_, fun _ => ?_, ?_, ?_, ?_⟩
  · rw [hpd a ha hof]
    rfl
  · -- the canary is pending, unless it is empty and so ready
    by_cases hrd : CanaryReady db.assignments row.id
    · exact .inr ⟨[], [], rfl, hrd⟩
    · simp only [CanaryReady, not_forall] at hrd
      obtain ⟨a, ha, hof, hch, -⟩ := hrd
      exact .inl ⟨a, ha, hof, hch, by rw [hpd a ha hof]; rfl⟩
  · rw [hst]
    nofun
  · rintro ⟨a, ha, hof, -, hlf⟩
    exact absurd (hpd a ha hof) hlf
  · exact fun hne => absurd hst hne

/-- **Cohorts come one after the other and the canary's approval is not skipped**, in every
run of a rollout from its `Start` on whose steps are orderly. -/
theorem cohorts_in_order (env : Env) {request : StartRequest} (hlinked : db.Linked)
    (hnew : db.rollouts.get id = none)
    (hrow : (step env db (.start clock id request)).rollouts.get id = some row)
    (hms : 1000000 ∣ row.strategy.minReady) (hsteers : ∀ e ∈ es, e.Steers id)
    (hmeets : RunMeets (step env) Orderly (step env db (.start clock id request)) es) :
    RunMeets (step env) (fun db e => BarrierKept id db e (step env db e))
        (step env db (.start clock id request)) es ∧
      (approvalAfterCanary row.strategy →
        LaterReleased (run (step env) (step env db (.start clock id request)) es).assignments id →
        ApprovedAfterCanary env (step env db (.start clock id request)) id es) := by
  have hs := hmeets.and_mem hsteers
  obtain ⟨hst, hpd⟩ := (step_cases db _).fresh hlinked hnew hrow
  generalize step env db (.start clock id request) = db at *
  constructor
  · refine hs.of_invariant (P := fun db => ∃ row, db.rollouts.get id = some row ∧
      1000000 ∣ row.strategy.minReady) ?_ ?_ ⟨row, hrow, hms⟩
    · rintro db e ⟨row, hrow, hms⟩ -
      have hsp := @step_cases env db e
      obtain ⟨row', hrow'⟩ :=
        Option.isSome_iff_exists.mp (hsp.rollout_isSome (Option.isSome_of_eq_some hrow))
      exact ⟨row', hrow', (hsp.continues hrow hrow').strategy ▸ hms⟩
    · rintro db e ⟨row, hrow, hms⟩ ⟨hsteers, hok⟩
      refine (step_cases db e).barrier hsteers hok fun row1 hrow1 => ?_
      rw [hrow] at hrow1
      exact Option.some.inj hrow1 ▸ hms
  · intro hg hl
    have hgt : GatedAfter env db id es := hs.history
      (fun past e h hok => h.snoc hok.1 hok.2) (gatedAfter_nil hrow hg hst hpd)
    obtain ⟨row', hrow', hgt⟩ := hgt
    exact hgt.later (Keyed.key_of_get hrow' ▸ hl)

namespace Fleet

def canaryRequest : StartRequest :=
  { releaseID := 2, strategy := canary, idempotencyKey := "canary" }

def canaryStarted : DB := step Fleet.env Fleet.db (.start (at' 10) 1 canaryRequest)

def approvedRun : List Event :=
  [act 1 1 .approve, pass 1, runs 11 2 'b', pass 1, act 1 4 .approve, pass 1]

def resumedRun : List Event :=
  [act 1 1 .approve, pass 1, act 1 3 .pause, act 1 4 .resume]

end Fleet

open Fleet in
theorem approvedRun_in_order :
    LaterReleased (run (step Fleet.env) canaryStarted approvedRun).assignments 1 ∧
      ApprovedAfterCanary Fleet.env canaryStarted 1 approvedRun := by
  have hl : LaterReleased (run (step Fleet.env) canaryStarted approvedRun).assignments 1 := by
    decide +kernel
  have hrd : (canaryStarted.rollouts.get 1).map RolloutRow.strategy = some canary := by
    decide +kernel
  obtain ⟨row, hr, hs⟩ := Option.map_eq_some_iff.mp hrd
  have ho := cohorts_in_order Fleet.env db_counted.linked (by decide +kernel) hr
    (by rw [hs]; decide) (by decide +kernel : ∀ e ∈ approvedRun, e.Steers 1)
    (by decide +kernel)
  exact ⟨hl, ho.2 (by rw [hs]; decide) hl⟩

open Fleet in
/-- **A resumed rollout skips both**: the pass after the resumption releases cluster `12` of the
second cohort while the canary `11` is in flight, and no approval followed the canary. -/
theorem resumedRun_out_of_order :
    ¬ BarrierKept 1 (run (step Fleet.env) canaryStarted resumedRun) (pass 1)
        (run (step Fleet.env) canaryStarted (resumedRun ++ [pass 1])) ∧
      LaterReleased (run (step Fleet.env) canaryStarted (resumedRun ++ [pass 1])).assignments 1 ∧
      ¬ ApprovedAfterCanary Fleet.env canaryStarted 1 (resumedRun ++ [pass 1]) := by
  refine ⟨fun hk => ?_, by decide +kernel, ?_⟩
  · have hr1 : ((run (step Fleet.env) canaryStarted resumedRun).assignments.get 12).map
        (fun a => (a.rolloutID, a.phase, a.cohort)) = some (some 1, .pending, 1) := by
      decide +kernel
    have hr2 : ((run (step Fleet.env) canaryStarted
        (resumedRun ++ [pass 1])).assignments.get 12).map AssignmentRow.phase =
          some .released := by
      decide +kernel
    have hr3 : ((run (step Fleet.env) canaryStarted resumedRun).assignments.get 11).map
        (fun a => (a.rolloutID, a.phase, a.cohort)) = some (some 1, .released, 0) := by
      decide +kernel
    obtain ⟨a, ha, hc⟩ := Option.map_eq_some_iff.mp hr1
    obtain ⟨a', ha', hph'⟩ := Option.map_eq_some_iff.mp hr2
    obtain ⟨b, hb, hcl⟩ := Option.map_eq_some_iff.mp hr3
    simp only [Prod.mk.injEq] at hc hcl
    obtain ⟨_, _, -, -, hbh⟩ := hk 12 a a' ha ha' hc.1 hc.2.1 (by rw [hph']; nofun)
    have hs := (hbh b (Keyed.mem_of_get hb) hcl.1 (by rw [hcl.2.2, hc.2.2]; decide)).2.1
    rw [hcl.2.1] at hs
    cases hs
  · rintro ⟨before, after, clock, request, hsp, -, -, -, -, first, second, rfl, hr⟩
    -- the canary was ready in none of the states of the run
    have hn : ∀ n ∈ List.range 6, ¬ CanaryReady (run (step Fleet.env) canaryStarted
        ((resumedRun ++ [pass 1]).take n)).assignments 1 := by
      decide +kernel
    have hf : first = (resumedRun ++ [pass 1]).take first.length := by
      rw [hsp]
      simp
    have hl : first.length < 6 := by
      have hlen := congrArg List.length hsp
      simp [resumedRun] at hlen
      omega
    rw [hf] at hr
    exact hn _ (mem_range.mpr hl) hr

end Astronomer.Delivery.SystemRollout
