import Astronomer.Delivery.SystemRollout.RollbackVerdict

/-!
# What a rollback has seen

While a rollout is rolling back nothing but observations writes its assignments. A conclusive
report keeps an assignment among the rollback targets; any other takes it out of them, and
the count that ends the rollback no longer sees it.
-/

namespace Astronomer.Delivery.SystemRollout

variable {env : Env} {clock : Clock} {db db' : DB} {e : Event} {es : List Event} {id c : UUID}
  {row row' : RolloutRow} {a a' : AssignmentRow}

/-- During a rollback, a report about a `rolling_back` assignment is conclusive and none is
about a `rollback_failed` one. -/
def Conclusive (db : DB) : Event → Prop
  | .observe _ c o => ∀ a ∈ db.assignments.get c, ∀ i ∈ a.rolloutID,
      db.stateOf i = some .rollingBack → a.phase ≠ .rollbackFailed ∧
        (a.phase = .rollingBack → o.compatibility = .incompatible ∨
          ∀ r ∈ db.releases.get a.desiredReleaseID, o.runs r)
  | _ => True

instance : Decidable (Conclusive db e) := by
  apply @Event.casesOn (fun e => Decidable (Conclusive db e)) e <;> intros <;>
    dsimp only [Conclusive] <;> infer_instance

/-! ## Who writes while a rollout is rolling back -/

theorem observedPhase_conclusive {o : Inventory} {r : ReleaseRow} {phase : Phase}
    (htg : phase.rollbackTarget) (hne : phase ≠ .rollbackFailed)
    (h : phase = .rollingBack → o.compatibility = .incompatible ∨ o.runs r) :
    (observedPhase o r phase).rollbackTarget ∧
      (observedPhase o r phase = .rolledBack → phase = .rolledBack ∨ o.runs r) := by
  rcases Phase.rollbackTarget_iff.mp htg with rfl | rfl | rfl
  · by_cases hr : o.runs r
    · simp [observedPhase, hr, Phase.rollbackTarget]
    · have hi := (h rfl).resolve_right hr
      simp [observedPhase, hr, hi, Phase.rollbackTarget]
  · refine ⟨?_, fun _ => .inl rfl⟩
    by_cases hr : o.runs r
    · simp [observedPhase, hr, Phase.rollbackTarget]
    · by_cases hi : o.compatibility = .incompatible <;>
        simp [observedPhase, hr, hi, Phase.rollbackTarget]
  · exact absurd rfl hne

theorem RowMoves.of_rollingBack (h : RowMoves db db' e a a') (hrw : db.rollouts.get id = some row)
    (hb : row.state = .rollingBack) (hof : a.rolloutID = some id) :
    a' = a ∨ ∃ clock o r, e = .observe clock a.clusterID o ∧
      db.releases.get a.desiredReleaseID = some r ∧ a' = a.observe o r := by
  -- a step on a row of the rollout is a step of the rollout
  have hsm : ∀ {i row1}, db.rollouts.get i = some row1 → a.rolloutID = some row1.id →
      row1.state = .rollingBack := by
    intro i row1 hrw1 hof1
    have hid : i = id := by
      rw [← Keyed.key_of_get hrw1]
      exact Option.some.inj (hof1.symm.trans hof)
    rw [hid, hrw] at hrw1
    rw [← Option.some.inj hrw1, hb]
  have hil : ∀ {clock row1 row1'} {request : ActRequest},
      Acts clock request.action db row1 db' row1' → row1.state ≠ .rollingBack := by
    intro clock row1 row1' request hat hst
    obtain ⟨code, ht⟩ := hat.transition
    rw [hst] at ht
    exact actionTransition_rollingBack ht
  cases h with
  | kept => exact .inl rfl
  | ensured hi =>
    have hin := Keyed.count_eq_zero.mp hi row (Keyed.mem_of_get hrw)
    rw [hb] at hin
    cases hin
  | observed hr => exact .inr ⟨_, _, _, rfl, hr, rfl⟩
  | retried hrw1 _ hof1 _ hat | aborted hrw1 _ hof1 _ hat => exact absurd (hsm hrw1 hof1) (hil hat)
  | rolledBack hrw1 _ _ hg hat => exact absurd (hsm hrw1 hg.1) (hil hat)
  | released hrw1 hf ho | releasedAndSentBack hrw1 hf ho =>
    have hst := hsm hrw1 hf.of
    rcases ho with hs | ⟨hs, -⟩ <;> rw [hs] at hst <;> cases hst
  | sentBack hrw1 ha _ hg =>
    have hst := hsm hrw1 hg.1
    rcases ha with hs | hs <;> rw [hs] at hst <;> cases hst

theorem Stepped.of_rollingBack (h : Stepped db e db') (hr : db.rollouts.get id = some row)
    (hb : row.state = .rollingBack) :
    ∃ row', db'.rollouts.get id = some row' ∧ row.Continues row' ∧
      (row'.state = .rollingBack ∨ ∃ clock, row'.state = rollbackVerdict (countsOf clock db row) ∧
        db'.assignments = db.assignments) := by
  obtain ⟨row', hr'⟩ := Option.isSome_iff_exists.mp (h.rollout_isSome (Option.isSome_of_eq_some hr))
  refine ⟨row', hr', h.continues hr hr', ?_⟩
  rcases h.rollouts hr' with ⟨row1, hr1, hm⟩ | ⟨hn, -⟩
  · obtain rfl : row1 = row := Option.some.inj (hr1.symm.trans hr)
    cases hm with
    | kept => exact .inl hb
    | acted _ hat =>
      obtain ⟨code, ht⟩ := hat.transition
      rw [hb] at ht
      exact absurd ht actionTransition_rollingBack
    | back _ _ hrw hst => exact .inr ⟨_, hst, hrw.assignments⟩
    | forward _ hf _ => rcases hf with hs | hs <;> rw [hs] at hb <;> cases hb
  · rw [hn] at hr
    cases hr

/-! ## The beginning -/

theorem Stepped.begins (h : Stepped db e db') (hbf : db.stateOf id ≠ some .rollingBack)
    (hr' : db'.rollouts.get id = some row') (hb : row'.state = .rollingBack) :
    ∃ now row t, row.Continues row' ∧ Begins now row t db'.assignments := by
  rcases h.rollouts hr' with ⟨row, hr, hm⟩ | ⟨-, _, _, _, _, _, -, hs⟩
  · have hne : row.state ≠ .rollingBack := by
      intro hst
      exact hbf (by rw [DB.stateOf, hr, Option.map_some, hst])
    cases hm with
    | kept => exact absurd hb hne
    | acted _ hat =>
      obtain ⟨code, ht⟩ := hat.transition
      have ha := hat.assignments
      rw [hb] at ht
      rcases actionTransition_ok ht with h | h | h | h | h | h
      · cases h.2.2
      · cases h.2.2
      · cases h.2.2
      · cases h.2.2
      · cases h.2.2
      · rw [h.1] at ha
        exact ⟨_, row, _, hat.continues, ha⟩
    | back _ hst => exact absurd hst hne
    | forward _ _ hf => exact ⟨_, row, _, hf.continues, hf.back hb⟩
  · rw [hs.state] at hb
    cases hb

theorem Begins.desired {now t} {t' : Assignments} (h : Begins now row t t')
    (ha' : t'.get c = some a') (hof : a'.rolloutID = some row.id) (hph : a'.phase = .rollingBack)
    :
    row.previousReleaseID = some a'.desiredReleaseID := by
  obtain ⟨a, previous, -, hp, ⟨rfl, hnot⟩ | ⟨-, rfl⟩⟩ := h.get ha'
  · exact absurd ⟨hof, by rw [hph]; nofun, by rw [hph]; nofun⟩ hnot
  · exact hp

/-! ## The way -/

def Returned (env : Env) (db : DB) (c previous : UUID) (es : List Event) : Prop :=
  ∃ before after clock o r, es = before ++ .observe clock c o :: after ∧
    (run (step env) db before).releases.get previous = some r ∧ o.runs r

theorem Returned.snoc {previous} (h : Returned env db c previous es) :
    Returned env db c previous (es ++ [e]) := by
  obtain ⟨before, after, clock, o, r, rfl, hr, hrn⟩ := h
  exact ⟨before, after ++ [e], clock, o, r, by simp, hr, hrn⟩

structure GoingBack (env : Env) (db : DB) (id c previous : UUID) (es : List Event)
    (row : RolloutRow) (a : AssignmentRow) : Prop where
  rollout : (run (step env) db es).rollouts.get id = some row
  state : row.state = .rollingBack ∨ row.state.terminal
  goesTo : row.previousReleaseID = some previous
  assignment : (run (step env) db es).assignments.get c = some a
  of : a.rolloutID = some id
  desired : a.desiredReleaseID = previous
  target : a.phase.rollbackTarget
  returned : a.phase = .rolledBack → Returned env db c previous es
  complete : row.state = .rolledBack → a.phase = .rolledBack

theorem RowMoves.conclusive (h : RowMoves db db' e a a') (hok : Conclusive db e)
    (hrw : db.rollouts.get id = some row) (hb : row.state = .rollingBack)
    (ha : db.assignments.get c = some a) (hof : a.rolloutID = some id)
    (htg : a.phase.rollbackTarget) :
    a'.rolloutID = a.rolloutID ∧ a'.desiredReleaseID = a.desiredReleaseID ∧
      a'.phase.rollbackTarget ∧ (a'.phase = .rolledBack → a.phase = .rolledBack ∨
        ∃ clock o r, e = .observe clock c o ∧ db.releases.get a.desiredReleaseID = some r ∧
          o.runs r) := by
  rcases h.of_rollingBack hrw hb hof with rfl | ⟨clock, o, r, rfl, hr, rfl⟩
  · exact ⟨rfl, rfl, htg, .inl⟩
  · obtain rfl := Keyed.key_of_get ha
    have hst : db.stateOf id = some .rollingBack := by rw [DB.stateOf, hrw, Option.map_some, hb]
    obtain ⟨hne, hc⟩ := hok a ha id hof hst
    obtain ⟨hk, hrt⟩ := @observedPhase_conclusive o r a.phase htg hne
      fun hph => (hc hph).imp_right fun hrn => hrn r hr
    refine ⟨rfl, rfl, hk, fun hph => ?_⟩
    exact (hrt hph).imp_right fun hrn => ⟨clock, o, r, rfl, hr, hrn⟩

theorem phase_of_verdict (hv : rollbackVerdict (countsOf clock db row) = .rolledBack)
    (ha : db.assignments.get c = some a) (hof : a.rolloutID = some row.id)
    (htg : a.phase.rollbackTarget) : a.phase = .rolledBack := by
  rcases rollbackVerdict_cases (countsOf clock db row) with ⟨h, -⟩ | ⟨-, hc⟩ | h
  · rw [h] at hv
    cases hv
  · exact (rollbackComplete_iff.mp hc).2 a (Keyed.mem_of_get ha) hof htg
  · rw [h] at hv
    cases hv

theorem GoingBack.snoc {previous} (h : GoingBack env db id c previous es row a)
    (hl : row.state.terminal = false) (hok : Conclusive (run (step env) db es) e) :
    ∃ row' a', GoingBack env db id c previous (es ++ [e]) row' a' := by
  have hrn : run (step env) db (es ++ [e]) = step env (run (step env) db es) e := run_snoc
  have hb : row.state = .rollingBack := h.state.resolve_right (by simp [hl])
  have hsp := @step_cases env (run (step env) db es) e
  rw [← hrn] at hsp
  obtain ⟨row', hr', hc, hst⟩ := hsp.of_rollingBack h.rollout hb
  obtain ⟨a', ha', hm⟩ := hsp.moves h.assignment
  obtain ⟨hof, hd, htg, hrt⟩ := hm.conclusive hok h.rollout hb h.assignment h.of h.target
  refine ⟨row', a', hr', ?_, hc.previousReleaseID.trans h.goesTo, ha', hof.trans h.of,
    hd.trans h.desired, htg, fun hph => ?_, fun he => ?_⟩
  · rcases hst with hst | ⟨clock, hst, -⟩
    · exact .inl hst
    · rw [hst]
      rcases rollbackVerdict_cases (countsOf clock (run (step env) db es) row) with
        ⟨h, -⟩ | ⟨h, -⟩ | h <;> simp [h, RolloutState.terminal]
  · rcases hrt hph with hbf | ⟨clock, o, r, rfl, hr, hrs⟩
    · exact (h.returned hbf).snoc
    · exact ⟨es, [], clock, o, r, rfl, h.desired ▸ hr, hrs⟩
  · -- the pass that ends the rollback writes no assignment
    rcases hst with hst | ⟨clock, hst, hs⟩
    · rw [hst] at he
      cases he
    · rw [hs, h.assignment] at ha'
      obtain rfl := Option.some.inj ha'
      exact phase_of_verdict (hst ▸ he) h.assignment
        (h.of.trans (congrArg some (Keyed.key_of_get h.rollout).symm)) h.target

def DB.Live (db : DB) (id : UUID) : Prop := ∀ s ∈ db.stateOf id, s.terminal = false
deriving Decidable

/-- **Rollbacks are sound** as long as reports are conclusive. The event `e` takes the rollout
into `rolling_back` and with it the assignment of the cluster `c`; the events `es` follow, none
of them after the rollout has ended. Then the assignment is still one of the rollback's
targets, and if the rollout is now `rolled_back`, the cluster has reported in between that it
runs the previous release. -/
theorem rollback_sound (env : Env) (hbefore : db.stateOf id ≠ some .rollingBack)
    (hback : (step env db e).stateOf id = some .rollingBack)
    (ha : (step env db e).assignments.get c = some a) (hof : a.rolloutID = some id)
    (hphase : a.phase = .rollingBack)
    (hlive : RunMeets (step env) (fun db _ => db.Live id) (step env db e) es)
    (hmeets : RunMeets (step env) Conclusive (step env db e) es) :
    ∃ row' a', (run (step env) (step env db e) es).rollouts.get id = some row' ∧
      (run (step env) (step env db e) es).assignments.get c = some a' ∧
      a'.rolloutID = some id ∧
      a'.phase ∈ [.rollingBack, .rolledBack, .rollbackFailed] ∧
      (row'.state = .rolledBack →
        ∃ previous ∈ row'.previousReleaseID, Returned env (step env db e) c previous es) := by
  obtain ⟨row, hr, hst⟩ := Option.map_eq_some_iff.mp hback
  obtain ⟨now, row0, t, hc, hb⟩ := (step_cases db e).begins hbefore hr hst
  have hid : row0.id = id := hc.id.symm.trans (Keyed.key_of_get hr)
  have hg : ∃ row' a', GoingBack env (step env db e) id c a.desiredReleaseID es row' a' := by
    refine (hlive.and hmeets).history (P := fun es => ∃ row' a',
      GoingBack env (step env db e) id c a.desiredReleaseID es row' a') ?_ ?_
    · rintro past e' ⟨row', a', hg⟩ ⟨hlive, hok⟩
      have hr' : (run (step env) (step env db e) past).stateOf id = some row'.state := by
        rw [DB.stateOf, hg.rollout, Option.map_some]
      exact hg.snoc (hlive _ hr') hok
    · refine ⟨row, a, hr, .inl hst, ?_, ha, hof, rfl, by rw [hphase]; rfl, ?_, ?_⟩
      · exact hc.previousReleaseID.trans (hb.desired ha (hid ▸ hof) hphase)
      · simp [hphase]
      · simp [hst]
  obtain ⟨row', a', hg⟩ := hg
  refine ⟨row', a', hg.rollout, hg.assignment, hg.of, ?_, fun he => ?_⟩
  · simpa using Phase.rollbackTarget_iff.mp hg.target
  · exact ⟨_, hg.goesTo, hg.returned (hg.complete he)⟩

namespace Fleet

def underway : DB :=
  run (step Fleet.env) Fleet.db [start 1 2 strategy, act 1 1 .approve, pass 1]

def undone : DB := step Fleet.env underway (act 1 3 .rollback)

def returns : List Event := [runs 11 1 'a', runs 12 1 'a', runs 13 1 'a', pass 1]

def forgets : List Event := [runs 11 1 'a', runs 12 1 'a', degraded 13, pass 1]

def report (c : UUID) : Event → Option Inventory
  | .observe _ c' o => if c' = c then some o else none
  | _ => none

end Fleet

open Fleet in
theorem returns_sound : (run (step Fleet.env) undone returns).stateOf 1 = some .rolledBack ∧
      ∃ previous, Returned Fleet.env undone 13 previous returns := by
  have he : (run (step Fleet.env) undone returns).stateOf 1 = some .rolledBack := by decide +kernel
  have hr : (undone.assignments.get 13).map (fun a => (a.rolloutID, a.phase)) =
      some (some 1, .rollingBack) := by
    decide +kernel
  obtain ⟨a, ha, hc⟩ := Option.map_eq_some_iff.mp hr
  obtain ⟨row', -, hr', -, -, -, hrt⟩ := rollback_sound Fleet.env
    (by decide +kernel : underway.stateOf 1 ≠ some .rollingBack)
    (by decide +kernel : undone.stateOf 1 = some .rollingBack) ha
    (congrArg Prod.fst hc) (congrArg Prod.snd hc)
    (by decide +kernel : RunMeets (step Fleet.env) (fun db _ => db.Live 1) undone returns)
    (by decide +kernel)
  rw [DB.stateOf, show (run (step Fleet.env) undone returns).rollouts.get 1 = some row' from hr',
    Option.map_some] at he
  obtain ⟨previous, -, hsn⟩ := hrt (Option.some.inj he)
  exact ⟨by rw [DB.stateOf]; exact (congrArg _ hr').trans he, previous, hsn⟩

open Fleet in
/-- **A rollback that forgets a cluster**: cluster `13` was sent back and has never been ready
since, but its assignment has left the targets and the rollout ends as `rolled_back`. -/
theorem forgets_unsound :
    underway.stateOf 1 ≠ some .rollingBack ∧ undone.stateOf 1 = some .rollingBack ∧
      (undone.assignments.get 13).map AssignmentRow.phase = some .rollingBack ∧
      (∀ e ∈ forgets, ∀ o ∈ report 13 e, o.ready = false) ∧
      (run (step Fleet.env) undone (forgets.take 3)).stateOf 1 = some .rollingBack ∧
      ((run (step Fleet.env) undone (forgets.take 3)).assignments.get 13).map
        AssignmentRow.phase = some .applying ∧
      (run (step Fleet.env) undone forgets).stateOf 1 = some .rolledBack ∧
      ((run (step Fleet.env) undone forgets).assignments.get 13).map AssignmentRow.phase =
        some .applying := by
  decide +kernel

end Astronomer.Delivery.SystemRollout
