import Astronomer.Delivery.SystemRollout.RollbackVerdict

/-!
# What a pass may release, and when a rollout has succeeded

The slots of a pass come from two budgets and are computed in `int64`. Success is asked of the
number of ready assignments only: those that became ready a moment ago count as well.
-/

namespace Astronomer.Delivery.SystemRollout

variable {env : Env} {clock : Clock} {db db' db0 : DB} {e : Event} {es : List Event} {id c : UUID}
  {row row' : RolloutRow} {a a' : AssignmentRow} {t : Time}
  {total : Nat} {amount : Amount}

/-! ## Slots -/

/-- A signed computation in `bits` bits, `none` if it overflows. -/
def fits (bits : Nat) (x : Int) : Option Int :=
  if -2 ^ (bits - 1) ≤ x ∧ x < 2 ^ (bits - 1) then some x else none

/-- `systemUnavailableBudget` in the machine's arithmetic. -/
def systemUnavailableBudget64 (amount : Amount) (fleet : Int) : Option Int := do
  let limit ← match amount.type with
    | .count => pure (min (amount.value : Int) fleet)
    | .percent => (fits 64 (fleet * amount.value)).map (Int.tdiv · 100)
    | .unset => pure fleet
  pure (max limit 1)

/-- `systemReleaseSlots` in the machine's arithmetic, every sum and product checked. -/
def systemReleaseSlots64 (strategy : RolloutStrategy) (total : Int) (current : Counts) :
    Option Int := do
  if total ≤ 0 then return 0
  let reserved ← fits 64 (current.inFlight + current.immatureReady)
  let concurrency ← fits 64 (min (strategy.maxConcurrent : Int) total - reserved)
  let limit ← systemUnavailableBudget64 strategy.maxUnavailable total
  let unreserved ← fits 64 (limit - reserved)
  let available ← fits 64 (unreserved - current.failed)
  let slots := min concurrency available
  if slots ≤ 0 then return 0
  if (maxInt32 : Int) < slots then return total
  fits 32 slots

theorem fits_of_lt {bits : Nat} {x : Int} (hlo : -2 ^ (bits - 1) ≤ x) (hhi : x < 2 ^ (bits - 1)) :
    fits bits x = some x := if_pos ⟨hlo, hhi⟩

theorem systemUnavailableBudget64_eq (ht : total ≤ maxInt32) (hv : amount.value < 2 ^ 32) :
    systemUnavailableBudget64 amount total = some (systemUnavailableBudget amount total : Int) ∧
      1 ≤ systemUnavailableBudget amount total ∧ systemUnavailableBudget amount total < 2 ^ 62 := by
  have hm : total * amount.value ≤ maxInt32 * (2 ^ 32 - 1) :=
    Nat.mul_le_mul ht (Nat.le_pred_of_lt hv)
  have hp : (total : Int) * amount.value = (total * amount.value : Nat) := by push_cast; rfl
  unfold systemUnavailableBudget64 systemUnavailableBudget
  unfold maxInt32 at *
  cases amount.type with
  | percent =>
    have hft : fits 64 (total * amount.value : Nat) = some (total * amount.value : Nat) :=
      fits_of_lt (by omega) (by omega)
    rw [hp, hft]
    generalize total * amount.value = product at *
    simp only [Option.map_some, Option.bind_eq_bind, Option.bind_some, Option.pure_def,
      Option.some.injEq, Int.tdiv_eq_ediv_of_nonneg (Int.natCast_nonneg product)]
    omega
  | _ =>
    simp only [Option.bind_eq_bind, Option.bind_some, Option.pure_def, Option.some.injEq]
    omega

theorem systemReleaseSlots_eq {strategy : RolloutStrategy} {current : Counts}
    (ht : total ≤ maxInt32) :
    (systemReleaseSlots strategy total current : Int) =
      max 0 (min (min strategy.maxConcurrent total - (current.inFlight + current.immatureReady))
        (systemUnavailableBudget strategy.maxUnavailable total -
          (current.inFlight + current.immatureReady) - current.failed)) := by
  simp only [systemReleaseSlots]
  unfold maxInt32 at *
  split
  · omega
  · split
    · omega
    · split <;> omega

/-- **The slots of a pass respect both budgets, and are none only if a budget is used up.** The
machine computes them without an overflow. -/
theorem systemReleaseSlots_exact (strategy : RolloutStrategy) (total : Nat) (current : Counts)
    (htotal : total ≤ maxInt32) (hcounts : current.inFlight ≤ maxInt32 ∧
      current.immatureReady ≤ maxInt32 ∧ current.failed ≤ maxInt32)
    (hconcurrent : strategy.maxConcurrent < 2 ^ 32)
    (hunavailable : strategy.maxUnavailable.value < 2 ^ 32) :
    let s := systemReleaseSlots strategy total current
    let reserved := current.inFlight + current.immatureReady
    let budget := systemUnavailableBudget strategy.maxUnavailable total
    systemReleaseSlots64 strategy total current = some (s : Int) ∧ s ≤ total ∧
      (0 < s → reserved + s ≤ min strategy.maxConcurrent total ∧
        reserved + current.failed + s ≤ budget) ∧
      (reserved + 1 ≤ min strategy.maxConcurrent total → reserved + current.failed + 1 ≤ budget →
        0 < s) ∧
      (0 < total → 1 ≤ strategy.maxConcurrent → reserved = 0 → current.failed = 0 → 0 < s) := by
  intro s reserved budget
  obtain ⟨hb, hp, hlt⟩ := systemUnavailableBudget64_eq htotal hunavailable
  have hs : (s : Int) = _ := systemReleaseSlots_eq htotal
  refine ⟨?_, by omega, by omega, by omega, by omega⟩
  simp only [systemReleaseSlots64, hb, Option.bind_eq_bind, Option.bind_some]
  unfold maxInt32 at *
  split
  · simp; omega
  · rw [fits_of_lt (by omega) (by omega), Option.bind_some, fits_of_lt (by omega) (by omega),
      Option.bind_some, fits_of_lt (by omega) (by omega), Option.bind_some,
      fits_of_lt (by omega) (by omega), Option.bind_some]
    split
    · simp; omega
    · split
      · simp; omega
      · rw [fits_of_lt (by omega) (by omega)]
        simp; omega

/-! ## Ready since -/

def DB.IsReady (db : DB) (c : UUID) : Prop :=
  ∃ a, db.assignments.get c = some a ∧ a.phase = .ready

/-- A report of the run `es`, made at `t`, found the cluster ready. -/
def FoundReady (env : Env) (db : DB) (c : UUID) (es : List Event) (t : Time) : Prop :=
  ∃ past clock o rest, es = past ++ .observe clock c o :: rest ∧ o.observedAt = t ∧
    (run (step env) db (past ++ [.observe clock c o])).IsReady c

/-- The cluster is ready after the run `es`, and has been after every event since a report made
at `t`, before which it was not. -/
def ReadySince (env : Env) (db : DB) (c : UUID) (es : List Event) (t : Time) : Prop :=
  ∃ past clock o rest, es = past ++ .observe clock c o :: rest ∧ o.observedAt = t ∧
    ¬ (run (step env) db past).IsReady c ∧
    ∀ pre, pre <+: rest → (run (step env) db (past ++ .observe clock c o :: pre)).IsReady c

theorem ReadySince.found (h : ReadySince env db c es t) : FoundReady env db c es t := by
  obtain ⟨past, clock, o, rest, rfl, rfl, -, hready⟩ := h
  exact ⟨past, clock, o, rest, rfl, rfl, hready [] (List.nil_prefix)⟩

theorem ReadySince.snoc (h : ReadySince env db c es t)
    (h' : (run (step env) db (es ++ [e])).IsReady c) : ReadySince env db c (es ++ [e]) t := by
  obtain ⟨past, clock, o, rest, rfl, rfl, hnot, hready⟩ := h
  refine ⟨past, clock, o, rest ++ [e], by simp, rfl, hnot, fun pre hpre => ?_⟩
  rcases List.prefix_concat_iff.mp hpre with rfl | hpre
  · simpa using h'
  · exact hready pre hpre

/-- The time since when a cluster has been ready is one. -/
theorem ReadySince.eq {u : Time} (h : ReadySince env db c es t) (h' : ReadySince env db c es u) :
    t = u := by
  obtain ⟨past, clock, o, rest, rfl, rfl, hnot, hready⟩ := h
  obtain ⟨past', clock', o', rest', heq, rfl, hnot', hready'⟩ := h'
  -- the later of two reports would find the cluster ready already
  rcases List.append_eq_append_iff.mp heq with ⟨as, rfl, has⟩ | ⟨as, rfl, has⟩
  · cases as with
    | nil =>
      cases has
      rfl
    | cons e as =>
      cases has
      exact absurd (hready as (List.prefix_append _ _)) hnot'
  · cases as with
    | nil =>
      cases has
      rfl
    | cons e as =>
      cases has
      exact absurd (hready' as (List.prefix_append _ _)) hnot

/-- `ready_at` is the beginning of the time a cluster has been ready. A row that is not ready has
none, unless its rollback is over. -/
structure AssignmentRow.Dated (a : AssignmentRow) (since : Time → Prop) : Prop where
  ready : a.phase = .ready → ∃ t, a.readyAt = some t ∧ since t
  unready : a.phase ≠ .ready → a.phase ≠ .rolledBack → a.readyAt = none

variable {since since' : Time → Prop}

theorem AssignmentRow.Dated.observe {o : Inventory} {r : ReleaseRow} (h : a.Dated since)
    (hry : (a.observe o r).phase = .ready →
      (a.phase ≠ .ready → since' o.observedAt) ∧ ∀ t, since t → since' t) :
    (a.observe o r).Dated since' := by
  have hph : (a.observe o r).phase = observedPhase o r a.phase := rfl
  have hat : (a.observe o r).readyAt = if a.phase = .pending ∨ a.phase = .aborted then a.readyAt
    else if o.runs r then some (a.readyAt.getD o.observedAt) else none := rfl
  by_cases hi : a.phase = .pending ∨ a.phase = .aborted
  · rw [observedPhase, if_pos hi] at hph
    rw [if_pos hi] at hat
    constructor
    · intro hrd
      rw [hph] at hrd
      simp [hrd] at hi
    · intro hne hbc
      exact hat.trans (h.unready (hph ▸ hne) (hph ▸ hbc))
  rw [observedPhase, if_neg hi] at hph
  rw [if_neg hi] at hat
  by_cases hr : o.runs r
  · rw [if_pos hr] at hat
    by_cases hbc : a.phase = .rollingBack ∨ a.phase = .rolledBack
    · rw [if_pos ⟨hr, hbc⟩] at hph
      exact ⟨by simp [hph], by simp [hph]⟩
    · rw [if_neg (by simp [hbc]), if_pos hr] at hph
      refine ⟨fun _ => ⟨_, hat, ?_⟩, fun hne => absurd hph hne⟩
      obtain ⟨hn, hst⟩ := hry hph
      cases hold : a.readyAt with
      | none =>
        refine hn fun hrd => ?_
        obtain ⟨t, ht, -⟩ := h.ready hrd
        cases hold.symm.trans ht
      | some t =>
        -- only a ready row has a time here, and it keeps it
        have hrd : a.phase = .ready := by
          by_contra hne
          rw [h.unready hne fun hb => hbc (.inr hb)] at hold
          cases hold
        obtain ⟨t', ht', hs⟩ := h.ready hrd
        rw [hold] at ht'
        cases ht'
        exact hst t hs
  · rw [if_neg hr] at hat
    refine ⟨fun hrd => ?_, fun _ _ => hat⟩
    rw [hph] at hrd
    grind

theorem RowMoves.dated (h : RowMoves db db' e a a')
    (hd : a'.rolloutID = a.rolloutID → a.Dated since)
    (hry : a'.phase = .ready → (∀ t, since t → since' t) ∧
      ∀ clock o, e = .observe clock a.clusterID o → a.phase ≠ .ready → since' o.observedAt) :
    a'.Dated since' := by
  cases h with
  | kept =>
    refine ⟨fun hr => ?_, (hd rfl).unready⟩
    obtain ⟨t, ht, hs⟩ := (hd rfl).ready hr
    exact ⟨t, ht, (hry hr).1 t hs⟩
  | ensured _ _ _ _ _ he => exact ⟨by simp [he.pending], fun _ _ => he.unready⟩
  | observed _ => exact (hd rfl).observe fun hr => ⟨(hry hr).2 _ _ rfl, (hry hr).1⟩
  | aborted _ _ _ hpd _ =>
    exact ⟨nofun, fun _ _ => (hd rfl).unready (by simp [hpd]) (by simp [hpd])⟩
  | released _ hf _ =>
    exact ⟨nofun, fun _ _ => (hd rfl).unready (by simp [hf.pending]) (by simp [hf.pending])⟩
  | _ => exact ⟨nofun, fun _ _ => rfl⟩

theorem run_dated (hl : db0.Linked) (hn : db0.rollouts.get id = none)
    (ha : (run (step env) db0 es).assignments.get c = some a) (hof : a.rolloutID = some id) :
    a.Dated (ReadySince env db0 c es) := by
  induction es using List.reverseRecOn generalizing a with
  | nil =>
    have hso := hl c a id ha hof
    rw [hn] at hso
    cases hso
  | append_singleton past e ih =>
    have hg := ha
    rw [run_snoc] at hg
    rcases (step_cases _ e).rows hg with ⟨a1, ha1, hm⟩ | ⟨-, hn⟩
    · refine hm.dated (fun hsm => ih ha1 (hsm ▸ hof)) fun hrd => ?_
      have hr : (run (step env) db0 (past ++ [e])).IsReady c := ⟨a, ha, hrd⟩
      refine ⟨fun t hs => hs.snoc hr, ?_⟩
      rintro clock o rfl hph
      rw [Keyed.key_of_get ha1] at hr ⊢
      refine ⟨past, clock, o, [], rfl, rfl, ?_, fun pre hpre => ?_⟩
      · rintro ⟨a2, ha2, hph2⟩
        cases ha1.symm.trans ha2
        exact hph hph2
      · rw [List.prefix_nil.mp hpre]
        exact hr
    · cases hn with
      | seeded => cases hof
      | ensured _ _ _ _ _ he => exact ⟨by simp [he.pending], fun _ _ => he.unready⟩

/-! ## Success -/

theorem RolloutMoves.succeeded (h : RolloutMoves db e db' row row') (hne : row.state ≠ .succeeded)
    (hst : row'.state = .succeeded) (he : e = .reconcile clock id) :
    (countsOf clock db row).ready = row.totalClusters := by
  cases h with
  | kept => exact absurd hst hne
  | acted => cases he
  | @back clock' _ _ _ _ _ _ _ hv =>
    rcases rollbackVerdict_cases (countsOf clock' db row) with ⟨h, -⟩ | ⟨h, -⟩ | h <;>
      rw [h, hst] at hv <;> cases hv
  | forward _ _ hf =>
    cases he
    exact hf.complete hst

theorem DB.Counted.all_ready (h : db.Counted) (hr : db.rollouts.get id = some row)
    (hc : (countsOf clock db row).ready = row.totalClusters) (ha : a ∈ db.assignments.rows)
    (hof : a.rolloutID = some id) : a.phase = .ready := by
  have hle := h.counted id row hr
  rw [← hc] at hle
  obtain rfl := Keyed.key_of_get hr
  have heq := le_antisymm (Keyed.count_le_count fun b hb => (Bool.and_eq_true_iff.mp hb).1) hle
  have hal := (Keyed.count_eq_count fun b hb => (Bool.and_eq_true_iff.mp hb).1).mp heq a ha
    (AssignmentRow.isOf_iff.mpr hof)
  simpa using (Bool.and_eq_true_iff.mp hal).2

/-- **What the success of a system rollout says.** When a pass finishes a rollout as succeeded,
every assignment of it is ready, and `ready_at` is when it became so. All of them have been
ready for `MinReady` exactly if the pass comes that long after each report since which one of
them has been ready, which this branch does not ask; so if it comes that long after every
report that found one of them ready. -/
theorem succeeded_settled_iff (env : Env) (db0 : DB) (es : List Event) (clock : Clock) (id : UUID)
    (row : RolloutRow) (hcounted : db0.Counted) (hnew : db0.rollouts.get id = none)
    (hrow : (run (step env) db0 es).rollouts.get id = some row) (hne : row.state ≠ .succeeded)
    (hdone : (run (step env) db0 (es ++ [.reconcile clock id])).stateOf id = some .succeeded) :
    let db := run (step env) db0 es
    let settled := ∀ a ∈ db.assignments.rows, a.rolloutID = some id →
      ∃ t, ReadySince env db0 a.clusterID es t ∧ t + row.strategy.minReady ≤ clock.dbNow
    (∀ a ∈ db.assignments.rows, a.rolloutID = some id → a.phase = .ready ∧
      ∃ t, a.readyAt = some t ∧ ReadySince env db0 a.clusterID es t) ∧
    (settled ↔ ∀ a ∈ db.assignments.rows, a.rolloutID = some id → ∀ t,
      ReadySince env db0 a.clusterID es t → t + row.strategy.minReady ≤ clock.dbNow) ∧
    ((∀ a ∈ db.assignments.rows, a.rolloutID = some id → ∀ t,
      FoundReady env db0 a.clusterID es t → t + row.strategy.minReady ≤ clock.dbNow) →
        settled) := by
  intro db settled
  have hc : db.Counted := run_preserves (fun _ _ h => h.step (step_cases _ _)) hcounted
  rw [run_snoc] at hdone
  obtain ⟨row', hrow', hst⟩ := Option.map_eq_some_iff.mp hdone
  have hry : (countsOf clock db row).ready = row.totalClusters := by
    rcases (step_cases db _).rollouts hrow' with ⟨row1, hrow1, hm⟩ | ⟨hn, -⟩
    · obtain rfl : row1 = row := Option.some.inj (hrow1.symm.trans hrow)
      exact hm.succeeded hne hst rfl
    · rw [show db.rollouts.get id = some row from hrow] at hn
      cases hn
  have hal : ∀ a ∈ db.assignments.rows, a.rolloutID = some id → a.phase = .ready ∧
      ∃ t, a.readyAt = some t ∧ ReadySince env db0 a.clusterID es t := by
    intro a ha hof
    have hph := hc.all_ready hrow hry ha hof
    exact ⟨hph, (run_dated hcounted.linked hnew (Keyed.get_of_mem ha) hof).ready hph⟩
  refine ⟨hal, ⟨fun hs a ha hof t ht => ?_, fun hs a ha hof => ?_⟩, fun hs a ha hof => ?_⟩
  · obtain ⟨u, hu, hle⟩ := hs a ha hof
    exact ht.eq hu ▸ hle
  all_goals obtain ⟨-, t, -, ht⟩ := hal a ha hof
  · exact ⟨t, ht, hs a ha hof t ht⟩
  · exact ⟨t, ht, hs a ha hof t ht.found⟩

namespace Fleet

def idle : Counts := ⟨0, 0, 0, 3, 0, 0, 0, 0, 0, 3, -1⟩

/-- All clusters are released at once and report that they are ready. -/
def readyRun (minReady : Duration) : List Event :=
  [start 1 2 { strategy with minReady }, act 1 1 .approve, pass 1, runs 11 2 'b', runs 12 2 'b',
    runs 13 2 'b']

end Fleet

open Fleet in
theorem idle_releases : 0 < systemReleaseSlots Fleet.strategy 3 idle :=
  (systemReleaseSlots_exact Fleet.strategy 3 idle (by decide) (by decide) (by decide)
    (by decide)).2.2.2.2 (by decide) (by decide) rfl rfl

open Fleet in
/-- The pass comes five nanoseconds after the reports, as long as the clusters are to be ready. -/
theorem readyRun_settled : (run (step Fleet.env) Fleet.db (readyRun 5)).Has 1 (fun _ => true) ∧
    ∀ a ∈ (run (step Fleet.env) Fleet.db (readyRun 5)).assignments.rows,
      a.rolloutID = some 1 → ∃ t, ReadySince Fleet.env Fleet.db a.clusterID (readyRun 5) t ∧
        t + 5 ≤ 30 := by
  have hrd : ((run (step Fleet.env) Fleet.db (readyRun 5)).rollouts.get 1).map
      (fun row => (row.state, row.strategy.minReady)) = some (.progressing, 5) := by
    decide +kernel
  obtain ⟨row, hr, hc⟩ := Option.map_eq_some_iff.mp hrd
  simp only [Prod.mk.injEq] at hc
  have hs := succeeded_settled_iff Fleet.env Fleet.db (readyRun 5) (at' 30) 1 row
    db_counted rfl hr (by simp [hc.1]) (by decide +kernel)
  rw [hc.2] at hs
  refine ⟨by decide +kernel, hs.2.2 fun a _ _ t ht => ?_⟩
  -- every report of the run was made at 25
  obtain ⟨past, clock, o, rest, heq, rfl, -⟩ := ht
  have hmem : .observe clock a.clusterID o ∈ readyRun 5 := by simp [heq]
  have ho : o.observedAt = 25 := by
    simp only [readyRun, Fleet.start, Fleet.act, Fleet.pass, Fleet.runs, List.mem_cons,
      Event.observe.injEq, reduceCtorEq, List.not_mem_nil, false_or, or_false] at hmem
    rcases hmem with ⟨-, -, rfl⟩ | ⟨-, -, rfl⟩ | ⟨-, -, rfl⟩ <;> rfl
  rw [ho]
  decide

open Fleet in
/-- A rollout that wants its clusters to be ready for a millisecond succeeds five nanoseconds
after the last of them became ready. -/
theorem readyRun_unsettled :
    (run (step Fleet.env) Fleet.db (readyRun 1000000 ++ [pass 1])).stateOf 1 = some .succeeded ∧
      (∀ row ∈ (run (step Fleet.env) Fleet.db (readyRun 1000000)).rollouts.get 1,
        row.state = .progressing ∧ row.strategy.minReady = 1000000) ∧
      ∀ a ∈ (run (step Fleet.env) Fleet.db (readyRun 1000000)).assignments.rows,
        a.rolloutID = some 1 ∧ a.readyAt = some 25 ∧ ¬ 25 + 1000000 ≤ (at' 30).dbNow := by
  decide +kernel

end Astronomer.Delivery.SystemRollout
