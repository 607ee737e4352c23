import Astronomer.Base.Versioned
import Astronomer.Delivery.Decisions
import Astronomer.Delivery.Writes

/-!
# What workers hold

A worker's claim, its rows and its decision, and what the caches hold, are copies tagged with
the generation they were read at. Which changes move the generation is the hypothesis `Ages`.
-/

namespace Astronomer.Delivery

open List

variable {now : Time} {cache : RuntimeCache} {c : CacheEntry}

variable {env : Env} {senv : StatusEnv} {plan : FrozenRollout} {w : World} {e : Event} {j : Job}
  {db db' : DB} {id x : UUID}

theorem World.Commits.approvals (h : w.Commits env senv e db') :
    ∃ new, db'.approvals = w.db.approvals ++ new := by
  cases h with
  | create h => exact ⟨[], by simp [(insertRollout_log h).1]⟩
  | claim h =>
    obtain ⟨_, -, -, -, -, rfl⟩ := claimDeliveryRollout_eq_some h
    exact ⟨[], by simp [DB.updateRollouts]⟩
  | apply _ h =>
    obtain ⟨counted, hbf, haf⟩ := applyDecision_frame h
    refine ⟨[], ?_⟩
    rw [haf.approvals, append_nil, ← hbf.approvals]
    rfl
  | act h =>
    obtain ⟨_, _, -, -, -, -, rfl, -⟩ := act_eq_ok h
    refine ⟨[], ?_⟩
    simp only [DB.createRolloutEvent, DB.updateRollouts, resetTables, append_nil]
    split <;> rfl
  | @approve clock request _ h =>
    obtain ⟨_, _, -, -, -, rfl, -⟩ := approve_eq_ok h
    refine ⟨[request.row clock.dbNow], ?_⟩
    simp only [DB.createRolloutEvent, approvalTables]
    split <;> rfl
  | ingest h => exact ⟨[], by simp [(ingest_frame h).approvals]⟩
  | connection => exact ⟨[], by simp [writeConnection_around.approvals]⟩
  | dropConnection => exact ⟨[], by simp [dropConnection_around.approvals]⟩
  | labels => exact ⟨[], by simp [writeLabels_around.approvals]⟩
  | writeDeployment => exact ⟨[], by simp [(writeDeploymentRow_frame (P := StatusLog)).approvals]⟩

theorem World.approvals_step : ∃ new, (w.step env senv e).db.approvals = w.db.approvals ++ new :=
  World.step_db_induct (P := fun db => ∃ new, db.approvals = w.db.approvals ++ new)
    ⟨[], by simp⟩ fun _ h => h.approvals

/-! ## Claims and decisions -/

/-- A worker of the rollout holds its plan, and a decision of it is an evaluation that
saw only approvals on record. -/
def Job.Sound (env : Env) (plan : FrozenRollout) (db : DB) (j : Job) : Prop :=
  j.claimed.frozenPlan = plan ∧
    ∀ runtime decision now, j.stage = .decided runtime decision now →
      ∃ approvals windows, (∀ a ∈ approvals, a ∈ db.approvalsOf plan.id) ∧
        evaluateClaimed env j.claimed j.owner runtime.rows approvals windows now = .ok decision

theorem evaluateClaimed_lawful {owner approvals windows} {claimed : RolloutRow}
    {rows : List RuntimeRow} {d : Decision} (hp : claimed.frozenPlan = plan)
    (h : evaluateClaimed env claimed owner rows approvals windows now = .ok d) :
    ∃ input clusters, input.snapshot = runtimeFromRows plan claimed rows ∧ input.now = now ∧
      input.initialApproval = initialApproval approvals ∧ plan.validate env = .ok () ∧
      validateRuntime plan (rows.map RuntimeRow.toRuntime) = .ok clusters ∧
      d.Lawful env input clusters := by
  simp only [evaluateClaimed, bind_eq_ok] at h
  obtain ⟨plan', hd, maintenance, -, he⟩ := h
  have hp' : plan' = plan := (decodeFrozenPlan_eq_ok hd).trans hp
  subst hp'
  obtain ⟨clusters, hv, hr, hl⟩ := evaluate_lawful he
  exact ⟨_, clusters, rfl, rfl, rfl, hv, hr, hl⟩

structure World.Staffed (env : Env) (plan : FrozenRollout) (w : World) : Prop where
  row : ∃ r, w.db.core plan.id = some r ∧ r.frozenPlan = plan
  jobs : ∀ j ∈ w.jobs, j.claimed.id = plan.id → j.Sound env plan w.db

theorem World.Staffed.isSome (h : w.Staffed env plan) : (w.db.rollout plan.id).isSome := by
  obtain ⟨r, hr, -⟩ := h.row
  have := congrArg Option.isSome hr
  simpa [DB.core] using this

theorem World.Staffed.jobs_step (h : w.Staffed env plan)
    (hj : j ∈ (w.step env senv e).jobs) (hid : j.claimed.id = plan.id) :
    j.Sound env plan (w.step env senv e).db := by
  obtain ⟨new, hn⟩ := @World.approvals_step env senv w e
  have hg : ∀ a ∈ w.db.approvalsOf plan.id, a ∈ (w.step env senv e).db.approvalsOf plan.id := by
    intro a ha
    simp only [DB.approvalsOf, mem_filter] at ha ⊢
    exact ⟨by rw [hn]; exact mem_append_left _ ha.1, ha.2⟩
  cases World.step_jobs hj with
  | held hmem =>
    obtain ⟨hp, hdc⟩ := h.jobs j hmem hid
    refine ⟨hp, fun runtime d now hsg => ?_⟩
    obtain ⟨approvals, windows, hs, he⟩ := hdc runtime d now hsg
    exact ⟨approvals, windows, fun a ha => hg a (hs a ha), he⟩
  | claim _ hsg hcm =>
    obtain ⟨r, hr, -, -, hrw, -⟩ := claimDeliveryRollout_eq_some hcm
    refine ⟨?_, fun _ _ _ hd => by rw [hsg] at hd; cases hd⟩
    obtain ⟨c, hc, hp⟩ := h.row
    have hrd : r.id = plan.id := by
      rw [← hid, hrw]
      rfl
    rw [← DB.id_of_rollout hr, hrd] at hr
    rw [hrw, ← hp, ← DB.core_inj hr hc]
    rfl
  | load _ hmem hsg => exact ⟨(h.jobs _ hmem hid).1, fun _ _ _ hd => by rw [hsg] at hd; cases hd⟩
  | @evaluate _ _ windows _ _ _ hmem hsg he =>
    refine ⟨(h.jobs _ hmem hid).1, fun runtime d now hd => ?_⟩
    rw [hsg] at hd
    cases hd
    refine ⟨_, windows, fun a ha => hg a ?_, he⟩
    rw [listDeliveryRolloutApprovals, hid] at ha
    exact (mem_insertionSort _).mp ha

theorem World.Staffed.step (h : w.Staffed env plan) : (w.step env senv e).Staffed env plan := by
  refine ⟨?_, fun j hj hid => h.jobs_step hj hid⟩
  obtain ⟨r, hr, hp⟩ := h.row
  obtain ⟨r', hr', hf⟩ := @World.frozen_step env senv w e plan.id r hr
  exact ⟨r', hr', (congrArg RolloutRow.frozenPlan hf).trans hp⟩

theorem World.Staffed.of_insert {newID} (hi : insertRollout env w.db now newID plan = .ok db)
    (hjb : ∀ j ∈ w.jobs, j.claimed.id ≠ plan.id) : World.Staffed env plan { w with db } :=
  ⟨⟨plan.toRow.core, by simp [insertRollout_core hi], rfl⟩,
    fun j hj hid => absurd hid (hjb j hj)⟩

/-! ## Caches -/

theorem RuntimeCache.entry_put :
    (cache.put c).entry x = if x = c.rolloutID then some c else cache.entry x := by
  simp only [RuntimeCache.put, RuntimeCache.entry, find?_cons]
  split
  next hx => simp [← (beq_iff_eq.mp hx)]
  next hx =>
    have hne : x ≠ c.rolloutID := fun heq => by simp [heq] at hx
    rw [if_neg hne, find?_filter]
    congr 1
    funext c'
    by_cases hc : c'.rolloutID = x
    · simp [hc, hne]
    · simp [hc]

theorem RuntimeCache.entry_filter {y}
    (h : RuntimeCache.entry (cache.filter (·.rolloutID != y)) x = some c) :
    cache.entry x = some c := by
  simp only [RuntimeCache.entry, find?_filter] at h ⊢
  have hk := find?_some h
  simp only [bne_iff_ne, beq_iff_eq, decide_eq_true_eq] at hk
  obtain ⟨hy, hx⟩ := hk
  rw [← h]
  congr 1
  funext c'
  by_cases hc : c'.rolloutID = x
  · rw [hx] at hy
    simp [hc, hy]
  · simp [hc]

theorem entry_storeRuntime {rolloutID generation rows}
    (h : (storeRuntime cache rolloutID generation rows now).entry x = some c) :
    x = rolloutID ∧ c = ⟨rolloutID, generation, rows, now⟩ ∨ cache.entry x = some c := by
  simp only [storeRuntime, RuntimeCache.entry_put] at h
  split at h
  next hx => exact .inl ⟨hx, (Option.some.inj h).symm⟩
  · refine .inr ?_
    split at h
    · split at h
      · exact RuntimeCache.entry_filter h
      · exact h
    · exact h

theorem mem_listDeliveryRolloutRuntime {limit} {row : RuntimeRow}
    (h : row ∈ listDeliveryRolloutRuntime db id limit) :
    ∃ r, db.rollout id = some r ∧ row.runtimeGeneration = r.runtimeGeneration ∧
      row.row ∈ db.clustersOf id := by
  simp only [listDeliveryRolloutRuntime] at h
  split at h
  · cases h
  next r hr =>
    have hmem := (mem_insertionSort _).mp (mem_of_mem_take h)
    rw [mem_filterMap] at hmem
    obtain ⟨rc, hrc, hrw⟩ := hmem
    simp only [runtimeRow, Option.map_eq_some_iff] at hrw
    obtain ⟨_, -, rfl⟩ := hrw
    exact ⟨r, hr, rfl, hrc⟩

def DB.runtimeRows (db : DB) (id : UUID) : List RuntimeRow :=
  listDeliveryRolloutRuntime db id (maxRolloutClusters + 1)

def DB.generation (db : DB) (id : UUID) : Int :=
  (db.rollout id).elim 0 (·.runtimeGeneration)

theorem DB.generation_of_rollout {r : RolloutRow} (h : db.rollout id = some r) :
    db.generation id = r.runtimeGeneration := by
  rw [DB.generation, h, Option.elim_some]

theorem loadRuntime_eq_ok {cache'} {claimed : RolloutRow} {runtime : LoadedRuntime}
    (h : loadRuntime db cache claimed now = .ok (cache', runtime)) :
    (∃ c, cache.entry claimed.id = some c ∧ c.generation = claimed.runtimeGeneration ∧
        runtime = ⟨c.rows, c.generation⟩ ∧ cache' = cache.put { c with usedAt := now }) ∨
    runtime.rows = db.runtimeRows claimed.id ∧ (runtime.generation = db.generation claimed.id ∧
          cache' = storeRuntime cache claimed.id runtime.generation runtime.rows now ∨
        runtime.generation = claimed.runtimeGeneration ∧ cache' = cache) := by
  simp only [loadRuntime] at h
  split at h
  · cases h
  · split at h
    next touched rows hcc =>
      cases h
      simp only [cachedRuntime, Option.bind_eq_some_iff] at hcc
      obtain ⟨c, hc, hs⟩ := hcc
      split at hs
      next hg =>
        cases hs
        exact .inl ⟨c, hc, hg, by rw [hg], rfl⟩
      · cases hs
    · split at h
      · cases h
      · split at h
        next hrs =>
          cases h
          exact .inr ⟨hrs.symm, .inr ⟨rfl, rfl⟩⟩
        next first rest hrs =>
          split at h
          · cases h
            refine .inr ⟨rfl, .inl ⟨?_, ?_⟩⟩
            · have hf : first ∈ listDeliveryRolloutRuntime db claimed.id
                  (maxRolloutClusters + 1) := by
                rw [hrs]
                exact mem_cons_self
              obtain ⟨r, hr, hg, -⟩ := mem_listDeliveryRolloutRuntime hf
              rw [DB.generation_of_rollout hr, hg]
            · rfl
          · cases h

theorem World.step_caches {replica} (h : ((w.step env senv e).caches replica).entry id = some c) :
    (∃ c0, (w.caches replica).entry id = some c0 ∧ c.generation = c0.generation ∧
        c.rows = c0.rows) ∨
      c.generation = w.db.generation id ∧ c.rows = w.db.runtimeRows id := by
  cases e with
  | load i now =>
    simp only [World.step, World.load] at h
    split at h
    next replica' owner claimed hj =>
      split at h
      next cache runtime hl =>
        simp only at h
        split at h
        next heq =>
          subst heq
          rcases loadRuntime_eq_ok hl with ⟨c0, hc0, -, -, rfl⟩ | ⟨hrs, hc⟩
          · rw [RuntimeCache.entry_put] at h
            split at h
            next hid =>
              have hk : c0.rolloutID = claimed.id := by simpa using find?_some hc0
              cases h
              exact .inl ⟨c0, by rw [hid, hk]; exact hc0, rfl, rfl⟩
            · exact .inl ⟨c, h, rfl, rfl⟩
          · rcases hc with ⟨hg, rfl⟩ | ⟨-, rfl⟩
            · rcases entry_storeRuntime h with ⟨rfl, rfl⟩ | h
              · exact .inr ⟨hg, hrs⟩
              · exact .inl ⟨c, h, rfl, rfl⟩
            · exact .inl ⟨c, h, rfl, rfl⟩
        · exact .inl ⟨c, h, rfl, rfl⟩
      · exact .inl ⟨c, h, rfl, rfl⟩
    · exact .inl ⟨c, h, rfl, rfl⟩
  | restart replica' =>
    simp only [World.step] at h
    split at h
    · cases h
    · exact .inl ⟨c, h, rfl, rfl⟩
  | claim replica' owner lease id' now =>
    simp only [World.step] at h
    split at h <;> exact .inl ⟨c, h, rfl, rfl⟩
  | evaluate i now windows =>
    simp only [World.step, World.evaluate] at h
    split at h
    · split at h <;> exact .inl ⟨c, h, rfl, rfl⟩
    · exact .inl ⟨c, h, rfl, rfl⟩
  | apply i now newID =>
    simp only [World.step, World.apply] at h
    split at h <;> exact .inl ⟨c, h, rfl, rfl⟩
  | create _ _ _ | act _ _ | approve _ _ | ingest _ _ _ | connection _ | dropConnection _
  | labels _ _ | writeDeployment _ => exact .inl ⟨c, h, rfl, rfl⟩

/-! ## Copies of the runtime view -/

def Job.runtime (j : Job) : Option LoadedRuntime :=
  match j.stage with
  | .claimed => none
  | .loaded runtime | .decided runtime _ _ => some runtime

structure World.Coherent {ν : Type} (view : DB → ν) (Q : ν → List RuntimeRow → Prop) (id : UUID)
    (w : World) : Prop where
  claims : ∀ j ∈ w.jobs, j.claimed.id = id → j.claimed.runtimeGeneration ≤ w.db.generation id
  jobs : ∀ j ∈ w.jobs, j.claimed.id = id → ∀ runtime, j.runtime = some runtime →
    Current (DB.generation · id) view Q w.db runtime.generation runtime.rows
  caches : ∀ replica c, (w.caches replica).entry id = some c →
    Current (DB.generation · id) view Q w.db c.generation c.rows

section Coherent

variable {ν : Type} {view : DB → ν} {Q : ν → List RuntimeRow → Prop}

theorem World.Coherent.step (h : w.Coherent view Q id) (hv : Q (view w.db) (w.db.runtimeRows id))
    (ha : Ages (DB.generation · id) view w.db (w.step env senv e).db) :
    (w.step env senv e).Coherent view Q id := by
  refine ⟨fun j hj hid => ?_, fun j hj hid runtime hrt => ?_, fun replica c hc => ?_⟩
  · refine le_trans ?_ ha.le
    cases World.step_jobs hj with
    | held hmem => exact h.claims j hmem hid
    | claim _ _ hcm =>
      obtain ⟨r, hr, -, -, hrw, -⟩ := claimDeliveryRollout_eq_some hcm
      have hrd : r.id = id := by
        rw [← hid, hrw]
        rfl
      rw [← DB.id_of_rollout hr, hrd] at hr
      rw [DB.generation_of_rollout hr, hrw]
      exact le_rfl
    | load _ hmem | evaluate _ hmem =>
      have hcm := h.claims _ hmem hid
      exact hcm
  · refine Current.of_ages ?_ ha
    cases World.step_jobs hj with
    | held hmem => exact h.jobs j hmem hid runtime hrt
    | claim _ hsg =>
      rw [Job.runtime, hsg] at hrt
      cases hrt
    | load _ hmem hsg hl =>
      rw [Job.runtime, hsg] at hrt
      cases hrt
      have hcm := h.claims _ hmem hid
      subst hid
      rcases loadRuntime_eq_ok hl with ⟨c, hc, -, rfl, -⟩ | ⟨hrs, ⟨hg, -⟩ | ⟨hg, -⟩⟩
      · exact h.caches _ _ hc
      · rw [hrs, hg]
        exact .now hv
      · rw [hrs, hg]
        exact ⟨hcm, fun _ => hv⟩
    | evaluate _ hmem hsg =>
      rw [Job.runtime, hsg] at hrt
      cases hrt
      exact h.jobs _ hmem hid runtime rfl
  · refine Current.of_ages ?_ ha
    rcases World.step_caches hc with ⟨c0, hc0, hg, hrs⟩ | ⟨hg, hrs⟩
    · rw [hg, hrs]
      exact h.caches replica c0 hc0
    · rw [hg, hrs]
      exact .now hv

end Coherent

end Astronomer.Delivery
