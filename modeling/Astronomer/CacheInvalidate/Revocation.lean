import Astronomer.CacheInvalidate.Coverage
import Astronomer.Rbac.Revocation

/-!
# A revocation reaches every replica that has reconciled

What a replica's cache answers was read after every mutation of the user whose increment
came before the replica's last successful read of the epochs.
-/

namespace Astronomer.CacheInvalidate

open List Rbac

/-! ## What a replica has dropped, along its threads -/

structure Reconcile.Fits (s : Shared) (r : Reconcile) : Prop where
  seen : r.seen ≤ s.increments.length
  read : ∀ inc ∈ s.increments.take r.seen, inc.epoch ≤ r.remote inc.domain
  remote : ∀ d, r.remote d ≤ s.epochs d

def ReconcileStage.Fits (p : Parser) (s : Shared) (q : Querier) (epochs : Domain → Nat)
    (r : Reconcile) : ReconcileStage → Prop
  | .setting .rbac => Covered p s q (r.remote .rbac)
  | .forgetting .rbac | .finishing => r.remote .rbac ≤ epochs .rbac
  | _ => True

def RunStage.Fits (p : Parser) (s : Shared) (q : Querier) (epochs : Domain → Nat) : RunStage → Prop
  | .reconciling r stage => r.Fits s ∧ stage.Fits p s q epochs r
  | .handled d epoch => epoch ≤ s.epochs d ∧ (d = .rbac → Covered p s q epoch)
  | _ => True

structure Covers (p : Parser) (s : Shared) (rep : Replica) : Prop where
  bounded : rep.querier.Bounded
  epochs : ∀ d, rep.coordinator.epochs d ≤ s.epochs d
  covered : Covered p s rep.querier (rep.coordinator.epochs .rbac)
  run : rep.run.Fits p s rep.querier rep.coordinator.epochs
  seen : rep.lastRead ≤ s.increments.length
  lastRead : ∀ inc ∈ s.increments.take rep.lastRead, inc.domain = .rbac →
    inc.epoch ≤ rep.coordinator.epochs .rbac

section

variable {p : Parser} {s s' : Shared} {q q' : Querier} {epoch : Nat} {epochs : Domain → Nat}
  {r : Reconcile} {stage : ReconcileStage} {run : RunStage} {rep rep' : Replica} {t : Target}
  {d : Domain} {scope : Cache.Scope}

theorem take_increments_grow {n} (hn : n ≤ s.increments.length) (hg : s.Grows s') :
    s'.increments.take n = s.increments.take n := by
  obtain ⟨more, hm, -⟩ := hg.increments
  rw [hm, take_append_of_le_length hn]

theorem length_increments_grow (hg : s.Grows s') :
    s.increments.length ≤ s'.increments.length := by
  obtain ⟨more, hm, -⟩ := hg.increments
  rw [hm, length_append]
  exact Nat.le_add_right _ _

theorem Reconcile.Fits.grow (h : r.Fits s) (hg : s.Grows s') : r.Fits s' where
  seen := h.seen.trans (length_increments_grow hg)
  read := by
    rw [take_increments_grow h.seen hg]
    exact h.read
  remote := fun d => (h.remote d).trans (hg.epochs d)

theorem RunStage.Fits.imp (h : run.Fits p s q epochs) (hr : ∀ r : Reconcile, r.Fits s → r.Fits s')
    (he : ∀ d, s.epochs d ≤ s'.epochs d)
    (hc : ∀ epoch, epoch ≤ s.epochs .rbac → Covered p s q epoch → Covered p s' q' epoch) :
    run.Fits p s' q' epochs := by
  cases run with
  | reconciling r stage =>
    refine ⟨hr r h.1, ?_⟩
    have hsg := h.2
    cases stage with
    | setting d =>
      cases d with
      | jwt => trivial
      | rbac => exact hc _ (h.1.remote _) hsg
    | forgetting d =>
      cases d with
      | jwt => trivial
      | rbac => exact hsg
    | finishing => exact hsg
    | noting | clearing | checking d | dropping d => trivial
  | handled d epoch => exact ⟨h.1.trans (he d), fun hd => hc epoch (hd ▸ h.1) (h.2 hd)⟩
  | down | listening | flushing reconnect | reading reconnect flushed | judging reconnect ok =>
    trivial

theorem Covers.grow (h : Covers p s rep) (hg : s.Grows s') : Covers p s' rep where
  bounded := h.bounded
  epochs := fun d => (h.epochs d).trans (hg.epochs d)
  covered := h.covered.grow (h.epochs .rbac) hg
  run := h.run.imp (fun _ hr => hr.grow hg) hg.epochs fun _ hle hc => hc.grow hle hg
  seen := h.seen.trans (length_increments_grow hg)
  lastRead := by
    rw [take_increments_grow h.seen hg]
    exact h.lastRead

/-! ### Steps of the cache -/

structure Evolves (p : Parser) (s : Shared) (q q' : Querier) : Prop where
  bounded : q.Bounded → q'.Bounded
  fresh : ∀ m, m.version ≤ s.version → FreshFor p s.versions m q → FreshFor p s.versions m q'

theorem Evolves.refl : Evolves p s q q := ⟨id, fun _ _ h => h⟩

theorem Evolves.step {fails healthy a} : Evolves p s q (q.step (p.env s.db fails) healthy a) :=
  ⟨fun h => h.step, fun _ hm h => h.step hm Shared.getElem?_version⟩

theorem Evolves.invalidate : Evolves p s q { q with cache := q.cache.invalidate scope } :=
  (Evolves.step : Evolves p s q (q.step (p.env s.db fun _ => false) true (.invalidate scope)))

theorem Covered.evolve (h : Covered p s q epoch) (hs : s.Sound) (hq : Evolves p s q q') :
    Covered p s q' epoch :=
  fun inc hi hd he m hm =>
    hq.fresh m (hs.versions inc hi m hm) (h inc hi hd he m hm)

theorem RunStage.Fits.evolve (h : run.Fits p s q epochs) (hs : s.Sound) (hq : Evolves p s q q') :
    run.Fits p s q' epochs :=
  h.imp (fun _ hr => hr) (fun _ => Nat.le_refl _) fun _ _ hc => hc.evolve hs hq

theorem Covers.change (h : Covers p s rep) (hs : s.Sound)
    (hq : Evolves p s rep.querier rep'.querier)
    (he : rep'.coordinator.epochs = rep.coordinator.epochs)
    (hl : rep'.lastRead = rep.lastRead)
    (hr : rep'.run.Fits p s rep'.querier rep'.coordinator.epochs) : Covers p s rep' where
  bounded := hq.bounded h.bounded
  epochs := he ▸ h.epochs
  covered := he ▸ h.covered.evolve hs hq
  run := hr
  seen := hl ▸ h.seen
  lastRead := he ▸ hl ▸ h.lastRead

theorem Covers.keep (h : Covers p s rep) (hs : s.Sound) (hq : Evolves p s rep.querier rep'.querier)
    (he : rep'.coordinator.epochs = rep.coordinator.epochs)
    (hl : rep'.lastRead = rep.lastRead) (hr : rep'.run = rep.run) : Covers p s rep' :=
  h.change hs hq he hl (by rw [hr, he]; exact h.run.evolve hs hq)

/-! ### Invalidations -/

theorem evolves_apply : Evolves p s rep.querier (rep.apply t).querier := by
  unfold Replica.apply
  split
  · exact .refl
  · exact .invalidate

theorem apply_frame (rep : Replica) (t : Target) :
    (rep.apply t).coordinator = rep.coordinator ∧ (rep.apply t).run = rep.run ∧
      (rep.apply t).flush = rep.flush ∧ (rep.apply t).mutations = rep.mutations ∧
      (rep.apply t).lastRead = rep.lastRead := by
  unfold Replica.apply
  split
  · exact ⟨rfl, rfl, rfl, rfl, rfl⟩
  · exact ⟨rfl, rfl, rfl, rfl, rfl⟩

theorem freshFor_apply {versions} {m : Mutation} (hb : rep.querier.Bounded)
    (ht : t.Includes m.scope) : FreshFor p versions m (rep.apply t).querier := by
  unfold Replica.apply
  rcases ht with ht | ht <;> rw [ht]
  · exact .of_invalidate hb (.inl rfl)
  · exact .of_invalidate hb (.inr rfl)

theorem covered_invalidateDomain (hb : rep.querier.Bounded) :
    Covered p s (rep.invalidateDomain .rbac).querier epoch :=
  fun _ _ _ _ _ _ => freshFor_apply hb (.inl rfl)

/-! ### The steps of `Run` -/

section

variable (h : Covers p s rep)

include h

theorem Covers.setEpoch (hle : epoch ≤ s.epochs d) (hc : d = .rbac → Covered p s rep.querier epoch)
    (hco : rep'.coordinator = rep.coordinator.setEpoch d epoch)
    (hq : rep'.querier = rep.querier) (hl : rep'.lastRead = rep.lastRead)
    (hr : rep'.run.Fits p s rep'.querier rep'.coordinator.epochs) : Covers p s rep' := by
  have he : rep'.coordinator.epochs
      = Function.update rep.coordinator.epochs d (max (rep.coordinator.epochs d) epoch) := by
    rw [hco]
    rfl
  have hra : ∀ d', rep.coordinator.epochs d' ≤ rep'.coordinator.epochs d' := by
    intro d'
    rw [he]
    by_cases hd : d' = d
    · subst hd
      rw [Function.update_self]
      exact Nat.le_max_left _ _
    · rw [Function.update_of_ne hd]
  refine ⟨hq ▸ h.bounded, fun d' => ?_, ?_, hr, hl ▸ h.seen, fun inc hi hdm => ?_⟩
  · rw [he]
    by_cases hd : d' = d
    · subst hd
      rw [Function.update_self]
      exact Nat.max_le.mpr ⟨h.epochs d', hle⟩
    · rw [Function.update_of_ne hd]
      exact h.epochs d'
  · rw [hq, he]
    by_cases hd : d = .rbac
    · subst hd
      rw [Function.update_self]
      rcases Nat.le_total epoch (rep.coordinator.epochs .rbac) with hm | hm
      · rw [Nat.max_eq_left hm]
        exact h.covered
      · rw [Nat.max_eq_right hm]
        exact hc rfl
    · rw [Function.update_of_ne (Ne.symm hd)]
      exact h.covered
  · rw [hl] at hi
    exact (h.lastRead inc hi hdm).trans (hra _)

theorem Covers.reconcileStep (hs : s.Sound)
    (hrn : rep.run = .reconciling r stage) : Covers p s (rep.reconcileStep r stage) := by
  obtain ⟨hr, hsg⟩ : r.Fits s ∧ stage.Fits p s rep.querier rep.coordinator.epochs r := by
    have hft := h.run
    rwa [hrn] at hft
  cases stage with
  | noting =>
    refine h.change hs .refl rfl rfl ⟨⟨hr.seen, hr.read, hr.remote⟩, ?_⟩
    split <;> trivial
  | clearing => exact h.change hs .invalidate rfl rfl ⟨hr, trivial⟩
  | checking d =>
    refine h.change hs .refl rfl rfl ?_
    simp only [Replica.reconcileStep]
    split
    · trivial
    · refine ⟨hr, ?_⟩
      split
      · trivial
      next hsm =>
        cases d with
        | jwt => trivial
        | rbac =>
          -- what was read is not above the replica's own epoch
          have hle : r.remote .rbac ≤ rep.coordinator.epochs .rbac := by
            simp only [Bool.or_eq_true, decide_eq_true_eq, not_or, Nat.not_lt] at hsm
            exact hsm.1
          exact h.covered.mono hle
  | dropping d =>
    obtain ⟨hc, -, -, -, hl⟩ := apply_frame rep (.everything d)
    refine h.change hs evolves_apply (congrArg _ hc) hl ⟨hr, ?_⟩
    cases d with
    | jwt => trivial
    | rbac => exact covered_invalidateDomain h.bounded
  | setting d =>
    refine h.setEpoch (hr.remote d) ?_ rfl rfl rfl ⟨hr, ?_⟩
    · rintro rfl
      exact hsg
    · cases d with
      | jwt => trivial
      | rbac => simp [ReconcileStage.Fits, Replica.reconcileStep, Coordinator.setEpoch]
  | forgetting d =>
    refine h.change hs .refl rfl rfl ⟨hr, ?_⟩
    cases d with
    | jwt => trivial
    | rbac => exact hsg
  | finishing =>
    refine ⟨h.bounded, h.epochs, h.covered, trivial, hr.seen, fun inc hi hd => ?_⟩
    have hrd := hr.read inc hi
    rw [hd] at hrd
    exact hrd.trans hsg

theorem Covers.runStep {fault} (hs : s.Sound) :
    Covers p s (rep.runStep s fault) := by
  unfold Replica.runStep
  split
  · split
    · refine h.change hs .refl rfl rfl
        ⟨⟨Nat.le_refl _, fun inc hi => ?_, fun _ => Nat.le_refl _⟩, trivial⟩
      exact hs.epochs inc (mem_of_mem_take hi)
    · exact h.change hs .refl rfl rfl trivial
    · exact h.change hs .refl rfl rfl trivial
  next r stage hr => exact h.reconcileStep hs hr
  · refine h.change hs .refl ?_ rfl trivial
    show (Coordinator.setHealthyIfQuiescent _).epochs = _
    unfold Coordinator.setHealthyIfQuiescent
    split <;> rfl
  · refine h.change hs .refl rfl rfl ?_
    dsimp only
    split <;> trivial
  next d epoch hr =>
    have hft := h.run
    rw [hr] at hft
    exact h.setEpoch hft.1 hft.2 rfl rfl rfl trivial
  · exact h
  · exact h
  · exact h

theorem Covers.handlePayload {message : Message} (hs : s.Sound)
    (hsp : s.Speaks message.target message.epoch) : Covers p s (rep.handlePayload message) := by
  unfold Replica.handlePayload
  dsimp only
  split
  · exact h
  next hn =>
    split
    · obtain ⟨hc, -, -, -, hl⟩ := apply_frame rep (.everything message.target.domain)
      refine h.change hs evolves_apply (congrArg _ hc) hl ⟨hsp.le, fun hd => ?_⟩
      show Covered p s (rep.invalidateDomain message.target.domain).querier message.epoch
      rw [hd]
      exact covered_invalidateDomain h.bounded
    next hnx =>
      obtain ⟨hc, -, -, -, hl⟩ := apply_frame rep message.target
      refine h.change hs evolves_apply (congrArg _ hc) hl ⟨hsp.le, fun hd => ?_⟩
      intro inc hi hdm he m hm
      rw [hd] at hn hnx
      by_cases hold : inc.epoch ≤ rep.coordinator.epochs .rbac
      · exact evolves_apply.fresh m (hs.versions inc hi m hm) (h.covered inc hi hdm hold m hm)
      · -- the one epoch above the replica's own is the message's
        have hex : inc.epoch = message.epoch := by omega
        exact freshFor_apply h.bounded (hsp.includes inc hi (hdm.trans hd.symm) hex m hm hdm)

end

end

/-! ## Every step of a replica -/

structure Settled (p : Parser) (s : Shared) (after : Shared × Replica) : Prop where
  grows : s.Grows after.1
  sound : after.1.Sound
  queued : Queued after.1 after.2
  covers : Covers p after.1 after.2

section

variable {p : Parser} {s s' : Shared} {rep rep' : Replica} {owner : FlushOwner} {fault : Fault}
  {a : Act} {c : Coordinator} {flush : Option (FlushOwner × FlushStage)}

theorem Settled.local_step (hs : s.Sound) (hqd : Queued s rep') (hcv : Covers p s rep') :
    Settled p s (s, rep') :=
  ⟨Shared.grows_refl, hs, hqd, hcv⟩

theorem Settled.queue_step (hs : s.Sound) (hcv : Covers p s rep)
    (he : rep'.coordinator.epochs = rep.coordinator.epochs)
    (hq : rep'.querier = rep.querier) (hl : rep'.lastRead = rep.lastRead)
    (hr : rep'.run = rep.run) (hqd : Queued s rep') : Settled p s (s, rep') :=
  .local_step hs hqd (hcv.keep hs (hq ▸ .refl) he hl hr)

theorem Queued.flushed (h : Queued s rep) {ok} : Queued s (rep.flushed owner ok) :=
  ⟨h.mutations, h.pending, nofun⟩

theorem Covers.flushed (h : Covers p s rep) (hs : s.Sound) {ok} :
    Covers p s (rep.flushed owner ok) := by
  refine h.change hs .refl rfl rfl ?_
  dsimp only [Replica.flushed]
  split
  · trivial
  · exact h.run

theorem settled_flushStep {stage : FlushStage} (hs : s.Sound) (hqd : Queued s rep)
    (hcv : Covers p s rep) (hsg : stage.Fits s) :
    Settled p s (rep.flushStep s fault owner stage) := by
  have hst : ∀ {s' : Shared} {next : FlushStage}, s.Grows s' → next.Fits s' →
      Queued s' { rep with flush := some (owner, next) } := by
    intro s' next hg hn
    have h := hqd.grow hg
    refine ⟨h.mutations, h.pending, fun _ _ hf => ?_⟩
    cases hf
    exact hn
  cases stage with
  | claiming =>
    simp only [Replica.flushStep]
    split
    · exact .local_step hs hqd.flushed (hcv.flushed hs)
    next d item c hcm =>
      obtain ⟨hi, hpd⟩ := hqd.pending.claimPending hcm
      have he : c.epochs = rep.coordinator.epochs := by
        unfold Coordinator.claimPending at hcm
        split at hcm <;> cases hcm <;> rfl
      refine .queue_step hs hcv he rfl rfl rfl ⟨hqd.mutations, hpd, ?_⟩
      intro _ _ hf
      cases hf
      exact hi
  | incrementing d item =>
    have hin : (s.incr d item.carries).Sound := hs.incr hsg.versions
    cases fault with
    | none =>
      refine ⟨Shared.grows_incr, hin, hst Shared.grows_incr ?_, ?_⟩
      · exact hs.speaks_incr hsg.domain hsg.includes
      · exact (hcv.grow Shared.grows_incr).keep hin .refl rfl rfl rfl
    | lost => exact .queue_step hs hcv rfl rfl rfl rfl (hst Shared.grows_refl trivial)
    | applied =>
      refine ⟨Shared.grows_incr, hin, hst Shared.grows_incr trivial, ?_⟩
      exact (hcv.grow Shared.grows_incr).keep hin .refl rfl rfl rfl
  | recording d item epoch =>
    refine .queue_step hs hcv rfl rfl rfl rfl ⟨hqd.mutations, hqd.pending.recordDurable, ?_⟩
    intro _ _ hf
    cases hf
    exact hsg
  | invalidating d item epoch =>
    obtain ⟨hc, hr, -, hm, hl⟩ := apply_frame rep (.everything d)
    refine .local_step hs ⟨?_, ?_, ?_⟩ ?_
    · exact hm ▸ hqd.mutations
    · exact hc ▸ hqd.pending
    · intro _ _ hf
      cases hf
      exact hsg
    · exact hcv.keep hs evolves_apply (congrArg _ hc) hl hr
  | publishing item epoch =>
    have hp : (s.publish ⟨item.target, epoch⟩).Sound := hs.publish hsg
    cases fault with
    | none | applied =>
      refine ⟨Shared.grows_publish, hp, hst Shared.grows_publish trivial, ?_⟩
      exact (hcv.grow Shared.grows_publish).keep hp .refl rfl rfl rfl
    | lost => exact .queue_step hs hcv rfl rfl rfl rfl (hst Shared.grows_refl trivial)
  | releasing d =>
    refine .queue_step hs hcv rfl rfl rfl rfl ⟨hqd.mutations, hqd.pending.releasePending, ?_⟩
    intro _ _ hf
    cases hf
    trivial
  | marking =>
    have hmr : Covers p s { rep with coordinator := rep.coordinator.markUnhealthy } :=
      hcv.keep hs .refl rfl rfl rfl
    have hw : Queued s { rep with coordinator := rep.coordinator.markUnhealthy } :=
      ⟨hqd.mutations, hqd.pending, hqd.flush⟩
    exact .local_step hs hw.flushed (hmr.flushed hs)

theorem Queued.setMutation {id stage} {m : Mutation} (h : Queued s rep) (hm : m.version ≤ s.version)
    : Queued s (rep.setMutation id m stage) := by
  refine ⟨fun i m' stage' hi => ?_, h.pending, h.flush⟩
  change (if i = id then some (m, stage) else rep.mutations i) = _ at hi
  split at hi
  · cases hi
    exact hm
  · exact h.mutations i m' stage' hi

theorem Queued.of_frame (h : Queued s rep) (hm : rep'.mutations = rep.mutations)
    (hpd : rep'.coordinator.pending = rep.coordinator.pending)
    (hf : rep'.flush = rep.flush) : Queued s rep' :=
  ⟨hm ▸ h.mutations, fun d item hi => h.pending d item (hpd ▸ hi), hf ▸ h.flush⟩

theorem runStep_frame (rep : Replica) (s : Shared) (fault : Fault) :
    (rep.runStep s fault).mutations = rep.mutations ∧
      (rep.runStep s fault).coordinator.pending = rep.coordinator.pending ∧
      (rep.runStep s fault).flush = rep.flush := by
  unfold Replica.runStep
  split
  · split <;> exact ⟨rfl, rfl, rfl⟩
  next r stage _ =>
    cases stage with
    | dropping d =>
      obtain ⟨hc, -, hf, hm, -⟩ := apply_frame rep (.everything d)
      exact ⟨hm, congrArg _ hc, hf⟩
    | noting | clearing | checking d | setting d | forgetting d | finishing => exact ⟨rfl, rfl, rfl⟩
  · refine ⟨rfl, ?_, rfl⟩
    show (Coordinator.setHealthyIfQuiescent _).pending = _
    unfold Coordinator.setHealthyIfQuiescent
    split <;> rfl
  · exact ⟨rfl, rfl, rfl⟩
  · exact ⟨rfl, rfl, rfl⟩
  · exact ⟨rfl, rfl, rfl⟩
  · exact ⟨rfl, rfl, rfl⟩
  · exact ⟨rfl, rfl, rfl⟩

theorem handlePayload_frame (rep : Replica) (message : Message) :
    (rep.handlePayload message).mutations = rep.mutations ∧
      (rep.handlePayload message).coordinator.pending = rep.coordinator.pending ∧
      (rep.handlePayload message).flush = rep.flush := by
  unfold Replica.handlePayload
  dsimp only
  split
  · exact ⟨rfl, rfl, rfl⟩
  · have hfr : ∀ t, (rep.apply t).mutations = rep.mutations ∧
        (rep.apply t).coordinator.pending = rep.coordinator.pending ∧
        (rep.apply t).flush = rep.flush := by
      intro t
      obtain ⟨hc, -, hf, hm, -⟩ := apply_frame rep t
      exact ⟨hm, congrArg _ hc, hf⟩
    split
    · exact hfr (.everything message.target.domain)
    · exact hfr message.target

theorem settled_step (hs : s.Sound) (hqd : Queued s rep) (hcv : Covers p s rep)
    (hh : ∀ message, a = .receive message → s.Speaks message.target message.epoch) :
    Settled p s (rep.step p s a) := by
  have hi : Settled p s (s, rep) := .local_step hs hqd hcv
  cases a with
  | mutate id scope db =>
    simp only [Replica.step]
    split
    · exact hi
    · have hg : s.Grows (s.commit db) := Shared.grows_commit
      refine ⟨hg, hs.commit, (hqd.grow hg).setMutation ?_, ?_⟩
      · have hv : (s.commit db).version = s.version + 1 := Shared.length_versions
        exact hv.ge
      · exact (hcv.grow hg).keep hs.commit .refl rfl rfl rfl
  | invalidate id =>
    simp only [Replica.step]
    split
    next m hm =>
      have hd : Queued s (rep.drop m.scope) := hqd.of_frame rfl rfl rfl
      exact .local_step hs (hd.setMutation (hqd.mutations id m _ hm))
        (hcv.keep hs .invalidate rfl rfl rfl)
    · exact hi
  | broadcast id =>
    simp only [Replica.step]
    split
    next m hm =>
      have hv := hqd.mutations id m _ hm
      have hmr : Queued s (rep.setMutation id m .queued) := hqd.setMutation hv
      split
      · have hft : Pending.Fits s .rbac ⟨.ofScope m.scope, false, [m]⟩ := by
          refine ⟨by cases m.scope <;> rfl, fun m' hm' => ?_, fun _ m' hm' => ?_⟩
          · obtain rfl := mem_singleton.mp hm'
            exact hv
          · obtain rfl := mem_singleton.mp hm'
            exact .inr (by cases m'.scope <;> rfl)
        exact .queue_step hs hcv rfl rfl rfl rfl ⟨hmr.mutations, hmr.pending.enqueue hft, hmr.flush⟩
      · exact .queue_step hs hcv rfl rfl rfl rfl hmr
    · exact hi
  | broadcastJWT target =>
    simp only [Replica.step]
    split
    next hj =>
      simp only [Bool.and_eq_true, decide_eq_true_eq] at hj
      have hft : Pending.Fits s .jwt ⟨target, false, []⟩ :=
        ⟨hj.1, fun _ hm => (not_mem_nil hm).elim, nofun⟩
      exact .queue_step hs hcv rfl rfl rfl rfl ⟨hqd.mutations, hqd.pending.enqueue hft, hqd.flush⟩
    · exact hi
  | lock owner =>
    have hlk : Settled p s (s, { rep with flush := some (owner, .claiming) }) := by
      refine .queue_step hs hcv rfl rfl rfl rfl ⟨hqd.mutations, hqd.pending, ?_⟩
      intro _ _ hf
      cases hf
      trivial
    simp only [Replica.step]
    split
    · exact hlk
    · exact hlk
    · exact hi
  | flush fault =>
    simp only [Replica.step]
    split
    · exact hi
    next owner stage hf => exact settled_flushStep hs hqd hcv (hqd.flush owner stage hf)
  | subscribe ok =>
    simp only [Replica.step]
    split
    · split
      · exact .local_step hs (hqd.of_frame rfl rfl rfl) (hcv.change hs .refl rfl rfl trivial)
      · exact .local_step hs (hqd.of_frame rfl rfl rfl) (hcv.keep hs .refl rfl rfl rfl)
    · exact hi
  | tick | close | stop =>
    simp only [Replica.step]
    split
    · exact .local_step hs (hqd.of_frame rfl rfl rfl) (hcv.change hs .refl rfl rfl trivial)
    · exact hi
  | receive message =>
    simp only [Replica.step]
    split
    · obtain ⟨hmt, hpd, hf⟩ := handlePayload_frame rep message
      exact .local_step hs (hqd.of_frame hmt hpd hf) (hcv.handlePayload hs (hh message rfl))
    · exact hi
  | run fault =>
    obtain ⟨hmt, hpd, hf⟩ := runStep_frame rep s fault
    exact .local_step hs (hqd.of_frame hmt hpd hf) (hcv.runStep hs)
  | cache fails m => exact .local_step hs (hqd.of_frame rfl rfl rfl) (hcv.keep hs .step rfl rfl rfl)

end

/-! ## Every run -/

structure World.Sound (p : Parser) (w : World) : Prop where
  shared : w.shared.Sound
  queued : ∀ i, Queued w.shared (w.replicas i)
  covers : ∀ i, Covers p w.shared (w.replicas i)

namespace World

variable {p : Parser} {w : World} {options : Nat → CacheOptions} {db : Database} {es : List Event}
  {i : Nat} {u : String} {now : Int} {bindings : List RoleBinding}

theorem sound_start : (start options db).Sound p where
  shared := ⟨fun _ h => (not_mem_nil h).elim, fun _ h => (not_mem_nil h).elim,
    fun _ h => (not_mem_nil h).elim⟩
  queued := fun _ =>
    { mutations := nofun
      pending := fun _ _ h => (not_mem_nil h).elim
      flush := fun _ _ h => nomatch h }
  covers := fun _ =>
    { bounded := ⟨fun _ h => (not_mem_nil h).elim, fun _ _ _ h _ => nomatch h⟩
      epochs := fun _ => Nat.le_refl _
      covered := fun _ h => (not_mem_nil h).elim
      run := trivial
      seen := Nat.le_refl _
      lastRead := fun _ h => (not_mem_nil h).elim }

theorem Sound.step (h : w.Sound p) (e : Event) : (w.step p e).Sound p := by
  cases e with
  | commit db =>
    exact ⟨h.shared.commit, fun i => (h.queued i).grow Shared.grows_commit,
      fun i => (h.covers i).grow Shared.grows_commit⟩
  | act i a =>
    unfold World.step
    dsimp only
    split
    next hh =>
      have hs : Settled p w.shared ((w.replicas i).step p w.shared a) := by
        refine settled_step h.shared (h.queued i) (h.covers i) ?_
        rintro message rfl
        simp only [World.heard, any_eq_true, Bool.and_eq_true, decide_eq_true_eq] at hh
        obtain ⟨m, hm, htg, he⟩ := hh
        exact htg ▸ he ▸ h.shared.published m hm
      refine ⟨hs.sound, fun j => ?_, fun j => ?_⟩
      · by_cases hj : j = i
        · subst hj
          simpa using hs.queued
        · simpa [hj] using (h.queued j).grow hs.grows
      · by_cases hj : j = i
        · subst hj
          simpa using hs.covers
        · simpa [hj] using (h.covers j).grow hs.grows
    · exact h

/-- **A revocation reaches every replica that has reconciled**: what the cache of a healthy
replica answers for a user was read since every mutation whose increment came before the read
of the epochs of the replica's last successful `reconcile`. -/
theorem cached_after_reconcile (i : Nat)
    (hget : ((run (step p) (start options db) es).replicas i).querier.cache.get
      ((run (step p) (start options db) es).replicas i).coordinator.healthy now u = some bindings) :
    ∀ inc ∈ (run (step p) (start options db) es).shared.increments.take
        ((run (step p) (start options db) es).replicas i).lastRead,
      inc.domain = .rbac → ∀ m ∈ inc.carries, m.scope.Covers u →
        ReadSince p (run (step p) (start options db) es).shared.versions m.version u bindings := by
  intro inc hi hd m hm hcv
  have hs : (run (step p) (start options db) es).Sound p :=
    run_preserves (fun _ e h => Sound.step h e) sound_start
  generalize run (step p) (start options db) es = w at *
  have hu : u ≠ "" := by
    rintro rfl
    simp [Cache.get] at hget
  have hle := (hs.covers i).lastRead inc hi hd
  obtain ⟨g, hf⟩ := (hs.covers i).covered inc (mem_of_mem_take hi) hd hle m hm
  exact hf.get hget ⟨hcv, hu⟩

end World

namespace Demotion

open World

def parser : Parser := Rbac.Demoted.parser

def user : UUID := Rbac.Demoted.user

def before : Database := { users := [⟨user, true⟩] }

def after : Database := { users := [⟨user, false⟩] }

def on (i : Nat) (acts : List Act) : List Event := acts.map (.act i)

def maintain (first : Act) (steps : Nat) : List Event :=
  on 1 ([first, .lock .run, .flush .none] ++ List.replicate steps (.run .none))

def request (id generation queries : Nat) : List Event :=
  let call : List Move := [.call id user.text, .proceed id 0, .proceed id 0, .proceed id 0]
  let load : List Move := List.replicate (queries + 3) (.fly (flightKey user.text generation) 0)
  on 1 ((call ++ load).map (.cache fun _ => false))

def demote : List Event :=
  on 0 [.mutate 0 (.user user.text) after, .invalidate 0, .broadcast 0, .lock .broadcast,
    .flush .none, .flush .none, .flush .none, .flush .none, .flush .lost]

def events : List Event :=
  maintain (.subscribe true) 11 ++ request 0 1 1 ++ demote ++ maintain .tick 11 ++ request 1 2 2

def final : World := run (step parser) (start (fun _ => ⟨15000, 5000, 100000⟩) before) events

def cached (w : World) (i : Nat) : Option (List RoleBinding) :=
  (w.replicas i).querier.cache.get (w.replicas i).coordinator.healthy 0 user.text

end Demotion

open Demotion in
/-- The second replica serves the demoted user's bindings again, from the new version. -/
theorem demotion_cached_after_reconcile :
    cached final 1 = some [] ∧ (final.replicas 1).lastRead = 1 ∧
      ReadSince parser final.shared.versions 1 user.text [] := by
  have hc : cached final 1 = some [] := by decide +kernel
  refine ⟨hc, by decide +kernel, ?_⟩
  exact World.cached_after_reconcile 1 hc ⟨.rbac, 1, [⟨.user user.text, 1⟩]⟩ (by decide +kernel)
    rfl ⟨.user user.text, 1⟩ (by decide +kernel) rfl

end Astronomer.CacheInvalidate
