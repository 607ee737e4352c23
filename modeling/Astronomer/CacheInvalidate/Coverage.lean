import Astronomer.CacheInvalidate.Replicas

/-!
# What a reconciled replica has dropped

A replica raises its own epoch only after it has dropped everything the mutations of that
epoch concern. So a replica whose epoch is `e` holds nothing that was read before a mutation
of an increment up to `e` (`Covered`).
-/

namespace Astronomer.CacheInvalidate

open List Rbac

/-! ## Fresh for a mutation -/

def FreshFor (p : Parser) (versions : List Database) (m : Mutation) (q : Querier) : Prop :=
  ∃ g, q.FreshFrom p versions m.version (fun u => m.scope.Covers u ∧ u ≠ "") g

section

variable {p : Parser} {versions later : List Database} {m : Mutation} {q : Querier}
  {scope : Cache.Scope}

theorem FreshFor.commit (h : FreshFor p versions m q) : FreshFor p (versions ++ later) m q :=
  h.imp fun _ hg => hg.commit

theorem FreshFor.step {i db fails healthy a} (h : FreshFor p versions m q) (hi : m.version ≤ i)
    (hdb : versions[i]? = some db) :
    FreshFor p versions m (q.step (p.env db fails) healthy a) :=
  h.imp fun _ hg => hg.step ⟨i, hi, hdb⟩

theorem FreshFor.of_invalidate (hb : q.Bounded) (hsc : scope = .all ∨ scope = m.scope) :
    FreshFor p versions m { q with cache := q.cache.invalidate scope } := by
  have hcv : ∀ u, m.scope.Covers u ∧ u ≠ "" → scope.Covers u ∧ u ≠ "" := by
    rintro u ⟨hcv, hu⟩
    rcases hsc with rfl | rfl
    · exact ⟨trivial, hu⟩
    · exact ⟨hcv, hu⟩
  by_cases hs : ∃ u, m.scope.Covers u ∧ u ≠ ""
  · exact ⟨_, Querier.FreshFrom.of_invalidate hb hcv hs⟩
  · -- a mutation of nobody
    exact ⟨0, Nat.zero_le _, fun e _ hP => absurd ⟨_, hP⟩ hs, fun f _ hP => absurd ⟨_, hP⟩ hs⟩

end

/-! ## What the shared state says -/

def Target.Includes (t : Target) (scope : Cache.Scope) : Prop :=
  t.scope = some .all ∨ t.scope = some scope

structure Shared.Speaks (s : Shared) (t : Target) (epoch : Nat) : Prop where
  le : epoch ≤ s.epochs t.domain
  includes : ∀ inc ∈ s.increments, inc.domain = t.domain → inc.epoch = epoch →
    ∀ m ∈ inc.carries, inc.domain = .rbac → t.Includes m.scope

structure Shared.Sound (s : Shared) : Prop where
  epochs : ∀ inc ∈ s.increments, inc.epoch ≤ s.epochs inc.domain
  versions : ∀ inc ∈ s.increments, ∀ m ∈ inc.carries, m.version ≤ s.version
  published : ∀ message ∈ s.published, s.Speaks message.target message.epoch

structure Shared.Grows (s s' : Shared) : Prop where
  versions : ∃ later, s'.versions = s.versions ++ later
  epochs : ∀ d, s.epochs d ≤ s'.epochs d
  increments : ∃ more, s'.increments = s.increments ++ more ∧
    ∀ inc ∈ more, s.epochs inc.domain < inc.epoch

def Covered (p : Parser) (s : Shared) (q : Querier) (epoch : Nat) : Prop :=
  ∀ inc ∈ s.increments, inc.domain = .rbac → inc.epoch ≤ epoch →
    ∀ m ∈ inc.carries, FreshFor p s.versions m q

section

variable {p : Parser} {s s' : Shared} {t : Target} {epoch : Nat} {q : Querier} {db : Database}
  {d : Domain} {carries : List Mutation} {message : Message}

theorem Shared.length_versions : s.versions.length = s.version + 1 := length_append

theorem Shared.getElem?_version : s.versions[s.version]? = some s.db := by
  simp [versions, version]

theorem Shared.Grows.version (h : s.Grows s') : s.version ≤ s'.version := by
  obtain ⟨later, hl⟩ := h.versions
  have hln := congrArg List.length hl
  rw [length_append, length_versions, length_versions] at hln
  omega

theorem Shared.grows_refl : s.Grows s := ⟨⟨[], (append_nil _).symm⟩, fun _ => Nat.le_refl _,
    ⟨[], (append_nil _).symm, fun _ h => (not_mem_nil h).elim⟩⟩

theorem Shared.grows_commit : s.Grows (s.commit db) := ⟨⟨[db], rfl⟩, fun _ => Nat.le_refl _,
    ⟨[], (append_nil _).symm, fun _ h => (not_mem_nil h).elim⟩⟩

theorem Shared.grows_publish : s.Grows (s.publish message) :=
  ⟨⟨[], (append_nil _).symm⟩, fun _ => Nat.le_refl _,
    ⟨[], (append_nil _).symm, fun _ h => (not_mem_nil h).elim⟩⟩

theorem Shared.epochs_incr :
    (s.incr d carries).epochs = Function.update s.epochs d (s.epochs d + 1) := rfl

theorem Shared.grows_incr : s.Grows (s.incr d carries) where
  versions := ⟨[], (append_nil _).symm⟩
  epochs := by
    intro d'
    rw [epochs_incr]
    by_cases hd : d' = d
    · subst hd
      rw [Function.update_self]
      omega
    · rw [Function.update_of_ne hd]
  increments := by
    refine ⟨_, rfl, fun inc hi => ?_⟩
    obtain rfl := mem_singleton.mp hi
    exact Nat.lt_succ_self _

theorem Shared.Grows.mem_increments (h : s.Grows s') {inc : Increment}
    (hi : inc ∈ s'.increments) : inc ∈ s.increments ∨ s.epochs inc.domain < inc.epoch := by
  obtain ⟨more, hm, hn⟩ := h.increments
  rw [hm] at hi
  exact (mem_append.mp hi).imp id (hn inc)

theorem Shared.Speaks.grow (h : s.Speaks t epoch) (hg : s.Grows s') : s'.Speaks t epoch where
  le := h.le.trans (hg.epochs _)
  includes := by
    intro inc hi hd he
    rcases hg.mem_increments hi with hi | hn
    · exact h.includes inc hi hd he
    · have hle := h.le
      rw [hd, he] at hn
      omega

theorem Covered.grow (h : Covered p s q epoch) (hle : epoch ≤ s.epochs .rbac)
    (hg : s.Grows s') : Covered p s' q epoch := by
  intro inc hi hd he m hm
  rcases hg.mem_increments hi with hi | hn
  · obtain ⟨later, hl⟩ := hg.versions
    rw [hl]
    exact (h inc hi hd he m hm).commit
  · rw [hd] at hn
    omega

theorem Covered.mono {epoch'} (h : Covered p s q epoch) (hle : epoch' ≤ epoch) :
    Covered p s q epoch' :=
  fun inc hi hd he => h inc hi hd (he.trans hle)

/-! ### The shared state stays sound -/

theorem Shared.Sound.commit (h : s.Sound) : (s.commit db).Sound where
  epochs := h.epochs
  versions := fun inc hi m hm =>
    (h.versions inc hi m hm).trans (Grows.version grows_commit)
  published := fun message hms => (h.published message hms).grow grows_commit

theorem Shared.Sound.publish (h : s.Sound) (hsp : s.Speaks message.target message.epoch) :
    (s.publish message).Sound where
  epochs := h.epochs
  versions := h.versions
  published := by
    intro message' hm'
    refine Speaks.grow ?_ grows_publish
    rcases mem_append.mp hm' with hm' | hm'
    · exact h.published message' hm'
    · obtain rfl := mem_singleton.mp hm'
      exact hsp

theorem Shared.Sound.incr (h : s.Sound) (hc : ∀ m ∈ carries, m.version ≤ s.version) :
    (s.incr d carries).Sound where
  epochs := by
    intro inc hi
    rcases mem_append.mp hi with hi | hi
    · exact (h.epochs inc hi).trans (grows_incr.epochs _)
    · obtain rfl := mem_singleton.mp hi
      rw [epochs_incr, Function.update_self]
  versions := by
    intro inc hi
    rcases mem_append.mp hi with hi | hi
    · exact h.versions inc hi
    · obtain rfl := mem_singleton.mp hi
      exact hc
  published := fun message hm => (h.published message hm).grow grows_incr

theorem Shared.Sound.speaks_incr (h : s.Sound) (hd : t.domain = d)
    (hic : d = .rbac → ∀ m ∈ carries, t.Includes m.scope) :
    (s.incr d carries).Speaks t (s.epochs d + 1) where
  le := by
    rw [hd, epochs_incr, Function.update_self]
  includes := by
    intro inc hi hi' he m hm hr
    rcases mem_append.mp hi with hi | hi
    · have hle := h.epochs inc hi
      rw [hi', hd] at hle
      omega
    · obtain rfl := mem_singleton.mp hi
      exact hic hr m hm

end

/-! ## What waits to be told -/

structure Pending.Fits (s : Shared) (d : Domain) (item : Pending) : Prop where
  domain : item.target.domain = d
  versions : ∀ m ∈ item.carries, m.version ≤ s.version
  includes : d = .rbac → ∀ m ∈ item.carries, item.target.Includes m.scope

def FlushStage.Fits (s : Shared) : FlushStage → Prop
  | .claiming | .releasing _ | .marking => True
  | .incrementing d item => item.Fits s d
  | .recording _ item epoch | .invalidating _ item epoch | .publishing item epoch =>
    s.Speaks item.target epoch

def PendingFit (s : Shared) (c : Coordinator) : Prop := ∀ d, ∀ item ∈ c.pending d, item.Fits s d

structure Queued (s : Shared) (rep : Replica) : Prop where
  mutations : ∀ id m stage, rep.mutations id = some (m, stage) → m.version ≤ s.version
  pending : PendingFit s rep.coordinator
  flush : ∀ owner stage, rep.flush = some (owner, stage) → stage.Fits s

section

variable {s s' : Shared} {d : Domain} {item next existing : Pending} {queue : List Pending}
  {c : Coordinator} {rep : Replica} {stage : FlushStage}

theorem Pending.Fits.grow (h : item.Fits s d) (hg : s.Grows s') : item.Fits s' d :=
  ⟨h.domain, fun m hm => (h.versions m hm).trans hg.version, h.includes⟩

theorem FlushStage.Fits.grow (h : stage.Fits s) (hg : s.Grows s') : stage.Fits s' := by
  cases stage with
  | claiming | releasing d | marking => trivial
  | incrementing d item => exact Pending.Fits.grow h hg
  | recording d item epoch | invalidating d item epoch | publishing item epoch =>
    exact Shared.Speaks.grow h hg

theorem Queued.grow (h : Queued s rep) (hg : s.Grows s') : Queued s' rep where
  mutations := fun id m stage hm => (h.mutations id m stage hm).trans hg.version
  pending := fun d item hi => (h.pending d item hi).grow hg
  flush := fun owner stage hsg => (h.flush owner stage hsg).grow hg

theorem fits_mergePending (he : existing.Fits s d) (hn : next.Fits s d) :
    (mergePending d existing next).Fits s d := by
  have hv : ∀ m ∈ existing.carries ++ next.carries, m.version ≤ s.version := by
    intro m hm
    exact (mem_append.mp hm).elim (he.versions m) (hn.versions m)
  unfold mergePending
  split
  next htg =>
    refine ⟨he.domain, hv, fun hd m hm => ?_⟩
    rcases mem_append.mp hm with hm | hm
    · exact he.includes hd m hm
    · rw [htg]
      exact hn.includes hd m hm
  · refine ⟨by cases d <;> rfl, hv, fun hd m _ => ?_⟩
    subst hd
    exact .inl rfl

theorem fits_append (hq : ∀ item ∈ queue, item.Fits s d) (hn : next.Fits s d) :
    ∀ item ∈ Coordinator.append d queue next, item.Fits s d := by
  intro item hi
  unfold Coordinator.append at hi
  split at hi
  · obtain rfl := mem_singleton.mp hi
    exact hn
  next last hl =>
    split at hi <;> rcases mem_append.mp hi with hi | hi
    · exact hq item hi
    · obtain rfl := mem_singleton.mp hi
      exact hn
    · exact hq item (dropLast_subset _ hi)
    · obtain rfl := mem_singleton.mp hi
      exact fits_mergePending (hq last (mem_of_getLast? hl)) hn

theorem fits_setInFlight {inFlight} (hq : ∀ item ∈ queue, item.Fits s d) :
    ∀ item ∈ Coordinator.setInFlight inFlight queue, item.Fits s d := by
  cases queue with
  | nil => exact hq
  | cons first rest =>
    intro item hi
    rcases mem_cons.mp hi with rfl | hi
    · have hf := hq first mem_cons_self
      exact ⟨hf.domain, hf.versions, hf.includes⟩
    · exact hq item (mem_cons_of_mem _ hi)

theorem PendingFit.update {c' : Coordinator} (h : PendingFit s c)
    (hc' : c'.pending = Function.update c.pending d queue)
    (hq : ∀ item ∈ queue, item.Fits s d) : PendingFit s c' := by
  intro d' item hi
  rw [hc'] at hi
  by_cases hd : d' = d
  · subst hd
    rw [Function.update_self] at hi
    exact hq item hi
  · rw [Function.update_of_ne hd] at hi
    exact h d' item hi

theorem PendingFit.enqueue (h : PendingFit s c) (hn : next.Fits s d) :
    PendingFit s (c.enqueue d next) :=
  h.update rfl (fits_append (h d) hn)

theorem PendingFit.releasePending (h : PendingFit s c) : PendingFit s (c.releasePending d) :=
  h.update rfl (fits_setInFlight (h d))

theorem PendingFit.recordDurable {epoch} (h : PendingFit s c) :
    PendingFit s (c.recordDurable d epoch) := by
  refine h.update rfl fun item hi => h d item ?_
  split at hi
  next first rest hq =>
    rw [hq]
    split at hi
    · exact mem_cons_of_mem _ hi
    · exact hi
  · cases hi

theorem PendingFit.claimPending {c'} (h : PendingFit s c)
    (hcm : c.claimPending = (some (d, item), c')) : item.Fits s d ∧ PendingFit s c' := by
  have hft : ∀ {d : Domain} {first : Pending}, first ∈ c.pending d →
      { first with inFlight := true }.Fits s d := by
    intro d first hf
    have hf := h d first hf
    exact ⟨hf.domain, hf.versions, hf.includes⟩
  unfold Coordinator.claimPending at hcm
  split at hcm
  next hj =>
    cases hcm
    exact ⟨hft (hj ▸ mem_cons_self), h.update rfl (fits_setInFlight (h _))⟩
  next hr =>
    cases hcm
    exact ⟨hft (hr ▸ mem_cons_self), h.update rfl (fits_setInFlight (h _))⟩
  · cases hcm

end

end Astronomer.CacheInvalidate
