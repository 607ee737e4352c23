import Astronomer.Delivery.Generations

/-!
# What a completed rollback has put back

The scheduler finds the clusters to put back by `released_at`, which a retry clears. So
`rolled_back` says what it should along runs in which, whenever a rollback starts, no cluster
of a committed apply release has lost its `released_at`.
-/

namespace Astronomer.Delivery

open List

variable {d : Decision} {newID : UUID → UUID} {r : RolloutRow}

/-! ## What a rollback is about -/

@[mk_iff]
structure DeploymentRow.Carries (d : DeploymentRow) (v : VersionIdentity) : Prop where
  bundle : d.desiredBundleVersionID = some v.bundleVersionID
  spec : d.desiredSpecDigest = v.specDigest
  overrides : d.desiredOverrides = v.overrides
  revision : d.desiredRevision = v.source.revision
  renderer : d.desiredRendererSpec = v.renderer
  configuration : d.desiredConfigurationDigest = nullableDigest v.configurationDigest

instance (d : DeploymentRow) (v : VersionIdentity) : Decidable (d.Carries v) :=
  decidable_of_iff' _ (DeploymentRow.carries_iff d v)

def DB.WasApplied (db : DB) (plan : FrozenRollout) (clusterID : UUID) : Prop :=
  ∃ e ∈ db.applyReleases plan.id, e.clusterID = some clusterID
deriving Decidable

def DB.Restored (db : DB) (plan : FrozenRollout) (planned : PlannedCluster) : Prop :=
  ∃ previous d, planned.previous = some previous ∧
    db.deployment plan.targetID planned.clusterID = some d ∧ d.Carries previous.version

instance (db : DB) (plan : FrozenRollout) (planned : PlannedCluster) :
    Decidable (db.Restored plan planned) :=
  decidable_of_iff (∃ previous ∈ planned.previous.toList,
      ∃ d ∈ (db.deployment plan.targetID planned.clusterID).toList, d.Carries previous.version)
    (by simp [DB.Restored])

def RollbackComplete (plan : FrozenRollout) (w w' : World) : Prop :=
  w'.db.stateOf plan.id = some .rolledBack → w.db.stateOf plan.id ≠ some .rolledBack →
    ∀ planned ∈ plan.clusters, w'.db.WasApplied plan planned.clusterID →
      w'.db.Restored plan planned
deriving Decidable

def DB.AllReleased (db : DB) (plan : FrozenRollout) : Prop :=
  ∀ rc ∈ db.clustersOf plan.id, db.WasApplied plan rc.clusterID → rc.releasedAt.isSome
deriving Decidable

/-- The events that can start a rollback, an operator's and a worker's on a failed
rollout, find every applied cluster with its `released_at`. -/
def RollbackCovered (plan : FrozenRollout) (w : World) : Event → Prop
  | .act _ request => request.rolloutID = plan.id → request.action = .rollback →
      w.db.AllReleased plan
  | .apply _ _ _ => w.db.stateOf plan.id = some .failed →
      plan.strategy.onFailure = .rollback → w.db.AllReleased plan
  | _ => True

/-- The events of a run of one rollout: no other rollout is created or worked on, and
nobody else writes deployments. -/
def OneRollout (id : UUID) : Event → Prop
  | .create _ _ _ | .writeDeployment _ => False
  | .claim _ _ _ rolloutID _ => rolloutID = id
  | _ => True

instance (plan : FrozenRollout) (w : World) (e : Event) : Decidable (RollbackCovered plan w e) := by
  apply @Event.casesOn (fun e => Decidable (RollbackCovered plan w e)) e <;> intros <;>
    dsimp only [RollbackCovered] <;> infer_instance

instance (id : UUID) (e : Event) : Decidable (OneRollout id e) := by
  apply @Event.casesOn (fun e => Decidable (OneRollout id e)) e <;> intros <;>
    dsimp only [OneRollout] <;> infer_instance

/-! ## The invariant on the tables -/

def rollbackStates : List RolloutState := [.rollingBack, .rolledBack, .rollbackFailed]

structure Tracks (plan : FrozenRollout) (s : RolloutState) (db : DB) : Prop where
  applying : s ∉ rollbackStates → ∀ rc ∈ db.clustersOf plan.id, rc.assignmentAction = .apply
  released : s = .rollingBack → db.AllReleased plan
  restored : ∀ rc ∈ db.clustersOf plan.id, rc.assignmentAction = .rollback →
    ∀ planned ∈ plan.clusters, planned.clusterID = rc.clusterID → db.Restored plan planned
  previous : ∀ rc ∈ db.clustersOf plan.id, rc.state = .readyPrevious →
    rc.assignmentAction = .rollback

structure RowKeeps (rc rc' : RolloutClusterRow) : Prop where
  cluster : rc'.clusterID = rc.clusterID
  action : rc'.assignmentAction = rc.assignmentAction
  released : rc.releasedAt.isSome → rc'.releasedAt.isSome
  previous : rc'.state = .readyPrevious →
    rc.state = .readyPrevious ∨ rc.assignmentAction = .rollback

def KeepsDesired (targetID : UUID) (db db' : DB) : Prop :=
  ∀ clusterID d, db.deployment targetID clusterID = some d →
    ∃ d', db'.deployment targetID clusterID = some d' ∧ ∀ v, d.Carries v → d'.Carries v

section Tables

variable {plan : FrozenRollout} {s : RolloutState} {db db' : DB} {now : Time} {id : UUID}

theorem RowKeeps.refl (rc : RolloutClusterRow) : RowKeeps rc rc := ⟨rfl, rfl, id, .inl⟩

theorem KeepsDesired.of_eq (h : db'.deployments = db.deployments) : KeepsDesired id db db' :=
  fun _ d hd => ⟨d, by rw [DB.deployment, h]; exact hd, fun _ hv => hv⟩

theorem DB.Restored.mono {planned : PlannedCluster} (h : db.Restored plan planned)
    (hk : KeepsDesired plan.targetID db db') : db'.Restored plan planned := by
  obtain ⟨previous, d, hpv, hd, hv⟩ := h
  obtain ⟨d', hd', hv'⟩ := hk _ _ hd
  exact ⟨previous, d', hpv, hd', hv' _ hv⟩

theorem Tracks.keep (h : Tracks plan s db)
    (hrs : ∀ rc' ∈ db'.clustersOf plan.id, ∃ rc ∈ db.clustersOf plan.id, RowKeeps rc rc')
    (hl : db'.applyReleases plan.id = db.applyReleases plan.id)
    (hd : KeepsDesired plan.targetID db db') : Tracks plan s db' := by
  constructor
  · intro hs rc' hrc'
    obtain ⟨rc, hrc, hk⟩ := hrs rc' hrc'
    rw [hk.action]
    exact h.applying hs rc hrc
  · intro hs rc' hrc' ha
    obtain ⟨rc, hrc, hk⟩ := hrs rc' hrc'
    refine hk.released (h.released hs rc hrc ?_)
    rw [DB.WasApplied, hl, hk.cluster] at ha
    exact ha
  · intro rc' hrc' hac planned hp hid
    obtain ⟨rc, hrc, hk⟩ := hrs rc' hrc'
    rw [hk.action] at hac
    rw [hk.cluster] at hid
    exact (h.restored rc hrc hac planned hp hid).mono hd
  · intro rc' hrc' hst
    obtain ⟨rc, hrc, hk⟩ := hrs rc' hrc'
    rw [hk.action]
    rcases hk.previous hst with hpv | hac
    · exact h.previous rc hrc hpv
    · exact hac

theorem Tracks.of_applying (hs : s ≠ .rollingBack)
    (ha : ∀ rc ∈ db.clustersOf plan.id, rc.assignmentAction = .apply)
    (hp : ∀ rc ∈ db.clustersOf plan.id, rc.state = .readyPrevious →
      rc.assignmentAction = .rollback) : Tracks plan s db where
  applying _ := ha
  released hrb := absurd hrb hs
  restored rc hrc hrb := nomatch (ha rc hrc).symm.trans hrb
  previous := hp

theorem Tracks.of_eq (h : Tracks plan s db) (hrs : db'.clustersOf plan.id = db.clustersOf plan.id)
    (hl : db'.applyReleases plan.id = db.applyReleases plan.id)
    (hd : db'.deployments = db.deployments) : Tracks plan s db' :=
  h.keep (fun rc hrc => ⟨rc, hrs ▸ hrc, .refl rc⟩) hl (.of_eq hd)

theorem Tracks.move {s' : RolloutState} (h : Tracks plan s db)
    (hsy : s' ∉ rollbackStates → s ∉ rollbackStates)
    (hsr : s' = .rollingBack → s = .rollingBack ∨ db.AllReleased plan) : Tracks plan s' db := by
  refine ⟨fun hs => h.applying (hsy hs), fun hs => ?_, h.restored, h.previous⟩
  rcases hsr hs with hs' | ha
  · exact h.released hs'
  · exact ha

theorem rowKeeps_advance {phase code} {rc : RolloutClusterRow} :
    RowKeeps rc { rc.advance now phase code with updatedAt := now } := by
  refine ⟨rfl, rfl, id, fun hst => .inr ?_⟩
  have ha : advancedState phase rc.assignmentAction = .readyPrevious := hst
  cases hac : rc.assignmentAction with
  | rollback => rfl
  | apply =>
    rw [hac] at ha
    cases phase <;> cases ha

theorem Tracks.updateClusterRows {p f} (h : Tracks plan s db)
    (hid : ∀ rc, (f rc).rolloutID = rc.rolloutID)
    (hf : ∀ rc, RowKeeps rc { f rc with updatedAt := now }) :
    Tracks plan s (db.updateClusterRows now p f) := by
  refine h.keep (fun rc' hrc' => ?_) rfl (.of_eq rfl)
  obtain ⟨rc, hrc, rfl⟩ := mem_clustersOf_updateClusterRows hid hrc'
  refine ⟨rc, hrc, ?_⟩
  split
  · exact hf rc
  · exact .refl rc

theorem Tracks.createRolloutEvent {e : RolloutEventRow} (h : Tracks plan s db)
    (he : e.eventType ≠ .clusterReleased) : Tracks plan s (db.createRolloutEvent e) := by
  refine h.of_eq rfl (DB.applyReleases_append [e] rfl fun e' he' _ hrl => ?_) rfl
  exact absurd (mem_singleton.mp he' ▸ hrl) he

theorem keepsDesired_updateDeployment {p f row} (hf : KeepsOwner f)
    (hds : ∀ d v, DeploymentRow.Carries d v → (f d).Carries v)
    (h : db.updateDeployment p f = some (db', row)) : KeepsDesired id db db' := by
  obtain ⟨_, -, -, rfl⟩ := DB.updateDeployment_eq_some.mp h
  intro clusterID d hd
  have hn := @deployment_updateWhere db p f (fun d => ⟨hf.target d, hf.cluster d⟩) id clusterID
  rw [hd, Option.map_some] at hn
  refine ⟨_, hn, fun v hv => ?_⟩
  split
  · exact hds d v hv
  · exact hv

/-! ### Status reports -/

theorem Tracks.observed {u key row} (h : Tracks plan s db)
    (hu : updateClusterDeploymentObservedCAS db key u = some (db', row)) :
    Tracks plan s db' := by
  have hd : KeepsDesired plan.targetID db db' :=
    keepsDesired_updateDeployment (keepsOwner_observe u) (fun _ _ h =>
      ⟨h.bundle, h.spec, h.overrides, h.revision, h.renderer, h.configuration⟩) hu
  obtain ⟨_, -, -, rfl⟩ := DB.updateDeployment_eq_some.mp hu
  exact h.keep (fun rc hrc => ⟨rc, hrc, .refl rc⟩) rfl hd

theorem Tracks.advanceFromStatus {clock updated} (h : Tracks plan s db) :
    Tracks plan s (advanceFromStatus db clock updated) := by
  rcases @advanceFromStatus_eq db clock updated with heq | ⟨_, _, _, e, -, -, -, heq, hty⟩ <;>
    rw [heq]
  · exact h
  · exact (h.updateClusterRows (by intro; rfl) fun rc => rowKeeps_advance).createRolloutEvent
      (by simp [hty])

theorem Tracks.ingest {senv clock session payload} (h : Tracks plan s db)
    (hok : ingest senv db clock session payload = .ok db') : Tracks plan s db' :=
  ingest_keeps (P := Tracks plan s) (fun _ _ hdb => hdb.of_eq rfl rfl rfl)
    (fun _ _ hdb => hdb.of_eq rfl rfl rfl) (fun _ _ _ _ _ _ hdb hu => hdb.observed hu)
    (fun _ _ hdb => hdb.advanceFromStatus) h hok

/-! ### Releases -/

theorem mem_clustersOf_applyRelease {w : Work} {newID : UUID → UUID} {release : Release}
    {rc' : RolloutClusterRow} (hok : applyRelease w now plan newID db release = .ok db')
    (h : rc' ∈ db'.clustersOf id) :
    ∃ rc ∈ db.clustersOf id, rc' = rc ∨
      (∃ row, w.rowFor release.clusterID = some row ∧ rc.id = row.row.id) ∧
        rc' = { rc.release now release.toState release.action release.deadline with
                updatedAt := now } := by
  obtain ⟨row, _, deployed, _, _, _, hr, -, -, hup, -, rfl, -⟩ := applyRelease_eq_ok hok
  obtain ⟨rc, hrc, heq⟩ := mem_clustersOf_updateClusterRows (by intro; rfl) h
  rw [DB.clustersOf, (upsert_clusterRows hup).1] at hrc
  refine ⟨rc, hrc, ?_⟩
  split at heq
  next hc =>
    simp only [DB.clusterCAS, Bool.and_eq_true, beq_iff_eq] at hc
    exact .inr ⟨⟨row, hr, hc.1.1.1⟩, heq⟩
  · exact .inl heq

theorem Tracks.applyRelease_apply {w} {release : Release} (h : Tracks plan s db)
    (hs : s ∉ rollbackStates) (hac : release.action = .apply)
    (hto : release.toState ≠ .readyPrevious)
    (hok : applyRelease w now plan newID db release = .ok db') : Tracks plan s db' := by
  refine .of_applying (by rintro rfl; simp [rollbackStates] at hs) (fun rc' hrc' => ?_)
    fun rc' hrc' hst => ?_
  · obtain ⟨rc, hrc, rfl | ⟨-, rfl⟩⟩ := mem_clustersOf_applyRelease hok hrc'
    · exact h.applying hs _ hrc
    · exact hac
  · obtain ⟨rc, hrc, rfl | ⟨-, rfl⟩⟩ := mem_clustersOf_applyRelease hok hrc'
    · exact h.previous _ hrc hst
    · exact absurd hst hto

def DB.Keyed (db : DB) (id : UUID) : Prop :=
  ∀ k ∈ db.clusterKeys id, ∀ k' ∈ db.clusterKeys id, k.1 = k'.1 → k.2 = k'.2

theorem Tracks.applyRelease_rollback {w : Work} {release : Release}
    {planned : PlannedCluster} {previous : PreviousDeployment} (hm : plan.Members)
    (h : Tracks plan .rollingBack db) (hac : release.action = .rollback)
    (hto : release.toState ≠ .readyPrevious) (hmem : planned ∈ plan.clusters)
    (hcl : planned.clusterID = release.clusterID) (hpv : planned.previous = some previous)
    (hvs : release.version = previous.version)
    (hk : ∀ rc ∈ db.clustersOf plan.id, ∀ row, w.rowFor release.clusterID = some row →
      rc.id = row.row.id → rc.clusterID = release.clusterID)
    (hok : applyRelease w now plan newID db release = .ok db') :
    Tracks plan .rollingBack db' := by
  have hrs :=
    fun rc' => @mem_clustersOf_applyRelease plan db db' now plan.id w newID release rc' hok
  obtain ⟨_, _, deployed, row, _, e, -, -, -, hup, -, hdb, -, -, -, hcd⟩ := applyRelease_eq_ok hok
  have hc : row.Carries release.version := by
    rcases upsertClusterDeploymentDesired_eq_some hup with ⟨-, -, rfl, -⟩ | ⟨old, -, -, rfl, -⟩ <;>
      exact ⟨rfl, rfl, rfl, rfl, rfl, rfl⟩
  -- the release restores its own cluster
  have hsl : db'.Restored plan planned := by
    refine ⟨previous, row, hpv, ?_, hvs ▸ hc⟩
    rw [hcl, hdb]
    exact deployment_upsert hup
  have hl : db'.applyReleases plan.id = db.applyReleases plan.id := by
    refine DB.applyReleases_append [e] ?_ fun e' he' _ _ => ?_
    · rw [hdb]
      show deployed.rolloutEvents ++ [e] = _
      rw [(upsert_clusterRows hup).2]
    · rw [mem_singleton.mp he', hcd, hac]
      decide
  refine ⟨fun hs => absurd (by simp [rollbackStates]) hs, fun _ rc' hrc' ha => ?_,
    fun rc' hrc' hrb p hp hpd => ?_, fun rc' hrc' hst => ?_⟩
  · rw [DB.WasApplied, hl] at ha
    obtain ⟨rc, hrc, rfl | ⟨-, rfl⟩⟩ := hrs rc' hrc'
    · exact h.released rfl _ hrc ha
    · simp [RolloutClusterRow.release]
  · by_cases hsm : p.clusterID = release.clusterID
    · have hp' : p = planned := inj_on_of_nodup_map hm.nodup hp hmem (hsm.trans hcl.symm)
      exact hp' ▸ hsl
    · obtain ⟨rc, hrc, rfl | ⟨⟨row', hr', hid⟩, rfl⟩⟩ := hrs rc' hrc'
      · obtain ⟨previous', d, hpv', hd, hv⟩ := h.restored _ hrc hrb p hp hpd
        refine ⟨previous', d, hpv', ?_, hv⟩
        rw [hdb]
        exact (deployment_upsert_of_ne (fun heq => hsm heq.2) hup).trans hd
      · exact absurd (hpd.trans (hk rc hrc row' hr' hid)) hsm
  · obtain ⟨rc, hrc, rfl | ⟨-, rfl⟩⟩ := hrs rc' hrc'
    · exact h.previous _ hrc hst
    · exact absurd hst hto

/-! ### Decisions -/

theorem Tracks.applyClusterTransition {w} {t : ClusterTransition} (h : Tracks plan s db)
    (hto : t.toState ≠ .readyPrevious) (hok : applyClusterTransition w now db t = .ok db') :
    Tracks plan s db' := by
  obtain ⟨_, _, e, -, -, rfl, -, hty⟩ := applyClusterTransition_eq_ok hok
  refine (h.updateClusterRows (by intro; rfl) fun rc => ?_).createRolloutEvent (by simp [hty])
  exact ⟨rfl, rfl, id, fun hst => absurd hst hto⟩

structure Decision.Careful (plan : FrozenRollout) (s : RolloutState) (d : Decision) : Prop where
  transitions : ∀ t ∈ d.clusterTransitions, t.toState ≠ .readyPrevious
  releases : ∀ r ∈ d.releases, r.toState ≠ .readyPrevious ∧
    (r.action = .apply ∧ s ∉ rollbackStates ∨
      s = .rollingBack ∧ r.action = .rollback ∧ ∃ planned ∈ plan.clusters, ∃ previous,
        planned.clusterID = r.clusterID ∧ planned.previous = some previous ∧
        r.version = previous.version)

theorem Decision.Idle.careful (h : d.Idle) : d.Careful plan s :=
  ⟨by simp [h.transitions], by simp [h.releases]⟩

theorem Decision.Lawful.careful {env : Env} {input : EvaluateInput}
    {clusters : List ClusterRuntime} (hp : input.snapshot.plan = plan)
    (h : d.Lawful env input clusters) : d.Careful plan input.snapshot.state := by
  subst hp
  cases hst : input.snapshot.state <;> simp only [Decision.Lawful, hst] at h
  case progressing =>
    refine ⟨fun t ht => ?_, fun r hr => ?_⟩
    · obtain ⟨_, -, -, -, -, ⟨-, hto⟩ | ⟨-, hto⟩ | ⟨-, -, hto⟩⟩ := h.transitions t ht <;>
        simp [hto]
    · obtain ⟨_, _, _, _, -, -, -, hn⟩ := h.releases r hr
      obtain ⟨-, hac, -, -, hto, -⟩ := newRelease_eq_ok hn
      exact ⟨by rw [hto]; decide, .inl ⟨hac, by simp [rollbackStates]⟩⟩
  case rollingBack =>
    refine ⟨by simp [h.transitions], fun r hr => ?_⟩
    obtain ⟨planned, hmem, _, v, -, -, ⟨previous, hpv, rfl⟩, hn⟩ := h.releases r hr
    obtain ⟨hid, hac, hv, -, hto, -⟩ := newRelease_eq_ok hn
    exact ⟨by rw [hto]; decide, .inr ⟨rfl, hac, planned, hmem, previous, hid.symm, hpv, hv⟩⟩
  all_goals exact h.1.careful

theorem Tracks.applyDecision {w : Work} (hm : plan.Members)
    (hpl : w.claimed.frozenPlan = plan) (hc : w.decision.Careful plan s)
    (hrs : ∀ row ∈ w.loaded.rows, row.row ∈ db.clustersOf plan.id) (hkd : db.Keyed plan.id)
    (hr : (db.rollout plan.id).isSome) (h : Tracks plan s db)
    (hok : applyDecision w now newID db = .ok db') : Tracks plan s db' := by
  -- the loaded row of a cluster names it, also after the writes before this one
  have hky : ∀ d : DB, DB.Writes db d → ∀ rc ∈ d.clustersOf plan.id, ∀ clusterID row,
      w.rowFor clusterID = some row → rc.id = row.row.id → rc.clusterID = clusterID := by
    intro d hd rc hrc clusterID row hrw hid
    have hmem : row.row ∈ db.clustersOf plan.id := hrs row (mem_of_find?_eq_some hrw)
    have hcl : row.row.clusterID = clusterID := by simpa using find?_some hrw
    have hk : (rc.id, rc.clusterID) ∈ db.clusterKeys plan.id := by
      rw [← hd.clusterKeys hr]
      exact mem_map_of_mem hrc
    exact (hkd _ hk (row.row.id, row.row.clusterID) (mem_map_of_mem hmem) hid).trans hcl
  have hdone : Tracks plan s db' ∧ DB.Writes db db' := by
    refine applyDecision_keeps (P := fun d => Tracks plan s d ∧ DB.Writes db d)
      (fun _ _ t ht hi ho => ⟨hi.1.applyClusterTransition (hc.transitions t ht) ho,
        hi.2.trans (DB.Writes.of_applyClusterTransition ho)⟩)
      (fun d d' r hr hi ho => ⟨?_, hi.2.trans (DB.Writes.of_applyRelease ho)⟩)
      (fun _ _ _ hf hi => ⟨hi.1.of_eq rfl rfl rfl, hi.2.updateRollouts fun r => (hf r).1⟩)
      (fun _ e hty hi => ⟨hi.1.createRolloutEvent (by simp [hty]), hi.2.createRolloutEvent⟩)
      ⟨h, .refl⟩ hok
    rw [hpl] at ho
    obtain ⟨hto, ⟨hac, hs⟩ | ⟨rfl, hac, planned, hp, previous, hid, hpv, hv⟩⟩ := hc.releases r hr
    · exact hi.1.applyRelease_apply hs hac hto ho
    · exact hi.1.applyRelease_rollback hm hac hto hp hid hpv hv
        (fun rc hrc row hrw hrd => hky d hi.2 rc hrc _ row hrw hrd) ho
  exact hdone.1

theorem applyDecision_idle {w : Work} {newID : UUID → UUID} (hi : w.decision.Idle)
    (hok : applyDecision w now newID db = .ok db') :
    db'.rolloutClusters = db.rolloutClusters ∧ db'.deployments = db.deployments ∧
      db'.applyReleases id = db.applyReleases id := by
  refine applyDecision_keeps (P := fun s => s.rolloutClusters = db.rolloutClusters ∧
      s.deployments = db.deployments ∧ s.applyReleases id = db.applyReleases id)
    (fun _ _ _ ht => ?_) (fun _ _ _ hr => ?_) (fun _ _ _ _ hs => hs)
    (fun s e hty hs => ⟨hs.1, hs.2.1, Eq.trans ?_ hs.2.2⟩) ⟨rfl, rfl, rfl⟩ hok
  · rw [hi.transitions] at ht
    cases ht
  · rw [hi.releases] at hr
    cases hr
  · refine DB.applyReleases_append [e] rfl fun e' he' _ hrl => ?_
    rw [mem_singleton.mp he', hty] at hrl
    cases hrl

theorem Decision.Lawful.moves {env : Env} {input : EvaluateInput} {clusters : List ClusterRuntime}
    {t : RolloutTransition} (h : d.Lawful env input clusters)
    (ht : d.rolloutTransition = some t) :
    (t.toState ∉ rollbackStates → input.snapshot.state ∉ rollbackStates) ∧
      (t.toState = .rollingBack → input.snapshot.state = .failed ∧
        input.snapshot.plan.strategy.onFailure = .rollback) ∧
      (t.toState = .rolledBack → input.snapshot.state = .rollingBack) := by
  cases hst : input.snapshot.state <;> simp only [Decision.Lawful, hst] at h
  case progressing | rollingBack =>
    have hto := (h.moves t ht).2.2
    cases hs : t.toState <;> simp [hs, rollbackStates] at hto ⊢
  case resolving =>
    have hto := (h.2 t ht).2.2
    split at hto <;> rw [mem_singleton] at hto <;> simp [hto, rollbackStates]
  case awaitingApproval =>
    have hto := (h.2.1 t ht).2.2
    cases hs : t.toState <;> simp [hs, rollbackStates] at hto ⊢
  case queued =>
    have hto := mem_singleton.mp (h.2 t ht).2.2
    simp [hto, rollbackStates]
  case failed =>
    have hto := mem_singleton.mp (h.2.1 t ht).2.2
    simp [hto, rollbackStates, h.2.2 (by simp [ht])]
  all_goals
    rw [h.2] at ht
    cases ht

/-! ### Operator actions -/

theorem Tracks.resetTables {action x} (h : Tracks plan s db)
    (hs : action = .retry → x = plan.id → s ∉ rollbackStates) :
    Tracks plan s (resetTables db now action x) := by
  simp only [Delivery.resetTables]
  split
  next hac =>
    by_cases hx : x = plan.id
    · -- every row of the rollout is on `apply`, before and after
      have hs := hs hac hx
      refine .of_applying (by rintro rfl; simp [rollbackStates] at hs) (fun rc' hrc' => ?_)
        fun rc' hrc' hst => ?_
      · obtain ⟨rc, hrc, rfl⟩ := mem_clustersOf_updateClusterRows (by intro; rfl) hrc'
        split
        · rfl
        · exact h.applying hs rc hrc
      · obtain ⟨rc, hrc, rfl⟩ := mem_clustersOf_updateClusterRows (by intro; rfl) hrc'
        split at hst
        · cases hst
        next hp =>
          rw [if_neg hp]
          exact h.previous rc hrc hst
    · refine h.keep (fun rc' hrc' => ?_) rfl (.of_eq rfl)
      obtain ⟨rc, hrc, rfl⟩ := mem_clustersOf_updateClusterRows (by intro; rfl) hrc'
      refine ⟨rc, hrc, ?_⟩
      have hrd : rc.rolloutID = plan.id := by simpa [DB.clustersOf] using (mem_filter.mp hrc).2
      have hne : plan.id ≠ x := fun heq => hx heq.symm
      rw [if_neg (by simp [hrd, hne])]
      exact .refl rc
  · exact h

theorem actionTransition_rollback (action : Action) :
    (∀ s ∈ (actionTransition action).1, s ∉ rollbackStates) ∧
      ((actionTransition action).2 = .rollingBack → action = .rollback) ∧
      (actionTransition action).2 ≠ .rolledBack := by
  cases action <;> decide

theorem Tracks.act {clock} {request : ActionRequest} {r : RolloutRow}
    (hr : db.core plan.id = some r) (h : Tracks plan r.state db)
    (hc : request.rolloutID = plan.id → request.action = .rollback → db.AllReleased plan)
    (hok : act db clock request = .ok db') :
    ∃ r', db'.core plan.id = some r' ∧ Tracks plan r'.state db' ∧
      (r'.state = .rolledBack → r.state = .rolledBack) := by
  have hcr := @act_core db db' plan.id clock request hok
  obtain ⟨current, e, hcu, -, ha, -, rfl, hty⟩ := act_eq_ok hok
  have hl : e.eventType ≠ .clusterReleased := by simp [hty]
  rw [hr] at hcr
  by_cases hid : plan.id = request.rolloutID
  · rw [if_pos hid] at hcr
    rw [← RolloutRow.core_state, DB.core_inj hcu (hid ▸ hr)] at ha
    obtain ⟨hsr, hi, hn⟩ := actionTransition_rollback request.action
    refine ⟨_, hcr, ?_, fun hrb => absurd hrb hn⟩
    have hrs : Tracks plan r.state
        (Delivery.resetTables db clock.dbNow request.action request.rolloutID) :=
      h.resetTables fun _ _ => hsr _ ha
    refine Tracks.createRolloutEvent (Tracks.of_eq (hrs.move (fun _ => hsr _ ha)
      fun hrb => .inr ?_) rfl rfl rfl) hl
    have hac := hi hrb
    rw [Delivery.resetTables, if_neg (by rw [hac]; decide)]
    exact hc hid.symm hac
  · rw [if_neg hid] at hcr
    refine ⟨r, hcr, ?_, fun hrb => hrb⟩
    have hrs : Tracks plan r.state
        (Delivery.resetTables db clock.dbNow request.action request.rolloutID) :=
      h.resetTables fun _ heq => absurd heq.symm hid
    refine Tracks.createRolloutEvent ?_ hl
    exact hrs.of_eq rfl rfl rfl

end Tables

/-! ## The invariant on the world -/

section World

variable {env : Env} {senv : StatusEnv} {plan : FrozenRollout} {w : World} {e : Event} {db db' : DB}
  {now : Time}

structure World.Tracked (env : Env) (plan : FrozenRollout) (w : World) : Prop
    extends World.Staffed env plan w where
  members : plan.Members
  tracks : ∃ r, w.db.core plan.id = some r ∧ Tracks plan r.state w.db
  keyed : w.db.Keyed plan.id
  coherent : w.Coherent (DB.clustersOf · plan.id) Reflects plan.id
  own : ∀ j ∈ w.jobs, j.claimed.id = plan.id

def TracksAfter (plan : FrozenRollout) (db db' : DB) : Prop :=
  ∃ r', db'.core plan.id = some r' ∧ Tracks plan r'.state db' ∧
    (r'.state = .rolledBack → db.stateOf plan.id ≠ some .rolledBack →
      ∀ planned ∈ plan.clusters, db'.WasApplied plan planned.clusterID →
        db'.Restored plan planned)

theorem TracksAfter.of_state {r' : RolloutRow} (hr : db.core plan.id = some r)
    (hr' : db'.core plan.id = some r') (hst : r'.state = r.state)
    (ht : Tracks plan r.state db') : TracksAfter plan db db' := by
  refine ⟨r', hr', hst ▸ ht, fun hrb hnot => absurd ?_ hnot⟩
  rw [DB.stateOf_eq_core, hr, Option.map_some, ← hst, hrb]

theorem TracksAfter.of_around (hr : db.core plan.id = some r)
    (ht : Tracks plan r.state db) (h : DB.Around db db') : TracksAfter plan db db' := by
  refine .of_state hr ((h.core _).trans hr) rfl (ht.of_eq ?_ ?_ h.deployments)
  · rw [DB.clustersOf, h.clusterRows]
    rfl
  · rw [DB.applyReleases, h.events]
    rfl

theorem applyDecision_tracksAfter {work : Work}
    {approvals : List ApprovalRow} {windows : String → Except Error Bool} (hm : plan.Members)
    (hr : db.core plan.id = some r) (ht : Tracks plan r.state db)
    (hk : db.Keyed plan.id) (hid : work.claimed.id = plan.id)
    (hpl : work.claimed.frozenPlan = plan)
    (he : evaluateClaimed env work.claimed work.owner work.loaded.rows approvals windows
      work.now = .ok work.decision)
    (hcrr : Current (DB.generation · plan.id) (DB.clustersOf · plan.id) Reflects db
      work.loaded.generation work.loaded.rows)
    (hcv : r.state = .failed → plan.strategy.onFailure = .rollback → db.AllReleased plan)
    (h : applyDecision work now newID db = .ok db') : TracksAfter plan db db' := by
  obtain ⟨locked, _, _, _, hlk, -, hg, hs, -⟩ := applyDecision_eq_ok h
  rw [hid] at hlk
  have hsa : r.state = work.claimed.state := by rw [← DB.core_inj hlk hr, RolloutRow.core_state, hs]
  -- the generation is re-read under the lock, so the loaded rows are the rows there are
  have hrs : Reflects (db.clustersOf plan.id) work.loaded.rows :=
    hcrr.2 ((DB.generation_of_rollout hlk).trans hg).symm
  obtain ⟨input, clusters, hsn, -, -, -, hrn, hl⟩ := evaluateClaimed_lawful hpl he
  have hin : input.snapshot.state = r.state := by rw [hsn, hsa]; rfl
  have hil : input.snapshot.plan = plan := by rw [hsn]; rfl
  have hca : work.decision.Careful plan r.state := hin ▸ hl.careful hil
  have hsm : (db.rollout plan.id).isSome := by rw [hlk]; rfl
  have htr := ht.applyDecision hm hpl hca hrs hk hsm h
  have hcr := applyDecision_core (x := plan.id) h
  rw [if_pos hid.symm, hr, Option.map_some] at hcr
  refine ⟨_, hcr, ?_⟩
  cases hmv : work.decision.rolloutTransition with
  | none =>
    refine ⟨htr, fun hrb hnot => absurd ?_ hnot⟩
    rw [DB.stateOf_eq_core, hr, Option.map_some]
    exact congrArg some hrb
  | some t =>
    obtain ⟨hsy, hsr, hdone⟩ := hl.moves hmv
    rw [hin] at hsy hsr hdone
    rw [hil] at hsr
    refine ⟨htr.move hsy fun hrb => ?_, fun hrb _ planned hp hap => ?_⟩
    · -- a worker starts a rollback on a failed rollout only, and with an idle decision
      obtain ⟨hfl, hpo⟩ := hsr hrb
      have hi : work.decision.Idle := by
        simp only [Decision.Lawful, hin, hfl] at hl
        exact hl.1
      obtain ⟨hrc, -, hlg⟩ := @applyDecision_idle db db' now plan.id work newID hi h
      refine .inr fun rc hmem hap => hcv hfl hpo rc ?_ ?_
      · rw [DB.clustersOf, hrc] at hmem
        exact hmem
      · rw [DB.WasApplied, hlg] at hap
        exact hap
    · -- the rollback is over: every released cluster is ready on its previous version
      have hst := hdone hrb
      simp only [Decision.Lawful, hin, hst] at hl
      obtain ⟨hn, ha⟩ := hl.complete t hmv hrb
      rw [hil] at ha
      obtain ⟨-, hd, hlg⟩ :=
        @applyDecision_idle db db' now plan.id work newID ⟨hn, hl.transitions⟩ h
      rw [DB.WasApplied, hlg] at hap
      obtain ⟨c, hc, hcd, hat⟩ := validateRuntime_at hm hrn hp
      obtain ⟨row, hrw, rfl⟩ := mem_map.mp hc
      have hmem := hrs row hrw
      have hri : row.row.clusterID = planned.clusterID := hcd
      have hev : row.row.releasedAt.isSome := ht.released hst row.row hmem (by rw [hri]; exact hap)
      have hrd : row.row.state = .readyPrevious := ha planned hp _ hat hev
      have hb := ht.previous row.row hmem hrd
      exact (ht.restored row.row hmem hb planned hp hri.symm).mono (.of_eq hd)

theorem World.Commits.tracksAfter (hc : w.Commits env senv e db') (h : w.Tracked env plan)
    (ho : OneRollout plan.id e) (hcv : RollbackCovered plan w e) :
    TracksAfter plan w.db db' := by
  obtain ⟨r, hr, ht⟩ := h.tracks
  cases hc with
  | create | writeDeployment => exact ho.elim
  | claim hcm =>
    have hcr := @claimDeliveryRollout_core _ _ plan.id _ _ _ _ _ hcm
    obtain ⟨_, -, -, -, -, rfl⟩ := claimDeliveryRollout_eq_some hcm
    rw [hr] at hcr
    split at hcr
    · exact .of_state hr hcr rfl (ht.of_eq rfl rfl rfl)
    · exact .of_state hr hcr rfl (ht.of_eq rfl rfl rfl)
  | @apply _ _ _ _ _ claimed runtime _ _ _ hj ha =>
    have hmem := mem_of_getElem? hj
    have hid : claimed.id = plan.id := h.own _ hmem
    obtain ⟨hp, hd⟩ := h.jobs _ hmem hid
    obtain ⟨approvals, windows, -, he⟩ := hd _ _ _ rfl
    refine applyDecision_tracksAfter h.members hr ht h.keyed hid hp he
      (h.coherent.jobs _ hmem hid runtime rfl) (fun hfl => ?_) ha
    refine hcv ?_
    rw [DB.stateOf_eq_core, hr, Option.map_some, hfl]
  | @act clock request _ hac =>
    obtain ⟨r', hr', htr, hn⟩ := Tracks.act hr ht hcv hac
    refine ⟨r', hr', htr, fun hrb hnot => absurd ?_ hnot⟩
    rw [DB.stateOf_eq_core, hr, Option.map_some, hn hrb]
  | @approve clock request _ har =>
    have hcr := @approve_core _ _ plan.id _ _ har
    obtain ⟨current, e, hcu, -, haw, hdb, hty⟩ := approve_eq_ok har
    have htr : Tracks plan r.state db' := by
      rw [hdb]
      refine Tracks.createRolloutEvent ?_ (by simp [hty])
      simp only [approvalTables]
      split <;> exact ht.of_eq rfl rfl rfl
    rw [hr] at hcr
    split at hcr
    · -- the initial approval moves the rollout out of `awaiting_approval`
      rename_i hi
      have hst := haw hi.2
      rw [← RolloutRow.core_state, DB.core_inj hcu (hi.1 ▸ hr)] at hst
      refine ⟨_, hcr, htr.move (fun _ => by simp [hst, rollbackStates]) fun hrb => ?_,
        fun hrb => ?_⟩
      · cases hv : request.decision <;> rw [hv] at hrb <;> cases hrb
      · cases hv : request.decision <;> rw [hv] at hrb <;> cases hrb
    · exact .of_state hr hcr rfl htr
  | ingest hig => exact .of_state hr (((ingest_frame hig).core _).trans hr) rfl (ht.ingest hig)
  | connection => exact .of_around hr ht writeConnection_around
  | dropConnection => exact .of_around hr ht dropConnection_around
  | labels => exact .of_around hr ht writeLabels_around

section

variable (h : w.Tracked env plan) (ho : OneRollout plan.id e) (hcv : RollbackCovered plan w e)

include h ho hcv

theorem World.Tracked.tracksAfter_step : TracksAfter plan w.db (w.step env senv e).db := by
  refine World.step_db_induct (P := TracksAfter plan w.db) ?_ fun _ hc =>
    hc.tracksAfter h ho hcv
  obtain ⟨r, hr, ht⟩ := h.tracks
  exact .of_state hr hr rfl ht

theorem World.Tracked.step : (w.step env senv e).Tracked env plan := by
  have haf : TracksAfter plan w.db (w.step env senv e).db := h.tracksAfter_step ho hcv
  obtain ⟨r', hr', ht, -⟩ := haf
  refine ⟨h.toStaffed.step, h.members, ⟨r', hr', ht⟩, ?_, ?_, fun j hj => ?_⟩
  · rw [DB.Keyed, World.step_writes.clusterKeys h.isSome]
    exact h.keyed
  · exact h.coherent.step reflects_runtimeRows (World.agesTo_clustersOf_step h.isSome)
  · cases World.step_jobs hj with
    | held hmem => exact h.own j hmem
    | claim he _ hcm =>
      subst he
      obtain ⟨r, hr, -, -, hrw, -⟩ := claimDeliveryRollout_eq_some hcm
      rw [hrw]
      exact (DB.id_of_rollout hr).trans ho
    | load _ hmem | evaluate _ hmem =>
      have how := h.own _ hmem
      exact how

theorem World.Tracked.rollbackComplete : RollbackComplete plan w (w.step env senv e) := by
  intro hrb hnot planned hp ha
  have haf : TracksAfter plan w.db (w.step env senv e).db := h.tracksAfter_step ho hcv
  obtain ⟨r', hr', -, hdone⟩ := haf
  rw [DB.stateOf_eq_core, hr', Option.map_some, Option.some.injEq] at hrb
  exact hdone hrb hnot planned hp ha

end

/-! ### The start -/

theorem World.Tracked.of_insert
    (hi : insertRollout env w.db now newID plan = .ok db) (hn : w.Unseen plan.id)
    (hj : w.jobs = []) : World.Tracked env plan { w with db } := by
  obtain ⟨hv, -, hnd, -⟩ := insertRollout_eq_ok hi
  have hm := FrozenRollout.members_of_validate hv
  have hrs := clustersOf_insertRollout hi hn
  have hr : ∀ rc ∈ db.clustersOf plan.id, rc.assignmentAction = .apply ∧ rc.state = .pending := by
    intro rc hrc
    rw [hrs] at hrc
    obtain ⟨c, -, rfl⟩ := mem_map.mp hrc
    exact ⟨rfl, rfl⟩
  refine ⟨.of_insert hi hn.jobs, hm, ⟨plan.toRow.core, by simp [insertRollout_core hi], ?_⟩,
    ?_, ?_, by simp [hj]⟩
  · refine .of_applying nofun (fun rc hrc => (hr rc hrc).1) fun rc hrc hst => ?_
    exact nomatch (hr rc hrc).2.symm.trans hst
  · -- fresh keys, one for each plan cluster
    intro k hk k' hk' heq
    rw [DB.clusterKeys, hrs, map_map] at hk hk'
    obtain ⟨c, hc, rfl⟩ := mem_map.mp hk
    obtain ⟨c', hc', rfl⟩ := mem_map.mp hk'
    have hs : c = c' := inj_on_of_nodup_map hnd hc hc' heq
    rw [hs]
  · refine ⟨by simp [hj], by simp [hj], fun replica c hc => ?_⟩
    rw [hn.caches replica] at hc
    cases hc

end World

/-- **Rollback completeness.** Along every run of one rollout in which each rollback starts
with every applied cluster still marked released, the rollout enters `rolled_back` only
with every cluster that ever received its version asked for the previous one again. -/
theorem rollback_complete_of_covered {env : Env} {senv : StatusEnv} {plan : FrozenRollout}
    {w : World} {db : DB} {now : Time} {newID : UUID → UUID} {es : List Event}
    (hins : insertRollout env w.db now newID plan = .ok db) (hnew : w.Unseen plan.id)
    (hjobs : w.jobs = []) (hone : ∀ e ∈ es, OneRollout plan.id e)
    (hmeets : RunMeets (World.step env senv) (RollbackCovered plan) { w with db } es) :
    RunMeets (World.step env senv)
      (fun w e => RollbackComplete plan w (w.step env senv e)) { w with db } es :=
  RunMeets.of_invariant (P := World.Tracked env plan)
    (fun _ _ h hok => h.step hok.1 hok.2) (fun _ _ h hok => h.rollbackComplete hok.1 hok.2)
    (hmeets.and_mem hone) (.of_insert hins hnew hjobs)

/-! ## On one cluster -/

namespace OneCluster

def restorablePlan : FrozenRollout := plan ⟨false, digest⟩ (some ⟨version 3, 1⟩)

def restoringRun : List Event :=
  released ++ [.act ⟨14, 14⟩ (action 4 .pause), .act ⟨15, 15⟩ (action 5 .rollback)] ++ pass 16 ++
    [status 1 2 .ready 17] ++ pass 18

def forgettingRun : List Event :=
  released ++
    [status 1 1 .failed 14, .act ⟨15, 15⟩ (action 4 .pause), .act ⟨16, 16⟩ (action 5 .retry),
      .act ⟨17, 17⟩ (action 6 .pause), .act ⟨18, 18⟩ (action 7 .rollback)] ++ pass 19

end OneCluster

open OneCluster in
/-- The covered run ends rolled back, and complete. -/
theorem restoringRun_complete :
    (run (World.step env senv) (inserted restorablePlan) restoringRun).db.stateOf 1 =
        some .rolledBack ∧
      RunMeets (World.step env senv)
        (fun w e => RollbackComplete restorablePlan w (w.step env senv e))
        (inserted restorablePlan) restoringRun :=
  ⟨by decide +kernel,
    @rollback_complete_of_covered env senv restorablePlan world _ 10 (· + 100) _ (by rfl)
      unseen rfl (by decide) (by decide +kernel)⟩

open OneCluster in
/-- The retry forgets the release: the rollout is rolled back with the new version still
asked for. -/
theorem forgettingRun_skips_cluster :
    let final := run (World.step env senv) (inserted restorablePlan) forgettingRun
    final.db.stateOf 1 = some .rolledBack ∧
      (final.db.deployment 2 7).map (·.desiredBundleVersionID) = some (some 4) ∧
      ¬ RunMeets (World.step env senv)
        (fun w e => RollbackComplete restorablePlan w (w.step env senv e))
        (inserted restorablePlan) forgettingRun := by
  decide +kernel

end Astronomer.Delivery
