import Astronomer.Delivery.Workers

/-!
# Which writes move the runtime generation

Each write moves the generation of the rollout, or everything a view of its runtime reads is
as before. A write to a watched deployment has to name the rollout for its trigger to fire.
-/

namespace Astronomer.Delivery

open List

variable {p : DeploymentRow → Bool} {f : DeploymentRow → DeploymentRow}
  {old : Option DeploymentRow} {deployments : List DeploymentRow} {c newID t : UUID}
  {row : DeploymentRow} {d : DesiredDeployment} {clock : Clock}

/-- What the runtime of a rollout is made of: its row, its cluster rows, the clusters,
their connections, and the deployments of the watched pairs. -/
structure SameRuntime (id : UUID) (watched : UUID → UUID → Prop) (db db' : DB) : Prop where
  row : (db'.rollout id).map (fun r => (r.frozen, r.runtimeGeneration)) =
    (db.rollout id).map fun r => (r.frozen, r.runtimeGeneration)
  clusterRows : db'.clustersOf id = db.clustersOf id
  clusters : db'.clusters = db.clusters
  connections : db'.connections = db.connections
  deployments : ∀ targetID clusterID, watched targetID clusterID →
    db'.deployment targetID clusterID = db.deployment targetID clusterID

def ViewOf {ν : Type} (id : UUID) (watched : UUID → UUID → Prop) (view : DB → ν) : Prop :=
  ∀ db db', SameRuntime id watched db db' → view db' = view db

/-- A deployment write that the trigger can report: it names the rollout, or it is of no
interest to it. -/
def Reported (id : UUID) (watched : UUID → UUID → Prop) (old : Option DeploymentRow)
    (new : DeploymentRow) : Prop :=
  watched new.targetID new.clusterID → id ∈ deploymentRollouts old (some new)

section Ages

variable {ν : Type} {view : DB → ν} {id x : UUID} {watched : UUID → UUID → Prop}
  {keys : List UUID} {db db' db'' : DB} {now : Time}

abbrev DB.AgesTo (view : DB → ν) (id : UUID) (db db' : DB) : Prop :=
  Ages (DB.generation · id) view db db'

theorem generation_updateRollouts {p f} (hid : ∀ r, (f r).id = r.id) :
    (db.updateRollouts p f).generation id =
      (db.rollout id).elim 0 fun r => (if p r then f r else r).runtimeGeneration := by
  rw [DB.generation, DB.rollout_updateRollouts hid]
  cases db.rollout id <;> rfl

theorem generation_lt_of_named {new} (hr : (db.rollout id).isSome)
    (hmem : id ∈ deploymentRollouts old new) :
    db.generation id <
      (({ db with deployments } : DB).bumpForDeployment old new).generation id := by
  obtain ⟨r, hr⟩ := Option.isSome_iff_exists.mp hr
  have hrw : ({ db with deployments } : DB).rollout id = some r := hr
  have hnm : (deploymentRollouts old new).contains r.id := by
    simp [DB.id_of_rollout hr, hmem]
  rw [DB.bumpForDeployment, generation_updateRollouts (by intro; rfl), hrw,
    DB.generation_of_rollout hr]
  simp only [Option.elim_some, hnm, if_true]
  omega

/-! ## The deployments -/

theorem deployment_append_of_ne (hne : ¬ (t = row.targetID ∧ c = row.clusterID)) :
    ({ db with deployments := db.deployments ++ [row] } : DB).deployment t c =
      db.deployment t c := by
  have hr : (row.targetID == t && row.clusterID == c) = false := by
    rw [Bool.and_eq_false_iff, beq_eq_false_iff_ne, beq_eq_false_iff_ne]
    by_contra hb
    push Not at hb
    exact hne ⟨hb.1.symm, hb.2.symm⟩
  simp [DB.deployment, find?_append, hr]

theorem deployment_updateWhere {p : DeploymentRow → Bool} {f : DeploymentRow → DeploymentRow}
    (hf : ∀ d, (f d).targetID = d.targetID ∧ (f d).clusterID = d.clusterID) {t c : UUID} :
    ({ db with deployments := updateWhere p f db.deployments } : DB).deployment t c =
      (db.deployment t c).map fun d => if p d then f d else d :=
  find?_updateWhere fun d => by rw [(hf d).1, (hf d).2]

theorem DB.key_of_deployment {d : DeploymentRow} (h : db.deployment t c = some d) :
    d.targetID = t ∧ d.clusterID = c := by
  have := find?_some h
  simpa using this

theorem deployment_updateWhere_of_ne {t0 c0}
    (hp : ∀ d, p d → d.targetID = t0 ∧ d.clusterID = c0)
    (hf : ∀ d, p d → (f d).targetID = t0 ∧ (f d).clusterID = c0) (hne : ¬ (t = t0 ∧ c = c0))
    :
    ({ db with deployments := updateWhere p f db.deployments } : DB).deployment t c =
      db.deployment t c := by
  rw [DB.deployment, find?_updateWhere_of_where fun d hd => by
    rw [(hf d hd).1, (hf d hd).2, (hp d hd).1, (hp d hd).2]]
  show (db.deployment t c).map _ = _
  cases hd : db.deployment t c with
  | none => rfl
  | some d =>
    obtain ⟨rfl, rfl⟩ := DB.key_of_deployment hd
    have hnot : p d ≠ true := fun hpd => hne (hp d hpd)
    rw [Option.map_some, if_neg hnot]

theorem deployment_upsert_of_ne (hne : ¬ (t = d.targetID ∧ c = d.clusterID))
    (h : upsertClusterDeploymentDesired db d newID = some (db', row)) :
    db'.deployment t c = db.deployment t c := by
  rcases upsertClusterDeploymentDesired_eq_some h with ⟨-, -, rfl, rfl⟩ | ⟨old, -, -, -, rfl⟩
  · exact deployment_append_of_ne hne
  · have hp : ∀ d', d.names d' → d'.targetID = d.targetID ∧ d'.clusterID = d.clusterID := by
      simp [DesiredDeployment.names]
    exact deployment_updateWhere_of_ne hp hp hne

theorem deployment_upsert (h : upsertClusterDeploymentDesired db d newID = some (db', row)) :
    db'.deployment d.targetID d.clusterID = some row := by
  rcases upsertClusterDeploymentDesired_eq_some h with
    ⟨hn, -, rfl, rfl⟩ | ⟨old, hold, -, rfl, rfl⟩
  · have hn' : db.deployments.find?
        (fun r => r.targetID == d.targetID && r.clusterID == d.clusterID) = none := hn
    show List.find? _ (db.deployments ++ [d.toRow newID]) = _
    simp [find?_append, hn', DesiredDeployment.toRow]
  · have hnw := @deployment_updateWhere db d.names d.overwrite (fun _ => ⟨rfl, rfl⟩) d.targetID
      d.clusterID
    obtain ⟨ht, hcl⟩ := DB.key_of_deployment hold
    rw [hold, Option.map_some, if_pos (by simp [DesiredDeployment.names, ht, hcl])] at hnw
    exact hnw

theorem upsert_clusterRows (h : upsertClusterDeploymentDesired db d newID = some (db', row)) :
    db'.rolloutClusters = db.rolloutClusters ∧ db'.rolloutEvents = db.rolloutEvents := by
  rcases upsertClusterDeploymentDesired_eq_some h with ⟨-, -, -, rfl⟩ | ⟨_, -, -, -, rfl⟩ <;>
    exact ⟨rfl, rfl⟩

theorem generation_lt_of_upsert (hr : (db.rollout id).isSome)
    (hmem : id ∈ deploymentRollouts (db.deployment d.targetID d.clusterID) (some row))
    (h : upsertClusterDeploymentDesired db d newID = some (db', row)) :
    db.generation id < db'.generation id := by
  rcases upsertClusterDeploymentDesired_eq_some h with
    ⟨hn, -, rfl, rfl⟩ | ⟨old, hold, -, rfl, rfl⟩
  · rw [hn] at hmem
    exact generation_lt_of_named hr hmem
  · rw [hold] at hmem
    exact generation_lt_of_named hr hmem

structure Watch (id : UUID) (watched : UUID → UUID → Prop) (keys : List UUID)
    (t : List DeploymentRow) : Prop where
  owned : ∀ d ∈ t, d.id ∈ keys → watched d.targetID d.clusterID → d.currentRolloutID = some id
  unique : ∀ d ∈ t, ∀ d' ∈ t, watched d'.targetID d'.clusterID → d.id = d'.id → d = d'

structure KeepsOwner (f : DeploymentRow → DeploymentRow) : Prop where
  id : ∀ d, (f d).id = d.id
  target : ∀ d, (f d).targetID = d.targetID
  cluster : ∀ d, (f d).clusterID = d.clusterID
  rollout : ∀ d, (f d).currentRolloutID = d.currentRolloutID

theorem KeepsOwner.ite (hf : KeepsOwner f)
    (p : DeploymentRow → Bool) : KeepsOwner fun d => if p d then f d else d := by
  constructor <;> intro d <;> split <;> simp [hf.id, hf.target, hf.cluster, hf.rollout]

theorem keepsOwner_observe (u : ObservedUpdate) : KeepsOwner (·.observe u) :=
  ⟨fun _ => rfl, fun _ => rfl, fun _ => rfl, fun _ => rfl⟩

theorem Watch.updateWhere {t} (h : Watch id watched keys t) (hf : KeepsOwner f) :
    Watch id watched keys (Astronomer.updateWhere p f t) := by
  have hg := hf.ite p
  constructor
  · intro d hd hk hw
    obtain ⟨d0, hd0, rfl⟩ := mem_updateWhere.mp hd
    rw [hg.id] at hk
    rw [hg.target, hg.cluster] at hw
    rw [hg.rollout]
    exact h.owned d0 hd0 hk hw
  · intro d hd d' hd' hw heq
    obtain ⟨d0, hd0, rfl⟩ := mem_updateWhere.mp hd
    obtain ⟨d1, hd1, rfl⟩ := mem_updateWhere.mp hd'
    rw [hg.target, hg.cluster] at hw
    rw [hg.id, hg.id] at heq
    rw [h.unique d0 hd0 d1 hd1 hw heq]

structure Follows (view : DB → ν) (id : UUID) (watched : UUID → UUID → Prop)
    (keys : List UUID) (db db' : DB) : Prop where
  ages : DB.AgesTo view id db db'
  row : (db'.rollout id).isSome
  watch : Watch id watched keys db'.deployments

theorem Follows.trans (h : Follows view id watched keys db db')
    (h' : Follows view id watched keys db' db'') : Follows view id watched keys db db'' :=
  ⟨h.ages.trans h'.ages, h'.row, h'.watch⟩

/-! ## Writes that leave the runtime as it is -/

section

variable (hv : ViewOf id watched view)

include hv

theorem ViewOf.agesTo_same (h : SameRuntime id watched db db') :
    DB.AgesTo view id db db' := by
  refine .inr ⟨?_, hv db db' h⟩
  have hg := congrArg (Option.map Prod.snd) h.row
  simp only [Option.map_map] at hg
  have he : ∀ o : Option RolloutRow, o.elim 0 RolloutRow.runtimeGeneration =
      (o.map (Prod.snd ∘ fun r => (r.frozen, r.runtimeGeneration))).getD 0 := by
    intro o
    cases o <;> rfl
  simp only [DB.generation]
  rw [he, he, hg]

theorem ViewOf.agesTo_updateRollouts {p f}
    (hf : ∀ r, (f r).frozen = r.frozen ∧ (f r).runtimeGeneration = r.runtimeGeneration) :
    DB.AgesTo view id db (db.updateRollouts p f) := by
  have hid : ∀ r, (f r).id = r.id := fun r => by
    have hs := congrArg RolloutRow.id (hf r).1
    exact hs
  refine hv.agesTo_same ⟨?_, rfl, rfl, rfl, fun _ _ _ => rfl⟩
  rw [DB.rollout_updateRollouts hid, Option.map_map]
  congr 1
  funext r
  simp only [Function.comp_apply]
  split
  · rw [(hf r).1, (hf r).2]
  · rfl

theorem ViewOf.agesTo_bump {p} : DB.AgesTo view id db
      (db.updateRollouts p fun r => { r with runtimeGeneration := r.runtimeGeneration + 1 }) := by
  cases hr : db.rollout id with
  | none =>
    refine hv.agesTo_same ⟨?_, rfl, rfl, rfl, fun _ _ _ => rfl⟩
    rw [DB.rollout_updateRollouts (by intro; rfl), hr]
    rfl
  | some r =>
    by_cases hp : p r
    · refine .inl ?_
      show db.generation id < DB.generation _ id
      rw [generation_updateRollouts (by intro; rfl), hr, DB.generation_of_rollout hr]
      simp only [Option.elim_some, hp, if_true]
      omega
    · refine hv.agesTo_same ⟨?_, rfl, rfl, rfl, fun _ _ _ => rfl⟩
      rw [DB.rollout_updateRollouts (by intro; rfl), hr]
      simp [hp]

theorem ViewOf.agesTo_createRolloutEvent {e} : DB.AgesTo view id db (db.createRolloutEvent e) :=
  hv.agesTo_same ⟨rfl, rfl, rfl, rfl, fun _ _ _ => rfl⟩

theorem ViewOf.agesTo_approve {request} (h : approve db clock request = .ok db') :
    DB.AgesTo view id db db' := by
  obtain ⟨_, _, -, -, -, rfl, -⟩ := approve_eq_ok h
  have hr : DB.AgesTo view id db
      { db with approvals := db.approvals ++ [request.row clock.dbNow] } :=
    hv.agesTo_same ⟨rfl, rfl, rfl, rfl, fun _ _ _ => rfl⟩
  refine (hr.trans ?_).trans hv.agesTo_createRolloutEvent
  simp only [approvalTables]
  split
  · exact hv.agesTo_updateRollouts (by intro; exact ⟨rfl, rfl⟩)
  · exact .refl

theorem ViewOf.agesTo_claim {owner lease row}
    (h : claimDeliveryRollout db now owner lease x = some (db', row)) :
    DB.AgesTo view id db db' := by
  obtain ⟨_, -, -, -, -, rfl⟩ := claimDeliveryRollout_eq_some h
  exact hv.agesTo_updateRollouts (by intro; exact ⟨rfl, rfl⟩)

theorem ViewOf.follows_same
    (hs : SameRuntime id watched db db') (hd : db'.deployments = db.deployments)
    (hr : (db'.rollout id).isSome) (hwt : Watch id watched keys db.deployments) :
    Follows view id watched keys db db' :=
  ⟨hv.agesTo_same hs, hr, hd ▸ hwt⟩

/-! ## Writes of cluster rows and deployments -/

variable (hr : (db.rollout id).isSome)

include hr

theorem ViewOf.agesTo_updateClusterRows {p f} (hf : ∀ rc, (f rc).rolloutID = rc.rolloutID) :
    DB.AgesTo view id db (db.updateClusterRows now p f) := by
  obtain ⟨r, hr⟩ := Option.isSome_iff_exists.mp hr
  have hrd := DB.id_of_rollout hr
  have hrw := @DB.rollout_updateClusterRows db id now p f
  rw [hr, Option.map_some] at hrw
  by_cases hn : db.rolloutClusters.countP (fun rc => p rc && rc.rolloutID == r.id) = 0
  · refine hv.agesTo_same ⟨?_, ?_, rfl, rfl, fun _ _ _ => rfl⟩
    · rw [hrw, hr, hn]
      simp [RolloutRow.frozen, RolloutRow.core]
    · -- no row of the rollout was written
      rw [countP_eq_zero] at hn
      simp only [DB.clustersOf, DB.updateClusterRows]
      rw [filter_updateWhere (fun rc => by simp [hf])]
      refine updateWhere_of_forall_not fun rc hrc => ?_
      rw [mem_filter] at hrc
      have := hn rc hrc.1
      simp only [hrd, hrc.2, Bool.and_true, Bool.not_eq_true] at this
      exact this
  · refine .inl ?_
    simp only [DB.generation, hrw, hr, Option.elim_some]
    omega

theorem ViewOf.agesTo_deployments {new : DeploymentRow}
    (hot : ∀ targetID clusterID, ¬ (targetID = new.targetID ∧ clusterID = new.clusterID) →
      ({ db with deployments } : DB).deployment targetID clusterID =
        db.deployment targetID clusterID)
    (hrp : Reported id watched old new) :
    DB.AgesTo view id db (({ db with deployments } : DB).bumpForDeployment old (some new)) := by
  by_cases hmem : id ∈ deploymentRollouts old (some new)
  · exact .inl (generation_lt_of_named hr hmem)
  · have hs : DB.AgesTo view id db { db with deployments } := by
      refine hv.agesTo_same ⟨rfl, rfl, rfl, rfl, fun t c hw => ?_⟩
      refine hot t c fun heq => hmem (hrp ?_)
      rw [← heq.1, ← heq.2]
      exact hw
    exact hs.trans hv.agesTo_bump

theorem ViewOf.agesTo_upsert (hnot : ¬ watched d.targetID d.clusterID)
    (h : upsertClusterDeploymentDesired db d newID = some (db', row)) :
    DB.AgesTo view id db db' := by
  have hk := DB.key_of_deployment (deployment_upsert h)
  have hot : ∀ t c, ¬ (t = row.targetID ∧ c = row.clusterID) →
      db'.deployment t c = db.deployment t c := fun t c hne =>
    deployment_upsert_of_ne (hk.1 ▸ hk.2 ▸ hne) h
  have hrp : ∀ old, Reported id watched old row := fun _ hw =>
    absurd (hk.1 ▸ hk.2 ▸ hw) hnot
  rcases upsertClusterDeploymentDesired_eq_some h with ⟨-, -, rfl, rfl⟩ | ⟨old, -, -, rfl, rfl⟩
  · exact hv.agesTo_deployments hr hot (hrp none)
  · exact hv.agesTo_deployments hr hot (hrp (some old))

theorem ViewOf.ages_applyRelease {w newID} {plan : FrozenRollout} {release : Release}
    (hnm : watched plan.targetID release.clusterID → plan.id = id ∨
      ∃ d, db.deployment plan.targetID release.clusterID = some d ∧ d.currentRolloutID = some id)
    (h : applyRelease w now plan newID db release = .ok db') :
    db.generation id < db'.generation id ∨ DB.AgesTo view id db db' ∧
      ∀ t c, watched t c → db'.deployment t c = db.deployment t c := by
  obtain ⟨_, planned, deployed, row, _, _, -, -, -, hup, -, hdb, -⟩ := applyRelease_eq_ok h
  have hr' : (deployed.rollout id).isSome := isSome_rollout_of_core
    (upsertClusterDeploymentDesired_frame (P := fun _ => True) hup).core hr
  have hrs : DB.AgesTo view id deployed db' := by
    rw [hdb]
    exact (hv.agesTo_updateClusterRows hr' (by intro; rfl)).trans hv.agesTo_createRolloutEvent
  by_cases hw : watched plan.targetID release.clusterID
  · refine .inl ((generation_lt_of_upsert hr ?_ hup).trans_le hrs.le)
    rcases hnm hw with rfl | ⟨d, hd, hid⟩
    · have hn : row.currentRolloutID = some plan.id := by
        rcases upsertClusterDeploymentDesired_eq_some hup with
          ⟨-, -, rfl, -⟩ | ⟨_, -, -, rfl, -⟩ <;>
          rfl
      simp [deploymentRollouts, hn]
    · have hold : db.deployment (release.desired plan planned).targetID
          (release.desired plan planned).clusterID = some d := hd
      simp [deploymentRollouts, hold, hid]
  · refine .inr ⟨(hv.agesTo_upsert hr hw hup).trans hrs, fun t c hwc => ?_⟩
    have hot : ¬ (t = plan.targetID ∧ c = release.clusterID) := by
      rintro ⟨rfl, rfl⟩
      exact hw hwc
    rw [hdb]
    have hs := deployment_upsert_of_ne hot hup
    exact hs

theorem ViewOf.agesTo_applyDecision {newID} {w : Work} (hnm : ∀ release ∈ w.decision.releases,
      watched w.claimed.frozenPlan.targetID release.clusterID → w.claimed.frozenPlan.id = id ∨
        ∃ d, db.deployment w.claimed.frozenPlan.targetID release.clusterID = some d ∧
          d.currentRolloutID = some id) (h : applyDecision w now newID db = .ok db') :
    DB.AgesTo view id db db' := by
  -- the releases go on until the first one that moves the generation; after it nothing matters
  let P : DB → Prop := fun s => (s.rollout id).isSome ∧
    (db.generation id < s.generation id ∨ DB.AgesTo view id db s ∧
      ∀ t c, watched t c → s.deployment t c = db.deployment t c)
  have hq : ∀ s s', (s'.rollout id).isSome → DB.AgesTo view id s s' →
      s'.deployments = s.deployments → P s → P s' := by
    rintro s s' hr' ha hsm ⟨-, hlt | ⟨hs, hk⟩⟩
    · exact ⟨hr', .inl (hlt.trans_le ha.le)⟩
    · refine ⟨hr', .inr ⟨hs.trans ha, fun t c hw => ?_⟩⟩
      rw [DB.deployment, hsm]
      exact hk t c hw
  have hdone : P db' := by
    refine applyDecision_keeps (P := P) (fun s s' t _ hi ho => ?_)
      (fun s s' release hmem hi ho => ?_) (fun s p f hf hi => ?_) (fun s e _ hi => ?_)
      ⟨hr, .inr ⟨.refl, fun _ _ _ => rfl⟩⟩ h
    · have hc := (applyClusterTransition_frame ho).core
      obtain ⟨_, _, _, -, -, rfl, -⟩ := applyClusterTransition_eq_ok ho
      exact hq s _ (isSome_rollout_of_core hc hi.1) ((hv.agesTo_updateClusterRows hi.1
        (by intro; rfl)).trans hv.agesTo_createRolloutEvent) rfl hi
    · refine ⟨isSome_rollout_of_core (applyRelease_frame hmem ho).core hi.1, ?_⟩
      rcases hi.2 with hlt | ⟨hs, hsm⟩
      · have hu : ViewOf id (fun _ _ => False) (fun _ => ()) := fun _ _ _ => rfl
        have hle : s.generation id ≤ s'.generation id :=
          (hu.ages_applyRelease hi.1 False.elim ho).elim le_of_lt fun h => h.1.le
        exact .inl (hlt.trans_le hle)
      · have hrl := hv.ages_applyRelease hi.1 (fun hw => by
          rw [hsm _ _ hw]
          exact hnm release hmem hw) ho
        rcases hrl with hlt | ⟨ha, hk⟩
        · exact .inl (hs.le.trans_lt hlt)
        · exact .inr ⟨hs.trans ha, fun t c hw => (hk t c hw).trans (hsm t c hw)⟩
    · have hwr : DB.Write s (s.updateRollouts p f) := .rollouts fun r => (hf r).1
      exact hq _ _ (hwr.isSome hi.1) (hv.agesTo_updateRollouts hf) rfl hi
    · exact hq _ _ hi.1 hv.agesTo_createRolloutEvent rfl hi
  exact hdone.2.elim .inl (·.1)

theorem ViewOf.agesTo_act {request} (h : act db clock request = .ok db') :
    DB.AgesTo view id db db' := by
  obtain ⟨_, _, -, -, -, -, rfl, -⟩ := act_eq_ok h
  have hrs : DB.AgesTo view id db
      (resetTables db clock.dbNow request.action request.rolloutID) := by
    simp only [resetTables]
    split
    · exact hv.agesTo_updateClusterRows hr (by intro; rfl)
    · exact .refl
  exact (hrs.trans (hv.agesTo_updateRollouts (by intro; exact ⟨rfl, rfl⟩))).trans
    hv.agesTo_createRolloutEvent

theorem ViewOf.agesTo_insertRollout {env other newID}
    (hi : insertRollout env db now newID other = .ok db') :
    DB.AgesTo view id db db' := by
  obtain ⟨-, hn, -, -, hrc⟩ := insertRollout_eq_ok hi
  obtain ⟨r, hr⟩ := Option.isSome_iff_exists.mp hr
  have hne : other.id ≠ id := fun heq => by
    rw [heq, hr] at hn
    cases hn
  obtain ⟨_, _, _, _, _, rfl⟩ := recompute_eq_some hrc
  refine Ages.trans ?_ (hv.agesTo_updateRollouts (by intro; exact ⟨rfl, rfl⟩))
  refine hv.agesTo_same ⟨?_, ?_, rfl, rfl, fun _ _ _ => rfl⟩
  · have hr' : db.rollouts.find? (·.id == id) = some r := hr
    have hrw : (db.rollouts ++ [other.toRow]).find? (·.id == id) = some r := by
      rw [find?_append, hr', Option.some_or]
    simp only [DB.rollout, hrw, hr']
  · simp only [DB.clustersOf, filter_append, filter_toRow_of_ne hne, append_nil]

theorem ViewOf.agesTo_writeDeploymentRow
    (hrp : watched row.targetID row.clusterID →
      id ∈ deploymentRollouts (db.deployment row.targetID row.clusterID) (some row)) :
    DB.AgesTo view id db (writeDeploymentRow db row) := by
  simp only [writeDeploymentRow]
  split
  next hn =>
    rw [hn] at hrp
    split
    · exact hv.agesTo_deployments hr (fun t c hne => deployment_append_of_ne hne) hrp
    · exact .refl
  next d hd =>
    rw [hd] at hrp
    split
    next hu =>
      obtain ⟨old, hold, -, rfl⟩ := DB.updateDeployment_eq_some.mp hu
      have hs : some old = some d := hold.symm.trans hd
      cases hs
      have hp : ∀ d : DeploymentRow, (d.targetID == row.targetID && d.clusterID == row.clusterID) =
          true → d.targetID = row.targetID ∧ d.clusterID = row.clusterID := by simp
      exact hv.agesTo_deployments hr (fun t c hne =>
        deployment_updateWhere_of_ne hp (fun _ _ => ⟨rfl, rfl⟩) hne) hrp
    · exact .refl

/-! ## Status reports -/

theorem ViewOf.agesTo_updateDeployment {key} (hwt : Watch id watched keys db.deployments)
    (hf : KeepsOwner f) (hk : key ∈ keys) (hp : ∀ d, p d → d.id = key)
    (h : db.updateDeployment p f = some (db', row)) :
    DB.AgesTo view id db db' := by
  obtain ⟨old, hold, -, rfl⟩ := DB.updateDeployment_eq_some.mp h
  have hmem := mem_of_find?_eq_some hold
  have hpl := find?_some hold
  by_cases hw : watched old.targetID old.clusterID
  · -- the row names the rollout before and after: the trigger fires
    refine .inl (generation_lt_of_named hr ?_)
    simp [deploymentRollouts, hf.rollout, hwt.owned old hmem (hp old hpl ▸ hk) hw]
  · -- no watched row has the key, so no watched row changes
    have hs : DB.AgesTo view id db
        { db with deployments := updateWhere p f db.deployments } := by
      refine hv.agesTo_same ⟨rfl, rfl, rfl, rfl, fun t c hwc => ?_⟩
      rw [deployment_updateWhere fun d => ⟨hf.target d, hf.cluster d⟩]
      cases hd : db.deployment t c with
      | none => rfl
      | some d =>
        obtain ⟨rfl, rfl⟩ := DB.key_of_deployment hd
        have hnot : p d = false := by
          by_contra hpd
          rw [Bool.not_eq_false] at hpd
          have heq := hwt.unique old hmem d (mem_of_find?_eq_some hd) hwc
            ((hp old hpl).trans (hp d hpd).symm)
          exact hw (heq ▸ hwc)
        simp [hnot]
    exact hs.trans hv.agesTo_bump

theorem ViewOf.follows_observed {u key} (hwt : Watch id watched keys db.deployments)
    (hk : key ∈ keys) (h : updateClusterDeploymentObservedCAS db key u = some (db', row)) :
    Follows view id watched keys db db' := by
  refine ⟨hv.agesTo_updateDeployment hr hwt (keepsOwner_observe u) hk (fun d hd => ?_) h,
    isSome_rollout_of_core (DB.Frame.of_updateDeployment (P := fun _ => True) h).core hr, ?_⟩
  · simp only [Bool.and_eq_true, beq_iff_eq] at hd
    exact hd.1.1.1
  · obtain ⟨_, -, -, rfl⟩ := DB.updateDeployment_eq_some.mp h
    exact hwt.updateWhere (keepsOwner_observe u)

theorem ViewOf.follows_advance {updated} (hwt : Watch id watched keys db.deployments) :
    Follows view id watched keys db (advanceFromStatus db clock updated) := by
  refine ⟨?_, isSome_rollout_of_core advanceFromStatus_frame.core hr, ?_⟩
  · rcases @advanceFromStatus_eq db clock updated with h | ⟨_, _, _, _, -, -, -, h, -⟩ <;> rw [h]
    · exact .refl
    · exact (hv.agesTo_updateClusterRows hr (by intro; rfl)).trans hv.agesTo_createRolloutEvent
  · rcases @advanceFromStatus_eq db clock updated with h | ⟨_, _, _, _, -, -, -, h, -⟩ <;> rw [h]
    · exact hwt
    · exact hwt

theorem ViewOf.follows_ingest {senv session} {payload : DeliveryStatus}
    (hwt : Watch id watched (payload.deployments.map (·.deploymentID)) db.deployments)
    (h : ingest senv db clock session payload = .ok db') :
    Follows view id watched (payload.deployments.map (·.deploymentID)) db db' :=
  ingest_keeps (P := Follows view id watched (payload.deployments.map (·.deploymentID)) db)
    (fun _ _ hdb => hdb.trans
      (hv.follows_same ⟨rfl, rfl, rfl, rfl, fun _ _ _ => rfl⟩ rfl hdb.row hdb.watch))
    (fun _ _ hdb => hdb.trans
      (hv.follows_same ⟨rfl, rfl, rfl, rfl, fun _ _ _ => rfl⟩ rfl hdb.row hdb.watch))
    (fun _ _ _ _ _ hd hdb hu => hdb.trans
      (hv.follows_observed hdb.row hdb.watch (mem_map_of_mem hd) hu))
    (fun _ _ hdb => hdb.trans (hv.follows_advance hdb.row hdb.watch)) ⟨.refl, hr, hwt⟩ h

end

end Ages

/-! ## Cluster rows -/

section ClusterRows

variable {env : Env} {senv : StatusEnv} {w : World} {e : Event} {db db' : DB} {id : UUID}

def Reflects (rcs : List RolloutClusterRow) (rows : List RuntimeRow) : Prop :=
  ∀ row ∈ rows, row.row ∈ rcs

theorem clustersOf_viewOf : ViewOf id (fun _ _ => False) (DB.clustersOf · id) :=
  fun _ _ h => h.clusterRows

theorem reflects_runtimeRows : Reflects (db.clustersOf id) (db.runtimeRows id) := by
  intro row hr
  obtain ⟨_, -, -, hmem⟩ := mem_listDeliveryRolloutRuntime hr
  exact hmem

theorem agesTo_bumpForCluster {clusters connections clusterID} :
    DB.AgesTo (DB.clustersOf · id) id db
      (({ db with clusters, connections } : DB).bumpForCluster clusterID) := by
  have hs : DB.AgesTo (DB.clustersOf · id) id db { db with clusters, connections } :=
    .inr ⟨rfl, rfl⟩
  exact hs.trans clustersOf_viewOf.agesTo_bump

theorem World.Commits.agesTo_clustersOf (hc : w.Commits env senv e db')
    (hr : (w.db.rollout id).isSome) : DB.AgesTo (DB.clustersOf · id) id w.db db' := by
  cases hc with
  | create hi => exact clustersOf_viewOf.agesTo_insertRollout hr hi
  | writeDeployment => exact clustersOf_viewOf.agesTo_writeDeploymentRow hr False.elim
  | claim hcm => exact clustersOf_viewOf.agesTo_claim hcm
  | apply _ ha => exact clustersOf_viewOf.agesTo_applyDecision hr (fun _ _ => False.elim) ha
  | act hac => exact clustersOf_viewOf.agesTo_act hr hac
  | approve har => exact clustersOf_viewOf.agesTo_approve har
  | ingest hig =>
    exact (clustersOf_viewOf.follows_ingest hr
      ⟨fun _ _ _ hw => hw.elim, fun _ _ _ _ hw => hw.elim⟩ hig).ages
  | connection =>
    simp only [writeConnection]
    split <;> exact agesTo_bumpForCluster
  | dropConnection =>
    simp only [Delivery.dropConnection]
    split
    · exact .refl
    · exact agesTo_bumpForCluster
  | labels =>
    simp only [writeLabels]
    split
    · exact .refl
    · split
      · exact .refl
      · exact agesTo_bumpForCluster

theorem World.agesTo_clustersOf_step (hr : (w.db.rollout id).isSome) :
    DB.AgesTo (DB.clustersOf · id) id w.db (w.step env senv e).db :=
  World.step_db_induct (P := DB.AgesTo (DB.clustersOf · id) id w.db) .refl
    fun _ hc => hc.agesTo_clustersOf hr

end ClusterRows

end Astronomer.Delivery
