import Astronomer.Agent.Ownership

/-!
# What one call of `processSnapshot` can do

One inversion for each loop body and one for the whole call. Everything proved about
histories of the agent is read off these.
-/

namespace Astronomer.Agent

open Effect
open Delivery (Time)

variable {cfg : Config} {now : Time} {a : Assignment} {m : Materialization} {t : Deletion}
  {s : Snapshot} {capabilities : Capabilities} {r r' : Runtime}

/-! ## The loop bodies -/

structure SameBooks (r r' : Runtime) : Prop where
  checkpoint : r'.checkpoint = r.checkpoint
  stored : r'.stored = r.stored
  saves : r'.saves = r.saves

def Runtime.accept (r : Runtime) (a : Assignment) (m : Materialization) (k : Kube) : Runtime :=
  { r with
    kube := k
    checkpoint := r.checkpoint.insert (acceptAssignment a m)
    transient := r.transient.filter (·.deploymentID ≠ a.deploymentID) }

inductive AssignmentOutcome (cfg : Config) (a : Assignment) (m : Materialization) (r : Runtime) :
    Except Err Bool → Runtime → Prop
  | regressed (hregresses : (r.checkpoint.accepted a.deploymentID).any (regresses a)) :
      AssignmentOutcome cfg a m r (.error ("assignment \"" ++ a.deploymentID ++
        "\" regresses or changes an accepted generation")) r
  | failed {r' : Runtime}
      (hadvances : (r.checkpoint.accepted a.deploymentID).any (regresses a) = false)
      (hbooks : SameBooks r r') : AssignmentOutcome cfg a m r (.ok false) r'
  | accepted {k1 k2 k3 : Kube} {xs : List Object} {stale : List ObjectIdentity}
      (hadvances : (r.checkpoint.accepted a.deploymentID).any (regresses a) = false)
      (happly : apply cfg.cluster m r.kube = (.ok (), k1))
      (hlist : existing cfg.cluster a m k1 = (.ok xs, k2))
      (hplan : planPrune a m xs = .ok stale)
      (hprune : prune cfg.cluster stale k2 = (.ok (), k3)) :
      AssignmentOutcome cfg a m r (.ok true) (r.accept a m k3)

theorem onKube_apply {α : Type} {call : Effect Kube Err α} {x : Except Err α} {k : Kube}
    (h : call r.kube = (x, k)) : onKube call r = (.ok x, { r with kube := k }) := by
  simp only [onKube, attempt, h]

theorem processAssignment_outcome : AssignmentOutcome cfg a m r (processAssignment cfg now a m r).1
      (processAssignment cfg now a m r).2 := by
  unfold processAssignment
  rw [bind_get]
  cases hr : (r.checkpoint.accepted a.deploymentID).any (regresses a) with
  | true => exact .regressed hr
  | false =>
    rw [Bool.not_false, bind_require rfl]
    rcases ha : apply cfg.cluster m r.kube with ⟨_ | _, k1⟩
    · rw [bind_apply_ok (onKube_apply ha)]
      exact .failed hr ⟨rfl, rfl, rfl⟩
    rw [bind_apply_ok (onKube_apply ha)]
    dsimp only
    rcases hl : existing cfg.cluster a m k1 with ⟨_ | xs, k2⟩
    · rw [bind_apply_ok (onKube_apply hl)]
      exact .failed hr ⟨rfl, rfl, rfl⟩
    rw [bind_apply_ok (onKube_apply hl)]
    dsimp only
    cases hp : planPrune a m xs with
    | error err => exact .failed hr ⟨rfl, rfl, rfl⟩
    | ok stale =>
      rcases hpr : prune cfg.cluster stale k2 with ⟨_ | _, k3⟩
      · dsimp only
        rw [bind_apply_ok (onKube_apply hpr)]
        exact .failed hr ⟨rfl, rfl, rfl⟩
      · dsimp only
        rw [bind_apply_ok (onKube_apply hpr)]
        exact .accepted hr ha hl hp hpr

theorem AssignmentOutcome.of_eq {y} (h : processAssignment cfg now a m r = (y, r')) :
    AssignmentOutcome cfg a m r y r' := by
  have ho : AssignmentOutcome cfg a m r (processAssignment cfg now a m r).1
    (processAssignment cfg now a m r).2 := processAssignment_outcome
  rwa [h] at ho

def Runtime.forget (r : Runtime) (t : Deletion) (k : Kube) (now : Time) : Runtime :=
  { r with kube := k, checkpoint := r.checkpoint.erase t.deploymentID }.setStatus
    (tombstoneStatus t "removed" now)

inductive DeletionOutcome (cfg : Config) (now : Time) (t : Deletion) (r : Runtime) :
    Bool → Runtime → Prop
  | absent (hnone : r.checkpoint.accepted t.deploymentID = none) :
      DeletionOutcome cfg now t r true (r.setStatus (tombstoneStatus t "removed" now))
  | failed {accepted : AcceptedAssignment} {err : Err} {k : Kube}
      (hsome : r.checkpoint.accepted t.deploymentID = some accepted)
      (hcall : beginDeletion cfg.cluster accepted.boundary t accepted.materialization
        accepted.objects r.kube = (.error err, k)) :
      DeletionOutcome cfg now t r false
        ({ r with kube := k }.setStatus (tombstoneStatus t "failed" now))
  | pending {accepted : AcceptedAssignment} {k : Kube}
      (hsome : r.checkpoint.accepted t.deploymentID = some accepted)
      (hcall : beginDeletion cfg.cluster accepted.boundary t accepted.materialization
        accepted.objects r.kube = (.ok false, k)) :
      DeletionOutcome cfg now t r false
        ({ r with kube := k }.setStatus (tombstoneStatus t "deleting" now))
  | removed {accepted : AcceptedAssignment} {k : Kube}
      (hsome : r.checkpoint.accepted t.deploymentID = some accepted)
      (hcall : beginDeletion cfg.cluster accepted.boundary t accepted.materialization
        accepted.objects r.kube = (.ok true, k)) :
      DeletionOutcome cfg now t r true (r.forget t k now)

theorem processDeletion_outcome (cfg : Config) (now : Time) (t : Deletion) (r : Runtime) :
    ∃ done r', processDeletion cfg now t r = (.ok done, r') ∧
      DeletionOutcome cfg now t r done r' := by
  unfold processDeletion
  rw [bind_get]
  cases hs : r.checkpoint.accepted t.deploymentID with
  | none => exact ⟨_, _, rfl, .absent hs⟩
  | some accepted =>
    dsimp only
    rcases hc : beginDeletion cfg.cluster accepted.boundary t accepted.materialization
      accepted.objects r.kube with ⟨_ | _ | _, k⟩
    · rw [bind_apply_ok (onKube_apply hc)]
      exact ⟨_, _, rfl, .failed hs hc⟩
    · rw [bind_apply_ok (onKube_apply hc)]
      exact ⟨_, _, rfl, .pending hs hc⟩
    · rw [bind_apply_ok (onKube_apply hc)]
      exact ⟨_, _, rfl, .removed hs hc⟩

theorem DeletionOutcome.of_eq {done} (h : processDeletion cfg now t r = (.ok done, r')) :
    DeletionOutcome cfg now t r done r' := by
  obtain ⟨done', r'', hr, ho⟩ := processDeletion_outcome cfg now t r
  rw [h] at hr
  cases hr
  exact ho

theorem DeletionOutcome.kube {R : Kube → Kube → Prop} {done : Bool} (hrf : ∀ k, R k k)
    (hc : ∀ x : AcceptedAssignment, r.checkpoint.accepted t.deploymentID = some x →
      R r.kube (beginDeletion cfg.cluster x.boundary t x.materialization x.objects r.kube).2)
    (h : DeletionOutcome cfg now t r done r') : R r.kube r'.kube := by
  have hm : ∀ {x : AcceptedAssignment} {y k}, r.checkpoint.accepted t.deploymentID = some x →
      beginDeletion cfg.cluster x.boundary t x.materialization x.objects r.kube = (y, k) →
      R r.kube k := by
    intro x y k hx hr
    have hR := hc x hx
    rwa [hr] at hR
  cases h with
  | absent _ => exact hrf _
  | failed hx hr | pending hx hr | removed hx hr => exact hm hx hr

theorem processDeletions_ok (cfg : Config) (now : Time) (deletions : List Deletion) (r : Runtime) :
    ∃ done r', processDeletions cfg now deletions r = (.ok done, r') := by
  induction deletions generalizing r with
  | nil => exact ⟨_, _, rfl⟩
  | cons t deletions ih =>
    obtain ⟨done, r1, ho, -⟩ := processDeletion_outcome cfg now t r
    obtain ⟨restDone, r2, hrest⟩ := ih r1
    refine ⟨done && restDone, r2, ?_⟩
    rw [processDeletions, bind_apply_ok ho, bind_apply_ok hrest]
    rfl

/-! ## The whole call -/

/-- The snapshot gets as far as the loops: it is valid, neither stale nor conflicting,
not an answer that nothing changed, and the object graphs and the system release are
in order. -/
structure Reaches (cfg : Config) (capabilities : Capabilities) (s : Snapshot)
    (pairs : List (Assignment × Materialization)) (r : Runtime) : Prop where
  valid : validateSnapshot cfg.parsers capabilities cfg.policy s = .ok ()
  current : r.checkpoint.refuses s = false
  modified : s.notModified = false
  graphs : materializations cfg capabilities s = .ok pairs
  system : reconcileSystem cfg s.system = .ok ()

theorem processSnapshotBody_cases (cfg : Config) (now : Time) (s : Snapshot)
    (capabilities : Capabilities) (r : Runtime) :
    (∃ y, processSnapshotBody cfg now s capabilities r = (y, r) ∧
        (y = .ok () → s.notModified ∧
          validateSnapshot cfg.parsers capabilities cfg.policy s = .ok ())) ∨
      ∃ pairs, Reaches cfg capabilities s pairs r := by
  unfold processSnapshotBody
  cases hv : validateSnapshot cfg.parsers capabilities cfg.policy s with
  | error err => exact .inl ⟨_, rfl, nofun⟩
  | ok u =>
    rw [bind_ofExcept (wrap_eq_ok.mpr rfl), bind_get]
    cases hc : r.checkpoint.refuses s with
    | true => exact .inl ⟨_, rfl, nofun⟩
    | false =>
      rw [Bool.not_false, bind_require rfl]
      cases hm : s.notModified with
      | true => exact .inl ⟨_, rfl, fun _ => ⟨rfl, rfl⟩⟩
      | false =>
        simp only [Bool.false_eq_true, if_false]
        cases hg : materializations cfg capabilities s with
        | error err => exact .inl ⟨_, rfl, nofun⟩
        | ok pairs =>
          rw [bind_ofExcept rfl]
          cases hs : reconcileSystem cfg s.system with
          | error err => exact .inl ⟨_, rfl, nofun⟩
          | ok u' => exact .inr ⟨pairs, hv, hc, hm, hg, hs⟩

theorem processSnapshotBody_of_ok (h : (processSnapshot cfg now s capabilities r).1 = .ok ()) :
    (processSnapshotBody cfg now s capabilities r).1 = .ok () := by
  rcases hr : processSnapshotBody cfg now s capabilities r with ⟨_ | _, r'⟩
  · simp only [processSnapshot, hr, joinErrors] at h
    split at h <;> cases h
  · rfl

variable {pairs : List (Assignment × Materialization)}

theorem Reaches.body (h : Reaches cfg capabilities s pairs r) :
    processSnapshotBody cfg now s capabilities r =
      (reconcileSnapshot cfg now pairs s.deletions >>= finishSnapshot s) r := by
  unfold processSnapshotBody
  rw [bind_ofExcept (wrap_eq_ok.mpr h.valid), bind_get, h.current, Bool.not_false,
    bind_require rfl, h.modified]
  simp only [Bool.false_eq_true, if_false]
  rw [h.graphs, bind_ofExcept rfl, h.system, bind_ofExcept rfl]

theorem Reaches.stopped {err} (h : Reaches cfg capabilities s pairs r)
    (hl : processAssignments cfg now pairs r = (.error err, r')) :
    processSnapshotBody cfg now s capabilities r = (.error err, r') := by
  rw [h.body, reconcileSnapshot, bind_apply_error (bind_apply_error hl)]

theorem Reaches.finished {applied deleted r1 r2} (h : Reaches cfg capabilities s pairs r)
    (hap : processAssignments cfg now pairs r = (.ok applied, r1))
    (hd : processDeletions cfg now s.deletions r1 = (.ok deleted, r2)) :
    processSnapshotBody cfg now s capabilities r = finishSnapshot s (applied && deleted) r2 := by
  have hl : reconcileSnapshot cfg now pairs s.deletions r = (.ok (applied && deleted), r2) := by
    rw [reconcileSnapshot, bind_apply_ok hap, bind_apply_ok hd]
    rfl
  rw [h.body, bind_apply_ok hl]

theorem processSnapshotBody_moves {R : Runtime → Runtime → Prop} [IsPreorder Runtime R]
    (ha : ∀ a ∈ s.assignments, ∀ m, buildAssignment cfg.parsers capabilities cfg.policy a =
      .ok m → Moves R (processAssignment cfg now a m))
    (hd : ∀ t ∈ s.deletions, Moves R (processDeletion cfg now t))
    (hf : ∀ complete, Moves R (finishSnapshot s complete)) :
    Moves R (processSnapshotBody cfg now s capabilities) := by
  intro r
  obtain ⟨y, hs, -⟩ | ⟨pairs, hrc⟩ := processSnapshotBody_cases cfg now s capabilities r
  · rw [hs]
    exact refl r
  obtain ⟨hfs, hb⟩ := materializations_eq_ok hrc.graphs
  rw [hrc.body]
  refine Moves.bind (Moves.bind ?_ fun _ => ?_) hf r
  · exact processAssignments_moves fun q hq => ha q.1 (hfs ▸ List.mem_map_of_mem hq) q.2 (hb q hq)
  · exact Moves.bind (processDeletions_moves hd) fun _ => Moves.pure

theorem processSnapshot_owned (how : Owned cfg.cluster r.kube.objects) :
    Owned cfg.cluster (processSnapshot cfg now s capabilities r).2.kube.objects := by
  refine processSnapshotBody_moves
    (R := Order.Preimage Runtime.kube (Keeps fun k => Owned cfg.cluster k.objects))
    (fun a _ m hb r how => ?_) (fun t _ r how => ?_) (fun _ => finishSnapshot_moves) r how
  · exact how.of_writes (processAssignment_writes (objects_for hb) r)
  · exact how.of_writes (processDeletion_writes r)

/-! ## The save -/

def Runtime.dropUndesired (r : Runtime) (s : Snapshot) : Runtime :=
  { r with
    transient := r.transient.filter fun t =>
      (s.assignments.map (·.deploymentID) ++ s.deletions.map (·.deploymentID)).contains
        t.deploymentID }

/-- The header and the assignments go to the store first, and to memory only when the
store has taken them. -/
inductive FinishOutcome (s : Snapshot) (complete : Bool) (r : Runtime) :
    Except Err Unit → Runtime → Prop
  | saved {x : Except Err Unit} {r' : Runtime} (hx : x = .ok () ↔ complete)
      (hsave : save (r.checkpoint.candidate complete s) (r.dropUndesired s) = (.ok (), r')) :
      FinishOutcome s complete r x { r' with checkpoint := r.checkpoint.candidate complete s }
  | unsaved {err : Err} {r' : Runtime}
      (hsave : save (r.checkpoint.candidate complete s) (r.dropUndesired s) = (.error err, r')) :
      FinishOutcome s complete r (.error err) r'

theorem checkpoint_of_save {c y} (h : save c r = (y, r')) : r'.checkpoint = r.checkpoint := by
  obtain rfl : (save c r).2 = r' := congrArg Prod.snd h
  unfold save
  split
  · rfl
  · split <;> rfl

theorem save_eq_ok {c u} (h : save c r = (.ok u, r')) :
    validateCheckpoint c = .ok () ∧ r'.stored = c := by
  unfold save at h
  split at h
  · cases h
  · refine ⟨‹_›, ?_⟩
    split at h
    · obtain ⟨-, rfl⟩ := Prod.mk.inj h
      rfl
    · cases h
    · cases h

theorem finishSnapshot_eq {complete} : finishSnapshot s complete r = (do
      save (r.checkpoint.candidate complete s)
      modify fun r => { r with checkpoint := r.checkpoint.candidate complete s }
      Effect.require complete "delivery snapshot remains in progress") (r.dropUndesired s) := rfl

theorem finishSnapshot_outcome (s : Snapshot) (complete : Bool) (r : Runtime) :
    FinishOutcome s complete r (finishSnapshot s complete r).1 (finishSnapshot s complete r).2 := by
  rw [finishSnapshot_eq]
  rcases hs : save (r.checkpoint.candidate complete s) (r.dropUndesired s) with ⟨err | u, r1⟩
  · rw [bind_apply_error hs]
    exact .unsaved hs
  · have hk : r1.checkpoint = r.checkpoint := (checkpoint_of_save hs).trans rfl
    rw [bind_apply_ok hs]
    cases complete with
    | true =>
      have ho : FinishOutcome s true r (.ok ()) _ := .saved (by simp) hs
      rw [← hk] at ho
      exact ho
    | false =>
      have ho : FinishOutcome s false r (.error "delivery snapshot remains in progress") _ :=
        .saved (by simp) hs
      rw [← hk] at ho
      exact ho

end Astronomer.Agent
