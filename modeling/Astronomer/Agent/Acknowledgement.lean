import Astronomer.Agent.Leftovers

/-!
# What the agent acknowledges

The checkpoint's header tells the server how far the agent has come. Over any sequence of
snapshots, with any calls failing, it only goes forward, names one content for each
generation, and is set by a call that brought the whole snapshot to its end.
-/

namespace Astronomer.Agent

open List

variable {y : Except Err Unit}

open Effect
open Delivery (Time)

section

variable {cfg : Config} {now : Time} {a : Assignment} {m : Materialization} {t : Deletion}
  {s : Snapshot} {capabilities : Capabilities} {r r' : Runtime} {c c' : Checkpoint} {d : String}
  {x : AcceptedAssignment}

/-! ## The checkpoint -/

def Checkpoint.header (c : Checkpoint) : Int × String × Int :=
  (c.snapshotGeneration, c.snapshotETag, c.credentialEpoch)

theorem Checkpoint.accepted_insert_self : (c.insert x).accepted x.deploymentID = some x := by
  have ho : (c.assignments.filter (·.deploymentID ≠ x.deploymentID)).find?
      (·.deploymentID = x.deploymentID) = none := by
    rw [find?_eq_none]
    intro y hy
    simpa using (mem_filter.mp hy).2
  rw [accepted, insert, find?_append, ho]
  simp

theorem Checkpoint.accepted_insert_of_ne (h : d ≠ x.deploymentID) :
    (c.insert x).accepted d = c.accepted d := by
  have hf : (c.assignments.filter (·.deploymentID ≠ x.deploymentID)).find?
      (·.deploymentID = d) = c.assignments.find? (·.deploymentID = d) := by
    rw [find?_filter]
    congr 1
    funext y
    by_cases hy : y.deploymentID = d <;> simp [hy, h]
  have hl : [x].find? (·.deploymentID = d) = none := by simp [Ne.symm h]
  simp only [accepted, insert, find?_append, hf, hl, Option.or_none]

theorem Checkpoint.accepted_erase_self : (c.erase d).accepted d = none := by
  simp [accepted, erase, find?_eq_none]

theorem Checkpoint.accepted_erase_of_ne {d'} (h : d' ≠ d) :
    (c.erase d).accepted d' = c.accepted d' := by
  simp only [accepted, erase, find?_filter]
  congr 1
  funext y
  by_cases hy : y.deploymentID = d' <;> simp [hy, h]

/-- Everything accepted stays, at the same or a newer generation; the acknowledgement
and the store wait. -/
structure Advances (r r' : Runtime) : Prop where
  header : r'.checkpoint.header = r.checkpoint.header
  stored : r'.stored = r.stored
  accepted : ∀ d x, r.checkpoint.accepted d = some x →
    ∃ x', r'.checkpoint.accepted d = some x' ∧ x.generation ≤ x'.generation

instance : IsPreorder Runtime Advances where
  refl _ := ⟨rfl, rfl, fun _ x h => ⟨x, h, le_refl _⟩⟩
  trans _ _ _ h h' := by
    refine ⟨h'.header.trans h.header, h'.stored.trans h.stored, fun d x hx => ?_⟩
    obtain ⟨x1, hx1, hle⟩ := h.accepted d x hx
    obtain ⟨x2, hx2, hle'⟩ := h'.accepted d x1 hx1
    exact ⟨x2, hx2, hle.trans hle'⟩

structure Forgets (r r' : Runtime) : Prop where
  header : r'.checkpoint.header = r.checkpoint.header
  stored : r'.stored = r.stored
  accepted : ∀ d x, r'.checkpoint.accepted d = some x → r.checkpoint.accepted d = some x

instance : IsPreorder Runtime Forgets where
  refl _ := ⟨rfl, rfl, fun _ _ h => h⟩
  trans _ _ _ h h' := ⟨h'.header.trans h.header, h'.stored.trans h.stored,
    fun d x hx => h.accepted d x (h'.accepted d x hx)⟩

theorem SameBooks.advances (h : SameBooks r r') : Advances r r' :=
  ⟨by rw [h.checkpoint], h.stored, fun _ x hx => ⟨x, h.checkpoint ▸ hx, le_refl _⟩⟩

theorem AssignmentOutcome.advances {y} (h : AssignmentOutcome cfg a m r y r') :
    Advances r r' := by
  cases h with
  | regressed _ => exact refl r
  | failed _ hbo => exact hbo.advances
  | accepted ha =>
    refine ⟨rfl, rfl, fun d x hx => ?_⟩
    by_cases hd : d = a.deploymentID
    · subst hd
      rw [hx, Option.any_some] at ha
      simp only [regresses, Bool.or_eq_false_iff, decide_eq_false_iff_not, not_lt] at ha
      exact ⟨acceptAssignment a m, Checkpoint.accepted_insert_self, ha.1⟩
    · exact ⟨x, (Checkpoint.accepted_insert_of_ne hd).trans hx, le_refl _⟩

theorem DeletionOutcome.forgets {done} (h : DeletionOutcome cfg now t r done r') :
    Forgets r r' := by
  cases h with
  | absent | failed | pending => exact ⟨rfl, rfl, fun _ _ h => h⟩
  | removed _ _ =>
    refine ⟨rfl, rfl, fun d x hx => ?_⟩
    have hx : (r.checkpoint.erase t.deploymentID).accepted d = some x := hx
    by_cases hd : d = t.deploymentID
    · rw [hd, Checkpoint.accepted_erase_self] at hx
      cases hx
    · rwa [Checkpoint.accepted_erase_of_ne hd] at hx

theorem processDeletions_forgets {deletions} :
    Moves Forgets (processDeletions cfg now deletions) := by
  refine processDeletions_moves fun t _ r => ?_
  obtain ⟨done, r', hr, ho⟩ := processDeletion_outcome cfg now t r
  rw [hr]
  exact ho.forgets

/-! ## A complete call -/

inductive AllAccepted (cfg : Config) :
    List (Assignment × Materialization) → Runtime → Runtime → Prop
  | nil {r : Runtime} : AllAccepted cfg [] r r
  | cons {a : Assignment} {m : Materialization} {rest : List (Assignment × Materialization)}
      {r r' : Runtime} {k1 k2 k3 : Kube} {xs : List Object} {stale : List ObjectIdentity}
      (happly : apply cfg.cluster m r.kube = (.ok (), k1))
      (hlist : existing cfg.cluster a m k1 = (.ok xs, k2))
      (hplan : planPrune a m xs = .ok stale)
      (hprune : prune cfg.cluster stale k2 = (.ok (), k3))
      (hrest : AllAccepted cfg rest (r.accept a m k3) r') :
      AllAccepted cfg ((a, m) :: rest) r r'

inductive AllRemoved (cfg : Config) (now : Time) : List Deletion → Runtime → Runtime → Prop
  | nil {r : Runtime} : AllRemoved cfg now [] r r
  | absent {t : Deletion} {rest : List Deletion} {r r' : Runtime}
      (hnone : r.checkpoint.accepted t.deploymentID = none)
      (hrest : AllRemoved cfg now rest (r.setStatus (tombstoneStatus t "removed" now)) r') :
      AllRemoved cfg now (t :: rest) r r'
  | removed {t : Deletion} {rest : List Deletion} {r r' : Runtime} {x : AcceptedAssignment}
      {k : Kube} (hsome : r.checkpoint.accepted t.deploymentID = some x)
      (hcall : beginDeletion cfg.cluster x.boundary t x.materialization x.objects r.kube =
        (.ok true, k))
      (hrest : AllRemoved cfg now rest (r.forget t k now) r') :
      AllRemoved cfg now (t :: rest) r r'

inductive Completed (cfg : Config) (now : Time) (s : Snapshot) (capabilities : Capabilities)
    (r r' : Runtime) : Prop
  | intro {pairs : List (Assignment × Materialization)} {r1 r2 r3 : Runtime}
      (hgraphs : materializations cfg capabilities s = .ok pairs)
      (hassignments : AllAccepted cfg pairs r r1)
      (hdeletions : AllRemoved cfg now s.deletions r1 r2)
      (hsave : save (r2.checkpoint.candidate true s) (r2.dropUndesired s) = (.ok (), r3))
      (hstored : r'.stored = r2.checkpoint.candidate true s)
      (hmemory : r'.checkpoint = r2.checkpoint.candidate true s) :
      Completed cfg now s capabilities r r'

theorem processAssignments_eq_true {pairs} (h : processAssignments cfg now pairs r = (.ok true, r'))
    : AllAccepted cfg pairs r r' := by
  induction pairs generalizing r with
  | nil =>
    obtain ⟨-, rfl⟩ := pure_ok.mp h
    exact .nil
  | cons q pairs ih =>
    obtain ⟨a, m⟩ := q
    obtain ⟨r1, ho, hrest⟩ := bind_and_ok h
    cases AssignmentOutcome.of_eq ho with
    | accepted _ ha hl hp hpr => exact .cons ha hl hp hpr (ih hrest)

theorem processDeletions_eq_true {deletions}
    (h : processDeletions cfg now deletions r = (.ok true, r')) :
    AllRemoved cfg now deletions r r' := by
  induction deletions generalizing r with
  | nil =>
    obtain ⟨-, rfl⟩ := pure_ok.mp h
    exact .nil
  | cons t deletions ih =>
    obtain ⟨r1, ho, hrest⟩ := bind_and_ok h
    cases DeletionOutcome.of_eq ho with
    | absent hn => exact .absent hn (ih hrest)
    | removed hs hc => exact .removed hs hc (ih hrest)

/-! ## One call -/

/-- What one call can do to the header in memory: leave it, or set it to the snapshot's
at the end of a complete call. -/
inductive Acknowledges (cfg : Config) (now : Time) (s : Snapshot) (capabilities : Capabilities)
    (r : Runtime) (y : Except Err Unit) (r' : Runtime) : Prop
  | waits (hheader : r'.checkpoint.header = r.checkpoint.header)
      (hmodified : y = .ok () → s.notModified)
  | sets (hvalid : s.validate cfg.parsers = .ok ()) (hcurrent : r.checkpoint.refuses s = false)
      (hcomplete : Completed cfg now s capabilities r r')

theorem Checkpoint.accepted_candidate {complete} :
    (c.candidate complete s).accepted d = c.accepted d := by
  cases complete <;> rfl

def KeepsAccepted (c c' : Checkpoint) : Prop :=
  ∀ d x x', c.accepted d = some x → c'.accepted d = some x' → x.generation ≤ x'.generation

theorem KeepsAccepted.refl (c : Checkpoint) : KeepsAccepted c c := by
  intro d x x' hx hx'
  rw [hx] at hx'
  cases hx'
  exact le_refl _

theorem Advances.keepsAccepted (h : Advances r r') :
    KeepsAccepted r.checkpoint r'.checkpoint := by
  intro d x x' hx hx'
  obtain ⟨x1, hx1, hle⟩ := h.accepted d x hx
  rw [hx1] at hx'
  cases hx'
  exact hle

theorem Advances.forgets {r1} (h : Advances r r1) (h' : Forgets r1 r') :
    KeepsAccepted r.checkpoint r'.checkpoint := by
  intro d x x' hx hx'
  exact h.keepsAccepted d x x' hx (h'.accepted d x' hx')

theorem FinishOutcome.keepsAccepted {complete} {r2 : Runtime} (h : FinishOutcome s complete r2 y r')
    (hk : KeepsAccepted c r2.checkpoint) :
    KeepsAccepted c r'.checkpoint := by
  cases h with
  | saved _ _ =>
    intro d x x' hx hx'
    exact hk d x x' hx (Checkpoint.accepted_candidate ▸ hx')
  | unsaved hs =>
    rw [checkpoint_of_save hs]
    exact hk

theorem processSnapshotBody_acknowledges
    (hr : processSnapshotBody cfg now s capabilities r = (y, r')) :
    KeepsAccepted r.checkpoint r'.checkpoint ∧ Acknowledges cfg now s capabilities r y r' := by
  obtain ⟨y', hs, hm⟩ | ⟨pairs, hrc⟩ := processSnapshotBody_cases cfg now s capabilities r
  · rw [hs] at hr
    cases hr
    exact ⟨KeepsAccepted.refl _, .waits rfl fun hok => (hm hok).1⟩
  have hm : Moves Advances (processAssignments cfg now pairs) :=
    processAssignments_moves fun _ _ _ => processAssignment_outcome.advances
  rcases hap : processAssignments cfg now pairs r with ⟨err | applied, r1⟩
  · rw [hrc.stopped hap] at hr
    cases hr
    exact ⟨(hm.of_eq hap).keepsAccepted, .waits (hm.of_eq hap).header nofun⟩
  have ha := hm.of_eq hap
  obtain ⟨deleted, r2, hd⟩ := processDeletions_ok cfg now s.deletions r1
  have hfr := processDeletions_forgets.of_eq hd
  have hf := finishSnapshot_outcome s (applied && deleted) r2
  rw [← hrc.finished hap hd, hr] at hf
  refine ⟨hf.keepsAccepted (ha.forgets hfr), ?_⟩
  have hh : r2.checkpoint.header = r.checkpoint.header := hfr.header.trans ha.header
  cases hf with
  | unsaved hsv =>
    refine .waits ?_ nofun
    rw [checkpoint_of_save hsv]
    exact hh
  | saved hy hsv =>
    cases hc : applied && deleted with
    | false =>
      rw [hc] at hy
      refine .waits ?_ fun hok => absurd (hy.mp hok) (by decide)
      exact hh
    | true =>
      obtain ⟨rfl, rfl⟩ := Bool.and_eq_true_iff.mp hc
      exact .sets (validate_of_validateSnapshot hrc.valid) hrc.current
        (.intro hrc.graphs (processAssignments_eq_true hap)
          (processDeletions_eq_true hd) hsv (save_eq_ok hsv).2 rfl)

/-! ## Runs -/

def Checkpoint.HeaderValid (c : Checkpoint) : Prop :=
  c.snapshotETag = "" → c.snapshotGeneration = 0

theorem headerValid_of_validate (h : validateCheckpoint c = .ok ()) : c.HeaderValid := by
  simp only [validateCheckpoint, bind_eq_ok, require_eq_ok, Bool.and_eq_true, Bool.or_eq_true,
    decide_eq_true_eq] at h
  obtain ⟨_, ⟨⟨⟨hg, -⟩, -⟩, hdg⟩, -⟩ := h
  intro het
  rcases hdg with hle | hdg
  · exact le_antisymm hle hg
  · rw [het] at hdg
    exact absurd hdg (by decide)

theorem Snapshot.generation_of_validate {p} (h : s.validate p = .ok ()) :
    1 ≤ s.snapshotGeneration := by
  simp only [Snapshot.validate, bind_eq_ok, require_eq_ok, Bool.and_eq_true, decide_eq_true_eq] at h
  obtain ⟨_, -, _, hg, -⟩ := h
  exact hg.1

structure HeaderAdvances (c c' : Checkpoint) : Prop where
  generation : c.snapshotGeneration ≤ c'.snapshotGeneration
  eTag : c.snapshotGeneration = c'.snapshotGeneration → c.snapshotETag = c'.snapshotETag
  valid : c'.HeaderValid

theorem HeaderAdvances.trans {c''} (h : HeaderAdvances c c') (h' : HeaderAdvances c' c'') :
    HeaderAdvances c c'' := by
  refine ⟨h.generation.trans h'.generation, fun heq => ?_, h'.valid⟩
  -- between two equal generations there is only that one
  have hm : c.snapshotGeneration = c'.snapshotGeneration :=
    le_antisymm h.generation (heq ▸ h'.generation)
  exact (h.eTag hm).trans (h'.eTag (hm.symm.trans heq))

theorem Checkpoint.HeaderValid.advances_of_eq (h : c.HeaderValid) (heq : c'.header = c.header) :
    HeaderAdvances c c' := by
  simp only [header, Prod.mk.injEq] at heq
  obtain ⟨hg, het, -⟩ := heq
  refine ⟨hg.ge, fun _ => het.symm, fun he => ?_⟩
  rw [hg]
  exact h (het ▸ he)

theorem Acknowledges.headerAdvances (hv : r.checkpoint.HeaderValid)
    (h : Acknowledges cfg now s capabilities r y r') :
    HeaderAdvances r.checkpoint r'.checkpoint := by
  cases h with
  | waits hh _ => exact hv.advances_of_eq hh
  | sets hs hc hcm =>
    obtain ⟨hg, ha, hdl, hsv, hst, hm⟩ := hcm
    rw [hm]
    simp only [Checkpoint.refuses, Bool.or_eq_false_iff, decide_eq_false_iff_not, not_lt,
      Bool.and_eq_false_iff, bne_eq_false_iff_eq, beq_eq_false_iff_ne] at hc
    obtain ⟨hle, hcn⟩ := hc
    refine ⟨hle, fun heq => ?_, headerValid_of_validate (save_eq_ok hsv).1⟩
    have heq : r.checkpoint.snapshotGeneration = s.snapshotGeneration := heq
    rcases hcn with (hne | he) | hsm
    · exact absurd heq.symm hne
    · -- nothing was acknowledged before, and the snapshot has a generation
      have hz := hv he
      have hp := Snapshot.generation_of_validate hs
      omega
    · exact hsm.symm

/-- A snapshot of the run: if it moves the header, or `processSnapshot` returns nil for
it and it was not an answer that nothing changed, then the call was complete. -/
def HonestlyAcknowledged (cfg : Config) (r : Runtime) : Event → Prop
  | .snapshot now s capabilities faults saves =>
    (r.step cfg (.snapshot now s capabilities faults saves)).checkpoint.header ≠
          r.checkpoint.header ∨
        ((processSnapshot cfg now s capabilities (r.facing faults saves)).1 = .ok () ∧
          s.notModified = false) →
      Completed cfg now s capabilities (r.facing faults saves)
        (r.step cfg (.snapshot now s capabilities faults saves))
  | _ => True

theorem step_acknowledges {e} (he : e ≠ .restart) (hv : r.checkpoint.HeaderValid) :
    HeaderAdvances r.checkpoint (r.step cfg e).checkpoint ∧
      KeepsAccepted r.checkpoint (r.step cfg e).checkpoint ∧ HonestlyAcknowledged cfg r e := by
  cases e with
  | restart => exact absurd rfl he
  | finalize id => exact ⟨hv.advances_of_eq rfl, KeepsAccepted.refl _, trivial⟩
  | snapshot now s capabilities faults saves =>
    rcases hr : processSnapshotBody cfg now s capabilities (r.facing faults saves) with ⟨y, r'⟩
    have hstep : r.step cfg (.snapshot now s capabilities faults saves) = r' := congrArg Prod.snd hr
    obtain ⟨ha, hac⟩ := processSnapshotBody_acknowledges hr
    have hv : (r.facing faults saves).checkpoint.HeaderValid := hv
    have hh : HeaderAdvances (r.facing faults saves).checkpoint r'.checkpoint :=
      hac.headerAdvances hv
    rw [hstep]
    refine ⟨hh, ha, fun hs => ?_⟩
    rw [hstep] at hs ⊢
    cases hac with
    | sets _ _ hc => exact hc
    | waits hh hm =>
      rcases hs with hmv | ⟨hok, hn⟩
      · exact absurd hh hmv
      · have hy := processSnapshotBody_of_ok hok
        rw [hr] at hy
        rw [hm hy] at hn
        cases hn

theorem run_headerAdvances {es} (hes : ∀ e ∈ es, e ≠ .restart) (hv : r.checkpoint.HeaderValid) :
    HeaderAdvances r.checkpoint (run (Runtime.step cfg) r es).checkpoint := by
  induction es generalizing r with
  | nil => exact hv.advances_of_eq rfl
  | cons e es ih =>
    rw [forall_mem_cons] at hes
    have hstep : HeaderAdvances r.checkpoint (r.step cfg e).checkpoint :=
      (step_acknowledges hes.1 hv).1
    exact hstep.trans (ih hes.2 hstep.valid)

theorem run_keepsAccepted {es} {x' : AcceptedAssignment} (hes : ∀ e ∈ es, e ≠ .restart)
    (hv : r.checkpoint.HeaderValid) (hs : ∀ es1 es2, es = es1 ++ es2 →
      ((run (Runtime.step cfg) r es1).checkpoint.accepted d).isSome)
    (hx : r.checkpoint.accepted d = some x)
    (hx' : (run (Runtime.step cfg) r es).checkpoint.accepted d = some x') :
    x.generation ≤ x'.generation := by
  induction es generalizing r x with
  | nil => exact KeepsAccepted.refl _ d x x' hx hx'
  | cons e es ih =>
    rw [forall_mem_cons] at hes
    obtain ⟨hh, ha, -⟩ : HeaderAdvances r.checkpoint (r.step cfg e).checkpoint ∧
        KeepsAccepted r.checkpoint (r.step cfg e).checkpoint ∧ HonestlyAcknowledged cfg r e :=
      step_acknowledges hes.1 hv
    obtain ⟨x1, hx1⟩ := Option.isSome_iff_exists.mp (hs [e] es rfl)
    have hrest : x1.generation ≤ x'.generation :=
      ih hes.2 hh.valid (fun es1 es2 h => hs (e :: es1) es2 (by rw [h]; rfl)) hx1 hx'
    exact (ha d x x1 hx hx1).trans hrest

/-- **The acknowledgement is honest and only goes forward.** Between any two moments of a
run, with any calls and saves failing, the snapshot generation has not decreased, one
generation has one ETag, and no accepted deployment has gone back. Whenever a call moved the
header, it applied every assignment, completed every tombstone and saved both. -/
theorem acknowledgement_honest (cfg : Config) (r : Runtime) (past mid : List Event)
    (hr : validateCheckpoint r.checkpoint = .ok ()) (hes : ∀ e ∈ past ++ mid, e ≠ .restart) :
    (run (Runtime.step cfg) r past).checkpoint.snapshotGeneration ≤
        (run (Runtime.step cfg) r (past ++ mid)).checkpoint.snapshotGeneration ∧
      ((run (Runtime.step cfg) r past).checkpoint.snapshotGeneration =
          (run (Runtime.step cfg) r (past ++ mid)).checkpoint.snapshotGeneration →
        (run (Runtime.step cfg) r past).checkpoint.snapshotETag =
          (run (Runtime.step cfg) r (past ++ mid)).checkpoint.snapshotETag) ∧
      (∀ d x x', (∀ mid1 mid2, mid = mid1 ++ mid2 →
          ((run (Runtime.step cfg) r (past ++ mid1)).checkpoint.accepted d).isSome) →
        (run (Runtime.step cfg) r past).checkpoint.accepted d = some x →
        (run (Runtime.step cfg) r (past ++ mid)).checkpoint.accepted d = some x' →
        x.generation ≤ x'.generation) ∧
      RunMeets (Runtime.step cfg) (HonestlyAcknowledged cfg) r (past ++ mid) := by
  have hv := headerValid_of_validate hr
  have hp : ∀ e ∈ past, e ≠ .restart := fun e he => hes e (mem_append_left _ he)
  have hmd : ∀ e ∈ mid, e ≠ .restart := fun e he => hes e (mem_append_right _ he)
  have hv' : (run (Runtime.step cfg) r past).checkpoint.HeaderValid :=
    (run_headerAdvances hp hv).valid
  have hh : HeaderAdvances (run (Runtime.step cfg) r past).checkpoint
      (run (Runtime.step cfg) r (past ++ mid)).checkpoint := by
    rw [run_append]
    exact run_headerAdvances hmd hv'
  refine ⟨hh.generation, hh.eTag, fun d x x' hs hx hx' => ?_, ?_⟩
  · rw [run_append] at hx'
    refine run_keepsAccepted hmd hv' (fun mid1 mid2 h => ?_) hx hx'
    rw [← run_append]
    exact hs mid1 mid2 h
  · have hm : RunMeets (Runtime.step cfg) (fun _ e => e ≠ Event.restart) r (past ++ mid) :=
      RunMeets.of_forall hes
    exact RunMeets.of_invariant (P := fun r => r.checkpoint.HeaderValid)
      (fun _ _ h he => (step_acknowledges he h).1.valid)
      (fun _ _ h he => (step_acknowledges he h).2.2) hm hv

end

open OneDeployment in
/-- Two generations of one deployment: the header ends at the second, and both calls
that moved it were complete. -/
theorem updatingRun_acknowledged :
    (run (Runtime.step cfg) fresh updatingRun).checkpoint.snapshotGeneration = 2 ∧
      RunMeets (Runtime.step cfg) (HonestlyAcknowledged cfg) fresh updatingRun := by
  have hr : ∀ e ∈ [] ++ updatingRun, e ≠ Event.restart := by
    intro e he
    simp only [updatingRun, nil_append, mem_cons, not_mem_nil, or_false] at he
    rcases he with rfl | rfl <;> exact nofun
  refine ⟨updatingRun_covers.1, ?_⟩
  have hm := (acknowledgement_honest cfg fresh [] updatingRun rfl hr).2.2.2
  rwa [nil_append] at hm

end Astronomer.Agent
