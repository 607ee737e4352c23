import Astronomer.Agent.Acknowledgement
import Astronomer.Agent.Calls

/-!
# What a refused snapshot leaves behind

An assignment that goes back on what was accepted is noticed only when the loop comes to it,
when those before it have been applied. So a refusal is without effect exactly when it comes
first.
-/

namespace Astronomer.Agent

open List Effect
open Delivery (Time)

section

variable {cfg : Config} {now : Time} {a : Assignment} {m : Materialization} {s : Snapshot}
  {capabilities : Capabilities} {r r' : Runtime} {pairs : List (Assignment × Materialization)}
  {k : Kube} {d : String}

def Checkpoint.regressed (c : Checkpoint) (a : Assignment) : Bool :=
  (c.accepted a.deploymentID).any (regresses a)

inductive Refused (cfg : Config) (capabilities : Capabilities) (s : Snapshot) (r : Runtime) : Prop
  | snapshot (hvalid : validateSnapshot cfg.parsers capabilities cfg.policy s = .ok ())
      (hrefuses : r.checkpoint.refuses s)
  | assignment {pairs : List (Assignment × Materialization)} {a : Assignment}
      (hreaches : Reaches cfg capabilities s pairs r) (ha : a ∈ s.assignments)
      (hregressed : r.checkpoint.regressed a)

theorem exists_reaches (h : validateSnapshot cfg.parsers capabilities cfg.policy s = .ok () ∧
      r.checkpoint.refuses s = false ∧ (materializations cfg capabilities s).isOk)
    (hm : s.notModified = false) (hs : reconcileSystem cfg s.system = .ok ()) :
    ∃ pairs, Reaches cfg capabilities s pairs r := by
  obtain ⟨hv, hc, hg⟩ := h
  cases hp : materializations cfg capabilities s with
  | error err =>
    rw [hp] at hg
    cases hg
  | ok pairs => exact ⟨pairs, hv, hc, hm, hp, hs⟩

/-! ## The loop comes to the offending assignment -/

theorem AssignmentOutcome.accepted_eq_of_ne {y} (h : AssignmentOutcome cfg a m r y r')
    (hd : d ≠ a.deploymentID) :
    r'.checkpoint.accepted d = r.checkpoint.accepted d := by
  cases h with
  | regressed _ => rfl
  | failed _ hbo => rw [hbo.checkpoint]
  | accepted => exact Checkpoint.accepted_insert_of_ne hd

theorem processAssignments_regressed (hnd : (pairs.map fun q => q.1.deploymentID).Nodup)
    (h : ∃ q ∈ pairs, r.checkpoint.regressed q.1) :
    ∃ q ∈ pairs, (processAssignments cfg now pairs r).1 =
      .error ("assignment \"" ++ q.1.deploymentID ++
        "\" regresses or changes an accepted generation") := by
  induction pairs generalizing r with
  | nil => obtain ⟨q, hq, -⟩ := h; cases hq
  | cons q pairs ih =>
    rcases ho : processAssignment cfg now q.1 q.2 r with ⟨err | done, r1⟩
    · cases AssignmentOutcome.of_eq ho
      refine ⟨q, mem_cons_self, ?_⟩
      rw [processAssignments, bind_apply_error ho]
    · have hot := AssignmentOutcome.of_eq ho
      rw [map_cons, nodup_cons] at hnd
      obtain ⟨q', hq', hr⟩ := h
      have hrest : q' ∈ pairs := by
        rcases mem_cons.mp hq' with rfl | hmem
        · -- the first one went through, so it is not the offending one
          have hp : r.checkpoint.regressed q'.1 = false := by
            cases hot with
            | failed ha | accepted ha => exact ha
          rw [hp] at hr
          cases hr
        · exact hmem
      have hne : q'.1.deploymentID ≠ q.1.deploymentID :=
        fun heq => hnd.1 (heq ▸ mem_map_of_mem hrest)
      have hst : r1.checkpoint.regressed q'.1 := by
        rw [Checkpoint.regressed, hot.accepted_eq_of_ne hne]
        exact hr
      obtain ⟨q'', hq'', he⟩ := ih hnd.2 ⟨q', hrest, hst⟩
      refine ⟨q'', mem_cons_of_mem _ hq'', ?_⟩
      rcases hl : processAssignments cfg now pairs r1 with ⟨err | restDone, r2⟩
      · rw [processAssignments, bind_apply_ok ho, bind_apply_error hl]
        rwa [hl] at he
      · rw [hl] at he
        cases he

theorem Reaches.nodup (h : Reaches cfg capabilities s pairs r) :
    (pairs.map fun q => q.1.deploymentID).Nodup := by
  have hnd := (Snapshot.ids_of_validate (validate_of_validateSnapshot h.valid)).1
  rw [← (materializations_eq_ok h.graphs).1, map_map, nodup_append] at hnd
  exact hnd.1

/-! ## The effects -/

/-- A call that makes no write and leaves the checkpoint alone, whatever the API server
would answer: not even the script of its answers is touched, so nothing was asked. -/
def Untouched (cfg : Config) (now : Time) (s : Snapshot) (capabilities : Capabilities)
    (r : Runtime) : Prop :=
  ∀ faults saves,
    (r.step cfg (.snapshot now s capabilities faults saves)).kube = (r.facing faults saves).kube ∧
      (r.step cfg (.snapshot now s capabilities faults saves)).checkpoint = r.checkpoint ∧
      (r.step cfg (.snapshot now s capabilities faults saves)).stored = r.stored

theorem apply_of_lost (hb : buildAssignment cfg.parsers capabilities cfg.policy a = .ok m)
    (hfa : k.faults = [.lost]) :
    ∃ err, apply cfg.cluster m k = (.error err, { k with faults := [] }) := by
  obtain ⟨-, -, -, auth, trust, reconciler, -, ho⟩ := buildAssignment_eq_ok hb
  obtain ⟨rest, hc⟩ : ∃ rest, m.objects = projectNamespace a :: rest := ⟨_, ho⟩
  refine ⟨apiFailure ("apply " ++ (projectNamespace a).1.text), ?_⟩
  have hf : applyObject cfg.cluster (projectNamespace a) k =
      (.error (apiFailure ("apply " ++ (projectNamespace a).1.text)), { k with faults := [] }) := by
    rw [applyObject, bind_require (by rfl), Server.call]
    simp only [hfa, head?_cons, Option.getD_some, tail_cons]
  rw [apply, hc, bind_require (by rfl), Effect.each, bind_apply_error hf]

theorem Reaches.facing {faults saves} (h : Reaches cfg capabilities s pairs r) :
    Reaches cfg capabilities s pairs (r.facing faults saves) :=
  ⟨h.valid, h.current, h.modified, h.graphs, h.system⟩

variable {q : Assignment × Materialization} {rest : List (Assignment × Materialization)}

theorem Reaches.unchanged_of_regressed (h : Reaches cfg capabilities s (q :: rest) r)
    (hr : r.checkpoint.regressed q.1) :
    (processSnapshotBody cfg now s capabilities r).2 = r := by
  rcases ho : processAssignment cfg now q.1 q.2 r with ⟨y, r1⟩
  cases AssignmentOutcome.of_eq ho with
  | regressed _ => rw [h.stopped (bind_apply_error ho)]
  | failed ha | accepted ha =>
    rw [Checkpoint.regressed, ha] at hr
    cases hr

theorem Reaches.asked_of_passes (h : Reaches cfg capabilities s (q :: rest) r)
    (hb : buildAssignment cfg.parsers capabilities cfg.policy q.1 = .ok q.2)
    (hp : r.checkpoint.regressed q.1 = false)
    (hlt : ∃ q' ∈ q :: rest, r.checkpoint.regressed q'.1)
    (hfa : r.kube.faults = [.lost]) :
    (processSnapshotBody cfg now s capabilities r).2.kube.faults = [] := by
  obtain ⟨err, ha⟩ := apply_of_lost hb hfa
  obtain ⟨r1, hf, hfa⟩ : ∃ r1, processAssignment cfg now q.1 q.2 r = (.ok false, r1) ∧
      r1.kube.faults = [] := by
    rw [processAssignment, bind_get, bind_require (by rw [Bool.not_eq_true']; exact hp),
      bind_apply_ok (onKube_apply ha)]
    exact ⟨_, rfl, rfl⟩
  obtain ⟨q', -, he⟩ : ∃ q' ∈ q :: rest, (processAssignments cfg now (q :: rest) r).1 =
      .error ("assignment \"" ++ q'.1.deploymentID ++
        "\" regresses or changes an accepted generation") :=
    processAssignments_regressed h.nodup hlt
  have hl : (processAssignments cfg now (q :: rest) r).2.kube.faults = [] := by
    rw [processAssignments, bind_apply_ok hf]
    exact Moves.bind (R := Order.Preimage Runtime.kube (Keeps fun k => k.faults = []))
      (processAssignments_moves fun _ _ => ofCalls_faults.processAssignment)
      (fun _ => Moves.pure) _ hfa
  rw [h.stopped (Prod.ext he rfl)]
  exact hl

theorem untouched_of_eq (h : ∀ faults saves,
      r.step cfg (.snapshot now s capabilities faults saves) = r.facing faults saves) :
    Untouched cfg now s capabilities r := by
  intro faults saves
  rw [h]
  exact ⟨rfl, rfl, rfl⟩

/-- **A refused snapshot changes nothing exactly when it is refused first**: by its own
generation or ETag, or by the first of its assignments. -/
theorem refused_untouched_iff (cfg : Config) (now : Time) (s : Snapshot)
    (capabilities : Capabilities) (r : Runtime) (h : Refused cfg capabilities s r) :
    Untouched cfg now s capabilities r ↔
      r.checkpoint.refuses s ∨ s.assignments.head?.any r.checkpoint.regressed := by
  cases h with
  | snapshot hv hre =>
    refine iff_of_true (untouched_of_eq fun faults saves => ?_) (.inl hre)
    have hre : (r.facing faults saves).checkpoint.refuses s := hre
    show (processSnapshotBody cfg now s capabilities (r.facing faults saves)).2 = _
    rw [processSnapshotBody, bind_ofExcept (wrap_eq_ok.mpr hv), bind_get, hre]
    rfl
  | @assignment pairs a hr ha hrg =>
    obtain ⟨hf, hb⟩ := materializations_eq_ok hr.graphs
    -- some assignment is there, so there is a first one
    rcases pairs with _ | ⟨q, rest⟩
    · rw [← hf] at ha
      cases ha
    have hh : s.assignments.head? = some q.1 := by rw [← hf]; rfl
    rw [hh, Option.any_some, hr.current]
    constructor
    · intro hu
      refine .inr (Bool.eq_true_of_not_eq_false fun hp => ?_)
      obtain ⟨hkb, -⟩ := hu [.lost] []
      rw [← hf] at ha
      obtain ⟨q', hq', rfl⟩ := mem_map.mp ha
      have hak : (r.step cfg (.snapshot now s capabilities [.lost] [])).kube.faults = [] :=
        hr.facing.asked_of_passes (hb q mem_cons_self) hp ⟨q', hq', hrg⟩ rfl
      rw [hkb] at hak
      cases hak
    · rintro (hre | hh)
      · cases hre
      · exact untouched_of_eq fun _ _ => hr.facing.unchanged_of_regressed hh

end

/-! ## One deployment, and another before it -/

namespace OneDeployment

def otherID : String := "33333333-3333-4333-8333-333333333333"

def otherAssignment : Assignment :=
  { assignment 1 .namespaced "team-b" with
    deploymentID := otherID
    renderer :=
      { kind := .kustomize
        kustomize := some
          { targetNamespace := "team-b", serviceAccount := (names projectID otherID).applier
            prune := true } } }

def advanced : Runtime :=
  { fresh with
    checkpoint :=
      { snapshotGeneration := 1, snapshotETag := digest
        assignments := [acceptAssignment (assignment 2 .namespaced "team-a")
          { controlNamespace := (names projectID deploymentID).controlNamespace
            targetNamespace := "team-a" }] } }

def regressing : Snapshot := snapshotOf 2 (assignment 1 .namespaced "team-a")

def regressingSecond : Snapshot :=
  { regressing with assignments := [otherAssignment, assignment 1 .namespaced "team-a"] }

theorem advanced_regressed :
    advanced.checkpoint.regressed (assignment 1 .namespaced "team-a") := by
  decide +kernel

end OneDeployment

open OneDeployment in
/-- The one assignment of the snapshot goes back: nothing happens. -/
theorem regressing_untouched : Refused cfg capabilities regressing advanced ∧
      Untouched cfg 0 regressing capabilities advanced := by
  obtain ⟨pairs, hr⟩ : ∃ pairs, Reaches cfg capabilities regressing pairs advanced :=
    exists_reaches (by decide +kernel) rfl rfl
  have hrf : Refused cfg capabilities regressing advanced :=
    .assignment hr mem_cons_self advanced_regressed
  refine ⟨hrf, ?_⟩
  exact (refused_untouched_iff cfg 0 regressing capabilities advanced hrf).mpr
    (.inr advanced_regressed)

open OneDeployment in
/-- The second assignment goes back: the snapshot is refused, and the first one has been
applied and accepted. -/
theorem regressingSecond_touched : Refused cfg capabilities regressingSecond advanced ∧
      ¬ Untouched cfg 0 regressingSecond capabilities advanced := by
  obtain ⟨pairs, hr⟩ : ∃ pairs, Reaches cfg capabilities regressingSecond pairs advanced :=
    exists_reaches (by decide +kernel) rfl rfl
  refine ⟨.assignment hr (mem_cons_of_mem _ mem_cons_self) advanced_regressed, fun hu => ?_⟩
  have haf : ((advanced.step cfg (.snapshot 0 regressingSecond capabilities [] [])
      ).checkpoint.accepted otherID).isSome := by decide +kernel
  rw [(hu [] []).2.1] at haf
  exact absurd haf (by decide +kernel)

end Astronomer.Agent
