import Astronomer.Agent.Recording
import Astronomer.Agent.Records

/-!
# When a deletion comes to its end

A tombstone that is processed again and again, with no call failing any more, removes the
deployment exactly when every live object of it is recorded and carries the accepted
generation. What an apply that failed half way left behind is refused for ever.
-/

namespace Astronomer.Agent

open List Effect
open Delivery (Time)

section

variable {cfg : Config} {now : Time} {a : Assignment} {m : Materialization}
  {t : Deletion} {s : Snapshot} {capabilities : Capabilities} {r r' : Runtime}
  {pairs : List (Assignment × Materialization)} {d : String}
  {o : Stored ObjectIdentity Content} {x : AcceptedAssignment}

/-! ## One call on the snapshot -/

/-- The snapshot gets through to its tombstones: it reaches the loops and none of its
assignments is refused. -/
structure Ready (cfg : Config) (capabilities : Capabilities) (s : Snapshot) (r : Runtime) :
    Prop where
  reaches : ∃ pairs, Reaches cfg capabilities s pairs r
  advances : ∀ a ∈ s.assignments, r.checkpoint.regressed a = false

theorem AssignmentOutcome.inOrder {y} {b : Assignment} (h : AssignmentOutcome cfg a m r y r')
    (hds : b.deploymentID = a.deploymentID → b = a) (hb : r.checkpoint.regressed b = false) :
    r'.checkpoint.regressed b = false := by
  by_cases hd : b.deploymentID = a.deploymentID
  · obtain rfl := hds hd
    cases h with
    | regressed _ => exact hb
    | failed _ hbo => rw [hbo.checkpoint]; exact hb
    | accepted =>
      show ((r.checkpoint.insert (acceptAssignment b m)).accepted
        (acceptAssignment b m).deploymentID).any (regresses b) = false
      rw [Checkpoint.accepted_insert_self, Option.any_some]
      simp [regresses, acceptAssignment]
  · rw [Checkpoint.regressed, h.accepted_eq_of_ne hd]
    exact hb

theorem Forgets.inOrder {b} (h : Forgets r r') (hb : r.checkpoint.regressed b = false) :
    r'.checkpoint.regressed b = false := by
  cases ha : r'.checkpoint.accepted b.deploymentID with
  | none => rw [Checkpoint.regressed, ha]; rfl
  | some x =>
    rw [Checkpoint.regressed, h.accepted _ x ha] at hb
    rw [Checkpoint.regressed, ha]
    exact hb

theorem processAssignments_ok (hnd : (pairs.map fun q => q.1.deploymentID).Nodup)
    (ha : ∀ q ∈ pairs, r.checkpoint.regressed q.1 = false) :
    ∃ applied r', processAssignments cfg now pairs r = (.ok applied, r') := by
  induction pairs generalizing r with
  | nil => exact ⟨_, _, rfl⟩
  | cons q pairs ih =>
    rw [forall_mem_cons] at ha
    rw [map_cons, nodup_cons] at hnd
    rcases ho : processAssignment cfg now q.1 q.2 r with ⟨err | done, r1⟩
    · cases AssignmentOutcome.of_eq ho with
      | regressed hr =>
        have hp : (r.checkpoint.accepted q.1.deploymentID).any (regresses q.1) = false := ha.1
        rw [hp] at hr
        cases hr
    · have hrest : ∀ q' ∈ pairs, r1.checkpoint.regressed q'.1 = false := by
        intro q' hq'
        refine (AssignmentOutcome.of_eq ho).inOrder (fun heq => ?_) (ha.2 q' hq')
        exact absurd (heq ▸ mem_map_of_mem hq') hnd.1
      obtain ⟨applied, r2, hl⟩ := ih hnd.2 hrest
      refine ⟨done && applied, r2, ?_⟩
      rw [processAssignments, bind_apply_ok ho, bind_apply_ok hl]
      rfl

/-- A call with no failing API call, as the deployment of the tombstone sees it: the
iteration for its tombstone, and around it nothing that concerns it. -/
inductive Called (cfg : Config) (t : Deletion) (r r' : Runtime) : Prop
  | intro {now : Time} {r1 r2 : Runtime} {done : Bool}
      (hbefore : Spares t.deploymentID r r1) (hfaults : r1.kube.faults = [])
      (hunique : UniqueIDs r.kube.objects → UniqueIDs r1.kube.objects)
      (hrun : processDeletion cfg now t r1 = (.ok done, r2))
      (hafter : Spares t.deploymentID r2 r')

theorem Ready.called {saves} (h : Ready cfg capabilities s r) (ht : t ∈ s.deletions) :
    Called cfg t r (r.step cfg (.snapshot now s capabilities [] saves)) := by
  obtain ⟨⟨pairs, hr⟩, ha⟩ := h
  have hr : Reaches cfg capabilities s pairs (r.facing [] saves) := hr.facing
  obtain ⟨hfs, -⟩ := materializations_eq_ok hr.graphs
  obtain ⟨applied, r0, hass⟩ : ∃ applied r', processAssignments cfg now pairs
      (r.facing [] saves) = (.ok applied, r') :=
    processAssignments_ok hr.nodup fun q hq => ha q.1 (hfs ▸ mem_map_of_mem hq)
  obtain ⟨done, r1, r2, hc, hbf, ho, haf⟩ := hr.tombstone hass ht
  exact .intro ⟨hbf.objects, hbf.accepted⟩ (hc ofCalls_faults rfl) (hc ofCalls_uniqueIDs) ho haf

/-! ## The snapshot keeps getting through -/

theorem Ready.snapshot {faults saves} (h : Ready cfg capabilities s r) :
    Ready cfg capabilities s (r.step cfg (.snapshot now s capabilities faults saves)) := by
  obtain ⟨⟨pairs, hrc⟩, had⟩ := h
  have hc : (r.step cfg (.snapshot now s capabilities faults saves)).checkpoint.refuses s =
      false := by
    rcases hrn : processSnapshotBody cfg now s capabilities (r.facing faults saves) with ⟨y, r'⟩
    have hstep : r.step cfg (.snapshot now s capabilities faults saves) = r' :=
      congrArg Prod.snd hrn
    rw [hstep]
    cases (processSnapshotBody_acknowledges hrn).2 with
    | waits hh _ =>
      simp only [Checkpoint.header, Prod.mk.injEq] at hh
      simp only [Checkpoint.refuses, hh.1, hh.2.1]
      exact hrc.current
    | sets _ _ hcm =>
      obtain ⟨-, -, -, -, -, hm⟩ := hcm
      simp [hm, Checkpoint.refuses, Checkpoint.candidate]
  refine ⟨⟨pairs, hrc.valid, hc, hrc.modified, hrc.graphs, hrc.system⟩, ?_⟩
  have hnd := (Snapshot.ids_of_validate (validate_of_validateSnapshot hrc.valid)).1
  refine processSnapshotBody_moves
    (R := Keeps fun r => ∀ a ∈ s.assignments, r.checkpoint.regressed a = false)
    (fun a ha m _ r hr b hb => ?_) (fun t _ r hr b hb => ?_) (fun complete r hr b hb => ?_)
    (r.facing faults saves) had
  · refine processAssignment_outcome.inOrder (fun heq => ?_) (hr b hb)
    exact inj_on_of_nodup_map (nodup_append.mp hnd).1 hb ha heq
  · obtain ⟨done, r', hrn, ho⟩ := processDeletion_outcome cfg now t r
    rw [hrn]
    exact ho.forgets.inOrder (hr b hb)
  · rw [Checkpoint.regressed, accepted_finishSnapshot]
    exact hr b hb

/-! ## A step of the repetition -/

/-- The event is another call on the snapshot with no failing API call, or the controllers
let go of an object. -/
def Repeats (s : Snapshot) (capabilities : Capabilities) : Event → Prop
  | .snapshot _ s' capabilities' faults _ => s' = s ∧ capabilities' = capabilities ∧ faults = []
  | .finalize _ => True
  | .restart => False

def Runtime.own (r : Runtime) (d : String) : Objects :=
  r.kube.objects.filter fun o => decide (o.id.Own d)

theorem Runtime.mem_own : o ∈ r.own d ↔ o ∈ r.kube.objects ∧ o.id.Own d := by
  simp [Runtime.own]

def Guarded (d : String) (r : Runtime) (o : Stored ObjectIdentity Content) : Prop :=
  ∃ x, r.checkpoint.accepted d = some x ∧ o.id ∈ x.objects ∧ Fenced x.boundary o.content

instance : Decidable (Guarded d r o) :=
  decidable_of_iff ((r.checkpoint.accepted d).any fun x =>
      decide (o.id ∈ x.objects) && Fenced x.boundary o.content) <| by
    simp [Guarded, Option.any_eq_true]

def Deletable (d : String) (r : Runtime) : Prop :=
  ∀ o ∈ r.kube.objects, o.id.Own d → o.deleting = false → Guarded d r o
deriving Decidable

structure Turn (t : Deletion) (r r' : Runtime) : Prop where
  shrinks : Shrinks (r.own t.deploymentID) (r'.own t.deploymentID)
  accepted : r'.checkpoint.accepted t.deploymentID = r.checkpoint.accepted t.deploymentID ∨
    r'.checkpoint.accepted t.deploymentID = none
  deletable : Deletable t.deploymentID r → Deletable t.deploymentID r'
  stands : ∀ o : Stored ObjectIdentity Content, o.id.Own t.deploymentID → o.deleting = false →
    UniqueIDs r.kube.objects → o ∈ r.kube.objects → ¬ Guarded t.deploymentID r o →
    o ∈ r'.kube.objects ∧ ¬ Guarded t.deploymentID r' o

theorem Turn.finalized {id} : Turn t r (r.step cfg (.finalize id)) := by
  refine ⟨Shrinks.of_subset fun o ho => ?_, .inl rfl, fun h o ho => ?_, fun o _ hl _ ho hg => ?_⟩
  · obtain ⟨hmem, how⟩ := Runtime.mem_own.mp ho
    exact Runtime.mem_own.mpr ⟨mem_of_mem_filter hmem, how⟩
  · exact h o (mem_of_mem_filter ho)
  · refine ⟨mem_filter.mpr ⟨ho, ?_⟩, hg⟩
    rw [hl]
    rfl

theorem Called.turn (horphan : t.orphan = false) (h : Called cfg t r r') : Turn t r r' := by
  obtain ⟨hbf, -, hu, hr, haf⟩ := h
  rename_i now r1 r2 done
  have hot := DeletionOutcome.of_eq hr
  have hsh : Shrinks r1.kube.objects r2.kube.objects :=
    (processDeletion_shrinks horphan).of_eq hr
  have ha : r2.checkpoint.accepted t.deploymentID = r1.checkpoint.accepted t.deploymentID ∨
      r2.checkpoint.accepted t.deploymentID = none := by
    cases hot with
    | removed _ _ => exact .inr Checkpoint.accepted_erase_self
    | _ => exact .inl rfl
  refine ⟨fun o' ho' => ?_, ?_, fun hd o' ho' how hl => ?_, fun o how hl hi ho hg => ?_⟩
  · obtain ⟨hmem, how⟩ := Runtime.mem_own.mp ho'
    obtain ⟨o, ho, hid, hc, hm⟩ := hsh o' ((haf.objects o' how).mp hmem)
    refine ⟨o, Runtime.mem_own.mpr ⟨?_, hid ▸ how⟩, hid, hc, hm⟩
    exact (hbf.objects o (hid ▸ how)).mp ho
  · rw [haf.accepted, ← hbf.accepted]
    exact ha
  · obtain ⟨o, ho, hid, hc, hm⟩ := hsh o' ((haf.objects o' how).mp ho')
    have how1 : o.id.Own t.deploymentID := hid ▸ how
    have hl1 : o.deleting = false := by grind
    obtain ⟨x, hx, hrc, hfc⟩ := hd o ((hbf.objects o how1).mp ho) how1 hl1
    have hx1 : r1.checkpoint.accepted t.deploymentID = some x := hbf.accepted.trans hx
    cases done with
    | true =>
      -- the deletion was complete, so no recorded object was there any more
      exact absurd rfl ((processDeletion_eq_true horphan hr).2 x hx1 o.id hrc how1.1 o ho)
    | false =>
      have hk : r2.checkpoint.accepted t.deploymentID = r1.checkpoint.accepted t.deploymentID := by
        cases hot <;> rfl
      exact ⟨x, haf.accepted.trans (hk.trans hx1), hid ▸ hrc, hc ▸ hfc⟩
  · have hs : Stands o r1.kube → Stands o r2.kube := by
      refine hot.kube (R := Keeps (Stands o)) (fun _ h => h) fun x hx => ?_
      refine beginDeletion_stands horphan (fun hrc => ?_) r1.kube
      refine Bool.eq_false_iff.mpr fun hfc => hg ⟨x, ?_, hrc, hfc⟩
      exact hbf.accepted.symm.trans hx
    have hmem : o ∈ r2.kube.objects := (hs ⟨hu hi, (hbf.objects o how).mpr ho⟩).2
    refine ⟨(haf.objects o how).mpr hmem, fun hg' => hg ?_⟩
    obtain ⟨x, hx, hrc, hfc⟩ := hg'
    rcases ha with heq | hn
    · refine ⟨x, ?_, hrc, hfc⟩
      rw [← hbf.accepted, ← heq, ← haf.accepted]
      exact hx
    · rw [haf.accepted, hn] at hx
      cases hx

/-- What a call does when every own object of the deployment is recorded and fenced:
reconcilers first, then the rest, then the entry in the checkpoint. -/
structure Progress (d : String) (r r' : Runtime) : Prop where
  reconcilers : ∀ o ∈ r'.own d, o.id.kind.isReconciler → o.deleting
  others : (∀ o ∈ r.own d, o.id.kind.isReconciler = false) → ∀ o ∈ r'.own d, o.deleting
  complete : (∀ o, o ∉ r.own d) → r'.checkpoint.accepted d = none

theorem AcceptedAssignment.Prunable.own {i : ObjectIdentity} (h : x.Prunable)
    (hd : x.deploymentID = d) (hi : i ∈ x.objects) (hk : i.kind ≠ .namespaceKind) :
    i.Own d := by
  have hof := of_of_validatePruneIdentity (h i hi hk)
  have hb : x.boundary.deploymentID = d := hd
  rw [hb] at hof
  exact ⟨hk, hof⟩

theorem Called.progress (horphan : t.orphan = false) (h : Called cfg t r r')
    (hx : r.checkpoint.accepted t.deploymentID = some x) (hp : x.Prunable)
    (hnw : x.generation < t.generation)
    (hgr : ∀ o ∈ r.own t.deploymentID, o.id ∈ x.objects ∧
      Fenced x.boundary o.content) : Progress t.deploymentID r r' := by
  obtain ⟨hbf, hfa, -, hr, haf⟩ := h
  rename_i now r1 r2 done
  have hd : x.deploymentID = t.deploymentID := Checkpoint.deploymentID_of_accepted hx
  have hx1 : r1.checkpoint.accepted t.deploymentID = some x := hbf.accepted.trans hx
  have hb : validateDeletionBoundary x.boundary t = .ok () := by
    rw [validateDeletionBoundary, require_eq_ok, Bool.and_eq_true]
    exact ⟨beq_iff_eq.mpr hd.symm, decide_eq_true hnw⟩
  have hfc : ∀ o ∈ r1.kube.objects, o.id ∈ x.objects → o.id.kind ≠ .namespaceKind →
      Fenced x.boundary o.content := by
    intro o ho hid hk
    have how := hp.own hd hid hk
    exact (hgr o (Runtime.mem_own.mpr ⟨(hbf.objects o how).mp ho, how⟩)).2
  obtain ⟨done', k', hc, htr⟩ := beginDeletion_fenced cfg.cluster horphan hb hp hfa hfc
  -- the iteration is that call, and enters its answer in the checkpoint
  obtain ⟨hkb, hdone⟩ : r2.kube = k' ∧
      (done' → r2.checkpoint.accepted t.deploymentID = none) := by
    cases DeletionOutcome.of_eq hr with
    | absent hn => rw [hx1] at hn; cases hn
    | failed hs hr' =>
      rw [hx1] at hs; cases hs
      rw [hc] at hr'; cases hr'
    | pending hs hr' =>
      rw [hx1] at hs; cases hs
      rw [hc] at hr'; cases hr'
      exact ⟨rfl, nofun⟩
    | removed hs hr' =>
      rw [hx1] at hs; cases hs
      rw [hc] at hr'; cases hr'
      exact ⟨rfl, fun _ => Checkpoint.accepted_erase_self⟩
  subst hkb
  have how1 : ∀ o ∈ r'.own t.deploymentID, o ∈ r2.kube.objects ∧ o.id ∈ x.objects := by
    intro o ho
    obtain ⟨hmem, how⟩ := Runtime.mem_own.mp ho
    have hmem2 := (haf.objects o how).mp hmem
    obtain ⟨o1, ho1, hid, -⟩ := htr.shrinks o hmem2
    have how' : o1.id.Own t.deploymentID := hid ▸ how
    exact ⟨hmem2, hid ▸ (hgr o1 (Runtime.mem_own.mpr ⟨(hbf.objects o1 how').mp ho1, how'⟩)).1⟩
  refine ⟨fun o ho hk => ?_, fun hn o ho => ?_, fun hg => ?_⟩
  · exact htr.reconcilers o (how1 o ho).1 (how1 o ho).2 hk
  · refine htr.others (fun o1 ho1 hid => ?_) o (how1 o ho).1 (how1 o ho).2
      (Runtime.mem_own.mp ho).2.1
    by_cases hk : o1.id.kind = .namespaceKind
    · rw [hk]
      rfl
    · have how := hp.own hd hid hk
      exact hn o1 (Runtime.mem_own.mpr ⟨(hbf.objects o1 how).mp ho1, how⟩)
  · rw [haf.accepted]
    refine hdone (htr.complete fun o1 ho1 hid => ?_)
    by_contra hk
    have how := hp.own hd hid hk
    exact hg o1 (Runtime.mem_own.mpr ⟨(hbf.objects o1 how).mp ho1, how⟩)

/-! ## The repetition -/

/-- From `r` on the snapshot is processed again and again with no API call failing, and
what is being deleted disappears some time later. -/
structure Retried (cfg : Config) (s : Snapshot) (capabilities : Capabilities) (r : Runtime)
    (ev : ℕ → Event) : Prop where
  repeats : ∀ n, Repeats s capabilities (ev n)
  calls : ∀ n, ∃ m, n ≤ m ∧ ∃ now saves, ev m = .snapshot now s capabilities [] saves
  lets_go : ∀ n, ∀ o ∈ (trace (Runtime.step cfg) r ev n).kube.objects, o.deleting →
    ∃ m, n ≤ m ∧ ev m = .finalize o.id

section Repetition

variable {ev : ℕ → Event}

theorem Ready.step {e} (he : Repeats s capabilities e) (h : Ready cfg capabilities s r) :
    Ready cfg capabilities s (r.step cfg e) := by
  cases e with
  | restart => exact absurd he nofun
  | finalize id =>
    obtain ⟨⟨pairs, hr⟩, ha⟩ := h
    exact ⟨⟨pairs, hr.valid, hr.current, hr.modified, hr.graphs, hr.system⟩, ha⟩
  | snapshot now s' capabilities' faults saves =>
    obtain ⟨rfl, rfl, rfl⟩ := he
    exact h.snapshot

theorem Ready.turn {e} (he : Repeats s capabilities e) (h : Ready cfg capabilities s r)
    (ht : t ∈ s.deletions) (horphan : t.orphan = false) : Turn t r (r.step cfg e) := by
  cases e with
  | restart => exact absurd he nofun
  | finalize id => exact Turn.finalized
  | snapshot now s' capabilities' faults saves =>
    obtain ⟨rfl, rfl, rfl⟩ := he
    exact (h.called ht).turn horphan

theorem UniqueIDs.step {e} (h : UniqueIDs r.kube.objects) :
    UniqueIDs (r.step cfg e).kube.objects := by
  cases e with
  | restart => exact h
  | finalize id => exact h.filter
  | snapshot now s capabilities faults saves =>
    exact ofCalls_uniqueIDs.processSnapshot (r.facing faults saves) h

variable (hretried : Retried cfg s capabilities r ev) (hready : Ready cfg capabilities s r)
  (ht : t ∈ s.deletions) (horphan : t.orphan = false)

include hretried hready

theorem Retried.ready (n : ℕ) : Ready cfg capabilities s (trace (Runtime.step cfg) r ev n) :=
  trace_preserves (fun n _ h => h.step (hretried.repeats n)) hready n

include ht

theorem Retried.called (n : ℕ) : ∃ m, n ≤ m ∧
    Called cfg t (trace (Runtime.step cfg) r ev m) (trace (Runtime.step cfg) r ev (m + 1)) := by
  obtain ⟨m, hm, now, saves, hev⟩ := hretried.calls n
  refine ⟨m, hm, ?_⟩
  rw [trace, hev]
  exact (hretried.ready hready m).called ht

include horphan

theorem Retried.turn (n : ℕ) :
    Turn t (trace (Runtime.step cfg) r ev n) (trace (Runtime.step cfg) r ev (n + 1)) :=
  (hretried.ready hready n).turn (hretried.repeats n) ht horphan

theorem Retried.draining :
    Draining fun n => (trace (Runtime.step cfg) r ev n).own t.deploymentID := by
  refine ⟨fun n => (hretried.turn hready ht horphan n).shrinks, fun n o ho hd => ?_⟩
  obtain ⟨m, hm, hev⟩ := hretried.lets_go n o (Runtime.mem_own.mp ho).1 hd
  refine ⟨m, hm, fun o' ho' hid => ?_⟩
  have hmem := (Runtime.mem_own.mp ho').1
  rw [trace, hev] at hmem
  have hk := (mem_filter.mp hmem).2
  cases hd' : o'.deleting with
  | false => rfl
  | true =>
    rw [hd', decide_eq_true hid] at hk
    cases hk

theorem Retried.accepted_eq {n m} (hnm : n ≤ m) :
    (trace (Runtime.step cfg) r ev m).checkpoint.accepted t.deploymentID =
        (trace (Runtime.step cfg) r ev n).checkpoint.accepted t.deploymentID ∨
      (trace (Runtime.step cfg) r ev m).checkpoint.accepted t.deploymentID = none := by
  induction m, hnm using Nat.le_induction with
  | base => exact .inl rfl
  | succ m _ ih =>
    rcases (hretried.turn hready ht horphan m).accepted with heq | hn
    · rwa [heq]
    · exact .inr hn

theorem Retried.deletable (h : Deletable t.deploymentID r) (n : ℕ) :
    Deletable t.deploymentID (trace (Runtime.step cfg) r ev n) := by
  induction n with
  | zero => exact h
  | succ n ih => exact (hretried.turn hready ht horphan n).deletable ih

theorem Retried.eventually_dropped (hd : Deletable t.deploymentID r)
    (hx : r.checkpoint.accepted t.deploymentID = some x) (hp : x.Prunable)
    (hnw : x.generation < t.generation) :
    ∃ n, (trace (Runtime.step cfg) r ev n).checkpoint.accepted t.deploymentID = none := by
  by_contra hnv
  have ha : ∀ n, (trace (Runtime.step cfg) r ev n).checkpoint.accepted t.deploymentID =
      some x := by
    intro n
    rcases hretried.accepted_eq hready ht horphan n.zero_le with heq | hnn
    · exact heq.trans hx
    · exact absurd ⟨n, hnn⟩ hnv
  have hdr := hretried.draining hready ht horphan
  -- objects that were already going when the tombstone came are gone some day; the
  -- others are recorded and fenced
  obtain ⟨N0, -, hgr⟩ := hdr.eventually (N := 0)
    (G := fun i c => i ∈ x.objects ∧ Fenced x.boundary c = true) fun n _ o ho hl => by
      obtain ⟨hmem, how⟩ := Runtime.mem_own.mp ho
      obtain ⟨x', hx', hr, hfc⟩ := hretried.deletable hready ht horphan hd n o hmem how hl
      rw [ha n] at hx'
      cases hx'
      exact ⟨hr, hfc⟩
  have hpr : ∀ n, N0 ≤ n → ∃ m, n ≤ m ∧ Progress t.deploymentID
      (trace (Runtime.step cfg) r ev m) (trace (Runtime.step cfg) r ev (m + 1)) := by
    intro n hn
    obtain ⟨m, hm, hc⟩ := hretried.called hready ht n
    exact ⟨m, hm, hc.progress horphan (ha m) hp hnw (hgr m (hn.trans hm))⟩
  -- the first call marks the reconcilers
  obtain ⟨n1, hn1, hf⟩ := hpr N0 (le_refl N0)
  obtain ⟨N1, hN1, hrc⟩ := hdr.eventually (N := n1 + 1)
    (G := fun i _ => i.kind.isReconciler = false) fun n hn o ho hl => by
      obtain ⟨o1, ho1, hid, -, hmr⟩ := hdr.shrinks_of_le hn o ho
      refine Bool.eq_false_iff.mpr fun hk => ?_
      rw [hmr (hf.reconcilers o1 ho1 (hid ▸ hk))] at hl
      cases hl
  -- the second marks the rest
  obtain ⟨n2, hn2, hsc⟩ := hpr N1 ((hn1.trans (Nat.le_succ n1)).trans hN1)
  obtain ⟨N2, hN2, he⟩ := hdr.eventually (N := n2 + 1) (G := fun _ _ => False)
    fun n hn o ho hl => by
      obtain ⟨o1, ho1, hid, -, hmr⟩ := hdr.shrinks_of_le hn o ho
      rw [hmr (hsc.others (hrc n2 hn2) o1 ho1)] at hl
      cases hl
  -- the third finds nothing and drops the entry
  obtain ⟨n3, hn3, hth⟩ := hpr N2
    ((((hn1.trans (Nat.le_succ n1)).trans hN1).trans hn2).trans ((Nat.le_succ n2).trans hN2))
  exact hnv ⟨n3 + 1, hth.complete fun o ho => he n3 hn3 o ho⟩

theorem Retried.stands (hi : UniqueIDs r.kube.objects) (how : o.id.Own t.deploymentID)
    (hl : o.deleting = false) (ho : o ∈ r.kube.objects) (hg : ¬ Guarded t.deploymentID r o)
    (n : ℕ) : o ∈ (trace (Runtime.step cfg) r ev n).kube.objects := by
  have hs : ∀ n, UniqueIDs (trace (Runtime.step cfg) r ev n).kube.objects ∧
      o ∈ (trace (Runtime.step cfg) r ev n).kube.objects ∧
      ¬ Guarded t.deploymentID (trace (Runtime.step cfg) r ev n) o := by
    intro n
    induction n with
    | zero => exact ⟨hi, ho, hg⟩
    | succ n ih =>
      obtain ⟨hi, hmem, hg⟩ := ih
      exact ⟨hi.step, (hretried.turn hready ht horphan n).stands o how hl hi hmem hg⟩
  exact (hs n).2.1

end Repetition

/-- **A deletion comes to its end exactly when the record is complete and current.** Let a
snapshot with a newer non-orphan tombstone be processed again and again, with no call failing.
The deployment then loses all its objects and its entry if, and only if, every object of it
that is not on its way out is recorded and of the accepted generation and digest. -/
theorem deletion_ends_iff (cfg : Config) (start : Runtime) (history : List Event) (s : Snapshot)
    (capabilities : Capabilities) (t : Deletion) (ev : ℕ → Event)
    (hcheckpoint : validateCheckpoint start.checkpoint = .ok ())
    (hstored : validateCheckpoint start.stored = .ok ()) (hunique : UniqueIDs start.kube.objects)
    (hready : Ready cfg capabilities s (run (Runtime.step cfg) start history))
    (ht : t ∈ s.deletions) (horphan : t.orphan = false)
    (hnewer : ∀ x, (run (Runtime.step cfg) start history).checkpoint.accepted t.deploymentID =
      some x → x.generation < t.generation)
    (hretried : Retried cfg s capabilities (run (Runtime.step cfg) start history) ev) :
    (∃ N, ∀ n, N ≤ n →
      (trace (Runtime.step cfg) (run (Runtime.step cfg) start history) ev n).checkpoint.accepted
          t.deploymentID = none ∧
        NothingLeft t.deploymentID
          (trace (Runtime.step cfg) (run (Runtime.step cfg) start history) ev n).kube.objects) ↔
      Deletable t.deploymentID (run (Runtime.step cfg) start history) := by
  have hp : (run (Runtime.step cfg) start history).Prunable :=
    run_preserves (fun _ _ h => h.step) ⟨.of_validate hcheckpoint, .of_validate hstored⟩
  have hi : UniqueIDs (run (Runtime.step cfg) start history).kube.objects :=
    run_preserves (P := fun r : Runtime => UniqueIDs r.kube.objects) (fun _ _ h => h.step) hunique
  generalize run (Runtime.step cfg) start history = r at *
  constructor
  · rintro ⟨N, hgn⟩ o ho how hl
    by_contra hg
    exact (hgn N (le_refl N)).2 o (hretried.stands hready ht horphan hi how hl ho hg N) how
  · intro hd
    obtain ⟨n0, hnn⟩ : ∃ n, (trace (Runtime.step cfg) r ev n).checkpoint.accepted
        t.deploymentID = none := by
      cases hx : r.checkpoint.accepted t.deploymentID with
      | none => exact ⟨0, hx⟩
      | some x =>
        exact hretried.eventually_dropped hready ht horphan hd hx
          (hp.1 x (mem_of_find?_eq_some hx)) (hnewer x hx)
    have hnone : ∀ n, n0 ≤ n → (trace (Runtime.step cfg) r ev n).checkpoint.accepted
        t.deploymentID = none := fun n hn =>
      (hretried.accepted_eq hready ht horphan hn).elim (·.trans hnn) id
    -- without an entry every object left is on its way out
    obtain ⟨N, hN, he⟩ := (hretried.draining hready ht horphan).eventually (N := n0)
      (G := fun _ _ => False) fun n hn o ho hl => by
        obtain ⟨hmem, how⟩ := Runtime.mem_own.mp ho
        obtain ⟨x, hx, -⟩ := hretried.deletable hready ht horphan hd n o hmem how hl
        rw [hnone n hn] at hx
        cases hx
    refine ⟨N, fun n hn => ⟨hnone n (hN.trans hn), fun o ho how => ?_⟩⟩
    exact he n hn o (Runtime.mem_own.mpr ⟨ho, how⟩)

/-! ## A fair schedule -/

def roundRobin (call : Event) (ids : List ObjectIdentity) (n : ℕ) : Event :=
  match ids[n % (ids.length + 1)]? with
  | some id => .finalize id
  | none => call

theorem roundRobin_reaches (call : Event) (ids : List ObjectIdentity) (n j : ℕ)
    (hj : j ≤ ids.length) :
    ∃ m, n ≤ m ∧ roundRobin call ids m = (ids[j]?.map Event.finalize).getD call := by
  refine ⟨(ids.length + 1) * n + j, ?_, ?_⟩
  · exact (Nat.le_mul_of_pos_left n (Nat.succ_pos _)).trans (Nat.le_add_right _ _)
  · have hm : ((ids.length + 1) * n + j) % (ids.length + 1) = j := by
      rw [Nat.mul_add_mod, Nat.mod_eq_of_lt (Nat.lt_succ_of_le hj)]
    rw [roundRobin, hm]
    cases ids[j]? <;> rfl

theorem roundRobin_retried {ids} (hag : s.assignments = [])
    (hor : ∀ t ∈ s.deletions, t.orphan = false) (hi : ∀ o ∈ r.kube.objects, o.id ∈ ids) :
    Retried cfg s capabilities r (roundRobin (.snapshot now s capabilities [] []) ids) := by
  have hrp : ∀ n,
    Repeats s capabilities (roundRobin (.snapshot now s capabilities [] []) ids n) := by
    intro n
    unfold roundRobin
    split
    · trivial
    · exact ⟨rfl, rfl, rfl⟩
  have hsh : ∀ r : Runtime, Shrinks r.kube.objects
      (r.step cfg (.snapshot now s capabilities [] [])).kube.objects := by
    intro r
    refine processSnapshotBody_moves (fun a ha => ?_)
      (fun t ht => processDeletion_shrinks (hor t ht)) (fun _ => finishSnapshot_moves)
      (r.facing [] [])
    rw [hag] at ha
    cases ha
  have hw : ∀ n, ∀ o ∈ (trace (Runtime.step cfg) r
      (roundRobin (.snapshot now s capabilities [] []) ids) n).kube.objects, o.id ∈ ids := by
    refine trace_preserves (P := fun r : Runtime => ∀ o ∈ r.kube.objects, o.id ∈ ids)
      (fun n r h o ho => ?_) hi
    unfold roundRobin at ho
    split at ho
    · exact h o (mem_of_mem_filter ho)
    · obtain ⟨o0, ho0, hid, -⟩ := hsh r o ho
      exact hid ▸ h o0 ho0
  refine ⟨hrp, fun n => ?_, fun n o ho _ => ?_⟩
  · obtain ⟨m, hm, hev⟩ := roundRobin_reaches (.snapshot now s capabilities [] []) ids n ids.length
      (le_refl _)
    rw [getElem?_eq_none (le_refl _)] at hev
    exact ⟨m, hm, now, [], hev⟩
  · obtain ⟨j, hj, hg⟩ := mem_iff_getElem.mp (hw n o ho)
    obtain ⟨m, hm, hev⟩ := roundRobin_reaches (.snapshot now s capabilities [] []) ids n j hj.le
    rw [getElem?_eq_getElem hj, hg] at hev
    exact ⟨m, hm, hev⟩

end

/-! ## Two histories of one deployment -/

namespace OneDeployment

def acceptedRun : List Event := [snapshot 1 (assignment 1 .namespaced "team-a")]

def halfUpdatedRun : List Event :=
  acceptedRun ++ [.snapshot 0 (snapshotOf 2 (assignment 2 .namespaced "team-a")) capabilities
    [.none, .none, .lost] []]

def schedule (r : Runtime) : ℕ → Event :=
  roundRobin (.snapshot 0 deleting capabilities [] []) (r.kube.objects.map (·.id))

theorem schedule_retried {r} : Retried cfg deleting capabilities r (schedule r) :=
  roundRobin_retried rfl (by simp [deleting, tombstone]) fun _ ho => mem_map_of_mem ho

theorem deleting_ready {r : Runtime} (h : r.checkpoint.refuses deleting = false ∧
      (r.checkpoint.accepted deploymentID).map (·.generation) = some 1) :
    Ready cfg capabilities deleting r ∧
      ∀ x, r.checkpoint.accepted tombstone.deploymentID = some x →
        x.generation < tombstone.generation := by
  have hv : validateSnapshot cfg.parsers capabilities cfg.policy deleting = .ok () := by
    decide +kernel
  refine ⟨⟨⟨[], hv, h.1, rfl, rfl, rfl⟩, fun _ ha => nomatch ha⟩, fun x hx => ?_⟩
  have hx : r.checkpoint.accepted deploymentID = some x := hx
  have hg : x.generation = 1 := by simpa [hx] using h.2
  rw [hg]
  decide

end OneDeployment

open OneDeployment in
/-- An accepted generation is removed in the end. -/
theorem acceptedRun_ends : ∃ N, ∀ n, N ≤ n →
      (trace (Runtime.step cfg) (run (Runtime.step cfg) fresh acceptedRun)
          (schedule (run (Runtime.step cfg) fresh acceptedRun)) n).checkpoint.accepted
          deploymentID = none ∧
        NothingLeft deploymentID
          (trace (Runtime.step cfg) (run (Runtime.step cfg) fresh acceptedRun)
            (schedule (run (Runtime.step cfg) fresh acceptedRun)) n).kube.objects := by
  obtain ⟨hr, hn⟩ := deleting_ready (r := run (Runtime.step cfg) fresh acceptedRun)
    (by decide +kernel)
  exact (deletion_ends_iff cfg fresh acceptedRun deleting capabilities tombstone
    (schedule (run (Runtime.step cfg) fresh acceptedRun)) rfl rfl nodup_nil hr mem_cons_self rfl hn
    schedule_retried).mpr (by decide +kernel)

open OneDeployment in
/-- A generation of which the apply failed half way never goes: its tombstone is processed
for ever without a failing call, and the deployment still has an object. -/
theorem halfUpdatedRun_never_ends :
    Ready cfg capabilities deleting (run (Runtime.step cfg) fresh halfUpdatedRun) ∧
      Retried cfg deleting capabilities (run (Runtime.step cfg) fresh halfUpdatedRun)
        (schedule (run (Runtime.step cfg) fresh halfUpdatedRun)) ∧
      (∀ x, (run (Runtime.step cfg) fresh halfUpdatedRun).checkpoint.accepted deploymentID =
        some x → x.generation < tombstone.generation) ∧
      ∀ n, ¬ NothingLeft deploymentID
        (trace (Runtime.step cfg) (run (Runtime.step cfg) fresh halfUpdatedRun)
          (schedule (run (Runtime.step cfg) fresh halfUpdatedRun)) n).kube.objects := by
  have hd : ¬ Deletable deploymentID (run (Runtime.step cfg) fresh halfUpdatedRun) := by
    decide +kernel
  simp only [Deletable, not_forall, exists_prop] at hd
  obtain ⟨o, ho, how, hl, hg⟩ := hd
  obtain ⟨hr, hnew⟩ := deleting_ready (r := run (Runtime.step cfg) fresh halfUpdatedRun)
    (by decide +kernel)
  have hi : UniqueIDs (run (Runtime.step cfg) fresh halfUpdatedRun).kube.objects :=
    run_preserves (P := fun r : Runtime => UniqueIDs r.kube.objects) (fun _ _ h => h.step)
      nodup_nil
  refine ⟨hr, schedule_retried, hnew, fun n hn => ?_⟩
  have hs := schedule_retried.stands hr
    (mem_cons_self : tombstone ∈ deleting.deletions) rfl hi how hl ho hg n
  exact hn o hs how

end Astronomer.Agent
