import Astronomer.Base.Drain
import Astronomer.Agent.Removal

/-!
# One deletion

`BeginDeletion` deletes the recorded objects, reconcilers first, while their annotations are
those of the accepted generation. However its calls end, it only takes away, and never what
its fence protects.
-/

namespace Astronomer.Agent

open List

variable {context : String} {foreground : Bool} {ids recorded : List ObjectIdentity}
  {x : AcceptedAssignment}

open Effect
open Delivery (Time)

section

variable {cfg : Config} {cluster : Cluster} {now : Time} {m : Materialization} {t : Deletion}
  {r r' : Runtime} {k k' : Kube} {b : Boundary} {i : ObjectIdentity} {os os' : Objects}
  {o : Stored ObjectIdentity Content} {c : Checkpoint}

/-! ## One deletion, with no call failing -/

theorem existsWithFence_fenced (hfa : k.faults = [])
    (hfc : ∀ o ∈ k.objects, o.id = i → Fenced b o.content) :
    existsWithFence b i k = (.ok (Server.find? i k.objects).isSome, k) := by
  obtain ⟨os, faults⟩ := k
  obtain rfl : faults = [] := hfa
  have hc : (Server.call (fun os => (.ok (Server.find? i os), os))
      (apiFailure ("read deletion candidate " ++ i.text)) : Effect Kube Err _) ⟨os, []⟩ =
      (.ok (Server.find? i os), ⟨os, []⟩) := rfl
  rw [existsWithFence, bind_apply_ok hc]
  cases hf : Server.find? i os with
  | none => rfl
  | some o =>
    obtain ⟨hmem, hid⟩ := Server.find?_eq_some hf
    exact bind_require (hfc o hmem hid)

theorem deleteObject_ok (hfa : k.faults = []) : deleteObject cluster context foreground i k =
      (.ok (), ⟨Server.drop (foreground || cluster.finalized i) i k.objects, []⟩) := by
  obtain ⟨os, faults⟩ := k
  obtain rfl : faults = [] := hfa
  rfl

/-- What one stage has done when no call failed: everything it was given is marked or
gone, and it says whether anything was there. -/
structure Staged (ids : List ObjectIdentity) (k : Kube) (present : Bool) (k' : Kube) : Prop where
  faults : k'.faults = []
  shrinks : Shrinks k.objects k'.objects
  marked : ∀ o ∈ k'.objects, o.id ∈ ids → o.deleting
  found : present → ∃ o ∈ k.objects, o.id ∈ ids
  kept : present = false → k' = k

theorem deleteStage_fenced (cluster : Cluster) (context : String) (foreground : Bool)
    (hfa : k.faults = [])
    (hfc : ∀ o ∈ k.objects, o.id ∈ ids → Fenced b o.content) :
    ∃ present k', deleteStage cluster b context foreground ids k = (.ok present, k') ∧
      Staged ids k present k' := by
  induction ids generalizing k with
  | nil =>
    refine ⟨false, k, rfl, hfa, Shrinks.refl _, fun _ _ h => ?_, fun h => ?_, fun _ => rfl⟩
    · cases h
    · cases h
  | cons i ids ih =>
    have he := existsWithFence_fenced (b := b) (i := i) hfa
      fun o ho hid => hfc o ho (hid ▸ mem_cons_self)
    cases hf : (Server.find? i k.objects).isSome with
    | false =>
      rw [hf] at he
      have ha : ∀ o ∈ k.objects, o.id ≠ i := by
        intro o ho hid
        rw [Server.isSome_find?_iff.mpr ⟨o, ho, hid⟩] at hf
        cases hf
      have hon : deletePresent cluster b context foreground i k = (.ok false, k) := by
        rw [deletePresent, bind_apply_ok he]
        rfl
      obtain ⟨present, k', hrest, hs⟩ :=
        ih hfa fun o ho hid => hfc o ho (mem_cons_of_mem _ hid)
      refine ⟨present, k', ?_, hs.faults, hs.shrinks, fun o ho hid => ?_, fun hp => ?_, hs.kept⟩
      · rw [deleteStage, bind_apply_ok hon, bind_apply_ok hrest]
        rfl
      · rcases mem_cons.mp hid with hid | hid
        · obtain ⟨o0, ho0, hid0, -⟩ := hs.shrinks o ho
          exact absurd (hid0.trans hid) (ha o0 ho0)
        · exact hs.marked o ho hid
      · obtain ⟨o, ho, hid⟩ := hs.found hp
        exact ⟨o, ho, mem_cons_of_mem _ hid⟩
    | true =>
      rw [hf] at he
      obtain ⟨o1, ho1, hid1⟩ := Server.isSome_find?_iff.mp hf
      have hon : deletePresent cluster b context foreground i k =
          (.ok true, ⟨Server.drop (foreground || cluster.finalized i) i k.objects, []⟩) := by
        rw [deletePresent, bind_apply_ok he, if_pos rfl, bind_apply_ok (deleteObject_ok hfa)]
        rfl
      have hd : Shrinks k.objects (Server.drop (foreground || cluster.finalized i) i k.objects) :=
        Shrinks.drop _ i
      obtain ⟨present, k', hrest, hs⟩ := ih
        (k := ⟨Server.drop (foreground || cluster.finalized i) i k.objects, []⟩) rfl
        fun o ho hid => by
          obtain ⟨o0, ho0, hid0, hc0, -⟩ := hd o ho
          rw [← hc0]
          exact hfc o0 ho0 (hid0 ▸ mem_cons_of_mem _ hid)
      refine ⟨true, k', ?_, hs.faults, hd.trans hs.shrinks, fun o ho hid => ?_,
        fun _ => ⟨o1, ho1, hid1 ▸ mem_cons_self⟩, nofun⟩
      · rw [deleteStage, bind_apply_ok hon, bind_apply_ok hrest]
        rfl
      · rcases mem_cons.mp hid with hid | hid
        · -- what the delete has left under the identity is marked, and stays so
          obtain ⟨o0, ho0, hid0, -, hm⟩ := hs.shrinks o ho
          refine hm (Bool.eq_true_of_not_eq_false fun hl => ?_)
          exact Server.ne_of_mem_drop ho0 (fun _ => hl) (hid0.trans hid)
        · exact hs.marked o ho hid

def AcceptedAssignment.Prunable (x : AcceptedAssignment) : Prop :=
  ∀ i ∈ x.objects, i.kind ≠ .namespaceKind →
    validatePruneIdentity x.boundary x.materialization i = .ok ()

/-- One deletion with no call failing: reconcilers are marked first; when they are gone,
everything else is; when nothing is left, it says so. -/
structure DeletionTurn (x : AcceptedAssignment) (k : Kube) (done : Bool) (k' : Kube) : Prop where
  shrinks : Shrinks k.objects k'.objects
  reconcilers : ∀ o ∈ k'.objects, o.id ∈ x.objects → o.id.kind.isReconciler →
    o.deleting
  others : (∀ o ∈ k.objects, o.id ∈ x.objects → o.id.kind.isReconciler = false) →
    ∀ o ∈ k'.objects, o.id ∈ x.objects → o.id.kind ≠ .namespaceKind → o.deleting
  complete : (∀ o ∈ k.objects, o.id ∈ x.objects → o.id.kind = .namespaceKind) → done

theorem isReconciler_ne_namespace {kind : ResourceKind} (h : kind.isReconciler) :
    kind ≠ .namespaceKind := by
  rintro rfl
  cases h

def reconcilerIDs (recorded : List ObjectIdentity) : List ObjectIdentity :=
  ((sortDeleteOrder recorded).filter (·.kind ≠ .namespaceKind)).filter (·.kind.isReconciler)

def otherIDs (recorded : List ObjectIdentity) : List ObjectIdentity :=
  ((sortDeleteOrder recorded).filter (·.kind ≠ .namespaceKind)).filter (!·.kind.isReconciler)

theorem mem_reconcilerIDs :
    i ∈ reconcilerIDs recorded ↔ i ∈ recorded ∧ i.kind.isReconciler := by
  simp only [reconcilerIDs, mem_filter, mem_sortDeleteOrder, decide_eq_true_iff]
  exact ⟨fun h => ⟨h.1.1, h.2⟩, fun h => ⟨⟨h.1, isReconciler_ne_namespace h.2⟩, h.2⟩⟩

theorem mem_otherIDs : i ∈ otherIDs recorded ↔
      i ∈ recorded ∧ i.kind ≠ .namespaceKind ∧ i.kind.isReconciler = false := by
  simp only [otherIDs, mem_filter, mem_sortDeleteOrder, decide_eq_true_iff,
    Bool.not_eq_true', and_assoc]

theorem beginDeletion_of_stages (ho : t.orphan = false)
    (hb : validateDeletionBoundary x.boundary t = .ok ()) (hp : x.Prunable) :
    beginDeletion cluster x.boundary t x.materialization x.objects k =
      (deleteStage cluster x.boundary "delete reconciler " true (reconcilerIDs x.objects) >>=
        fun reconcilerPresent =>
          if reconcilerPresent then pure false
          else deleteStage cluster x.boundary "delete " false (otherIDs x.objects) >>=
            fun remaining => pure (!remaining)) k := by
  have hc : Effect.each (fun i => ofExcept (validatePruneIdentity x.boundary x.materialization i))
      ((sortDeleteOrder x.objects).filter (·.kind ≠ .namespaceKind)) k = (.ok (), k) := by
    refine each_check.mpr ⟨rfl, fun i hi => ?_⟩
    obtain ⟨hi, hk⟩ := mem_filter.mp hi
    exact hp i (mem_sortDeleteOrder.mp hi) (of_decide_eq_true hk)
  rw [beginDeletion, bind_ofExcept hb, if_neg (by rw [ho]; decide)]
  exact bind_apply_ok hc

theorem beginDeletion_fenced (cluster : Cluster) (hor : t.orphan = false)
    (hb : validateDeletionBoundary x.boundary t = .ok ()) (hp : x.Prunable)
    (hfa : k.faults = [])
    (hfc : ∀ o ∈ k.objects, o.id ∈ x.objects → o.id.kind ≠ .namespaceKind →
      Fenced x.boundary o.content) :
    ∃ done k', beginDeletion cluster x.boundary t x.materialization x.objects k = (.ok done, k') ∧
      DeletionTurn x k done k' := by
  rw [beginDeletion_of_stages hor hb hp]
  obtain ⟨present, k1, hf, hs⟩ := deleteStage_fenced cluster "delete reconciler " true
    hfa fun o ho hid => hfc o ho (mem_reconcilerIDs.mp hid).1
      (isReconciler_ne_namespace (mem_reconcilerIDs.mp hid).2)
  cases present with
  | true =>
    -- a reconciler is there: it is marked, and the rest waits
    obtain ⟨o1, ho1, hid1⟩ := hs.found rfl
    obtain ⟨hid1, hk1⟩ := mem_reconcilerIDs.mp hid1
    refine ⟨false, k1, by rw [bind_apply_ok hf]; rfl, hs.shrinks,
      fun o ho hid hk => hs.marked o ho (mem_reconcilerIDs.mpr ⟨hid, hk⟩), fun hn => ?_,
      fun hg => ?_⟩
    · rw [hn o1 ho1 hid1] at hk1
      cases hk1
    · exact absurd (hg o1 ho1 hid1) (isReconciler_ne_namespace hk1)
  | false =>
    obtain rfl := hs.kept rfl
    obtain ⟨remaining, k2, hsc, hs2⟩ := deleteStage_fenced cluster "delete " false
      hfa fun o ho hid => hfc o ho (mem_otherIDs.mp hid).1 (mem_otherIDs.mp hid).2.1
    have hmr : ∀ o ∈ k2.objects, o.id ∈ x.objects → o.id.kind.isReconciler →
        o.deleting := by
      intro o ho hid hk
      obtain ⟨o0, ho0, hid0, -, hm⟩ := hs2.shrinks o ho
      exact hm (hs.marked o0 ho0 (hid0 ▸ mem_reconcilerIDs.mpr ⟨hid, hk⟩))
    refine ⟨!remaining, k2, ?_, hs2.shrinks, hmr, fun _ o ho hid hk => ?_, fun hg => ?_⟩
    · rw [bind_apply_ok hf, if_neg (by decide), bind_apply_ok hsc]
      rfl
    · cases hi : o.id.kind.isReconciler with
      | true => exact hmr o ho hid hi
      | false => exact hs2.marked o ho (mem_otherIDs.mpr ⟨hid, hk, hi⟩)
    · cases remaining with
      | false => rfl
      | true =>
        obtain ⟨o1, ho1, hid1⟩ := hs2.found rfl
        obtain ⟨hid1, hk1, -⟩ := mem_otherIDs.mp hid1
        exact absurd (hg o1 ho1 hid1) hk1

/-! ## One deletion, however its calls end -/

instance : IsPreorder Objects Shrinks where
  refl := Shrinks.refl
  trans _ _ _ h h' := h.trans h'

theorem processDeletion_shrinks (ho : t.orphan = false) :
    Moves (Order.Preimage Runtime.kube (Order.Preimage Server.objects Shrinks))
      (processDeletion cfg now t) := by
  refine processDeletion_moves fun x _ => beginDeletion_moves (fun h => ?_) fun _ i _ _ _ _ => ?_
  · rw [ho] at h
    cases h
  · exact deletePresent_moves (fun _ => Shrinks.refl _)
      (Server.call_moves fun _ => Shrinks.drop _ i)

def Stands (o : Stored ObjectIdentity Content) (k : Kube) : Prop :=
  UniqueIDs k.objects ∧ o ∈ k.objects

theorem deletePresent_stands (hu : o.id = i → Fenced b o.content = false) :
    Moves (Keeps (Stands o)) (deletePresent cluster b context foreground i) := by
  have hrd : Moves (Keeps (Stands o)) (existsWithFence b i) := existsWithFence_moves fun _ h => h
  refine Moves.bind_of_ok hrd fun present k k' hr => ?_
  cases present with
  | false => exact fun h => h
  | true =>
    intro hst
    obtain ⟨hs, hp, hfc⟩ := existsWithFence_eq_ok hr
    have hne : o.id ≠ i := by
      rintro rfl
      -- the object that was found is the one under its identity
      obtain ⟨o1, hf⟩ := Option.isSome_iff_exists.mp hp.symm
      obtain ⟨ho1, hid1⟩ := Server.find?_eq_some hf
      obtain rfl := inj_on_of_nodup_map hst.1 (hs ▸ ho1) hst.2 hid1
      exact absurd (hfc _ hf) (by rw [hu rfl]; decide)
    refine Moves.bind (R := Keeps (Stands o)) (fun k hk => ?_) (fun _ => Moves.pure) k' hst
    refine ⟨ofCalls_uniqueIDs.deleteObject k hk.1, ?_⟩
    exact Server.call_moves (R := Keeps (o ∈ ·))
      (fun os ho => (Server.mem_drop_of_ne hne).mpr ho) k hk.2

theorem beginDeletion_stands (ho : t.orphan = false)
    (hu : o.id ∈ x.objects → Fenced x.boundary o.content = false) :
    Moves (Keeps (Stands o))
      (beginDeletion cluster x.boundary t x.materialization x.objects) := by
  refine beginDeletion_moves (fun h => ?_) fun _ i hi _ _ _ => ?_
  · rw [ho] at h
    cases h
  · exact deletePresent_stands fun hid => hu (hid ▸ hi)

end

end Astronomer.Agent
