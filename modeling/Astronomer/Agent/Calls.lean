import Astronomer.Agent.Outcomes

/-!
# Every step is made of calls

A call to the API server reads, or writes one object. What holds of every such call holds
of a whole `processSnapshot`.
-/

namespace Astronomer.Agent

open List Effect
open Delivery (Time)

inductive ApiWrite (os : Objects) : Objects → Prop
  | none : ApiWrite os os
  | put (x : Object) : ApiWrite os (Server.put x.1 x.2 os)
  | edit (i : ObjectIdentity) {f : Stored ObjectIdentity Content → Stored ObjectIdentity Content}
      (hf : ∀ o, (f o).id = o.id) : ApiWrite os (Server.edit i f os)
  | drop (hold : Bool) (i : ObjectIdentity) : ApiWrite os (Server.drop hold i os)

structure OfCalls (R : Kube → Kube → Prop) : Prop where
  refl : ∀ k, R k k
  trans : ∀ k1 k2 k3, R k1 k2 → R k2 k3 → R k1 k3
  call : ∀ {α : Type} (f : Objects → Except Err α × Objects) (broken : Err),
    (∀ os, ApiWrite os (f os).2) → Moves R (Server.call f broken)

namespace OfCalls

variable {R : Kube → Kube → Prop} {cluster : Cluster} {m : Materialization} {d : String}
  {b : Boundary} {i : ObjectIdentity} {cfg : Config} {now : Time}

section

variable (hR : OfCalls R)

include hR

theorem reads (k : Kube) : R k ⟨k.objects, k.faults.tail⟩ := by
  have hc := hR.call (fun os => (.ok (), os)) "" (fun _ => .none) k
  unfold Server.call at hc
  split at hc <;> exact hc

theorem deleteObject {context foreground} : Moves R (deleteObject cluster context foreground i) :=
  hR.call _ _ fun _ => .drop _ i

variable [IsPreorder Kube R]

theorem applyObject {x} : Moves R (applyObject cluster x) := by
  refine Moves.bind Moves.require fun _ => hR.call _ _ fun os => ?_
  split
  · exact .put x
  · exact .none

theorem beginDeletion {t recorded} : Moves R (beginDeletion cluster b t m recorded) := by
  refine beginDeletion_moves (fun _ i => ?_) fun _ _ _ _ _ _ =>
    deletePresent_moves hR.reads hR.deleteObject
  exact Moves.bind Moves.ofExcept fun _ => hR.call _ _ fun _ => .edit i fun _ => rfl

/-! ## The loops and the whole call -/

theorem processAssignment {a} :
    Moves (Order.Preimage Runtime.kube R) (processAssignment cfg now a m) :=
  processAssignment_moves (apply_moves fun _ _ => hR.applyObject) (listAll_moves hR.reads)
    fun _ _ _ => Moves.each fun _ _ => hR.deleteObject

theorem processDeletion {t} : Moves (Order.Preimage Runtime.kube R) (processDeletion cfg now t) :=
  processDeletion_moves fun _ _ => hR.beginDeletion

theorem processSnapshot {s capabilities} :
    Moves (Order.Preimage Runtime.kube R) (processSnapshot cfg now s capabilities) :=
  processSnapshotBody_moves (fun _ _ _ _ => hR.processAssignment)
    (fun _ _ => hR.processDeletion) fun _ => finishSnapshot_moves

end

end OfCalls

/-! ## The two relations -/

theorem ofCalls_faults : OfCalls (Keeps fun k => k.faults = []) where
  refl _ := fun h => h
  trans _ _ _ h h' := fun hk => h' (h hk)
  call f broken _ := by
    intro k hk
    simp only [Server.call, hk, head?_nil, Option.getD_none, tail_nil]

def UniqueIDs (os : Objects) : Prop := (os.map (·.id)).Nodup

variable {os os' : Objects}

theorem UniqueIDs.filter {keep} (h : UniqueIDs os) : UniqueIDs (os.filter keep) :=
  (filter_sublist.map _).nodup h

theorem UniqueIDs.edit {i f} (hf : ∀ o, (f o).id = o.id) (h : UniqueIDs os) :
    UniqueIDs (Server.edit i f os) := by
  have hi : (Server.edit i f os).map (·.id) = os.map (·.id) := by
    rw [Server.edit, map_map]
    refine map_congr_left fun o _ => ?_
    show (if o.id = i then f o else o).id = o.id
    split
    · exact hf o
    · rfl
  rw [UniqueIDs, hi]
  exact h

theorem ApiWrite.uniqueIDs (hw : ApiWrite os os') (h : UniqueIDs os) : UniqueIDs os' := by
  cases hw with
  | none => exact h
  | put x =>
    rw [UniqueIDs, Server.put, map_cons, nodup_cons]
    refine ⟨fun hmem => ?_, h.filter⟩
    obtain ⟨o, ho, hid⟩ := mem_map.mp hmem
    exact of_decide_eq_true (mem_filter.mp ho).2 hid
  | edit i hf => exact h.edit hf
  | drop hold i =>
    cases hold with
    | true => exact h.edit fun _ => rfl
    | false => exact h.filter

theorem ofCalls_uniqueIDs : OfCalls (Keeps fun k => UniqueIDs k.objects) where
  refl _ := fun h => h
  trans _ _ _ h h' := fun hk => h' (h hk)
  call _ _ hf := Server.call_moves (R := Keeps UniqueIDs) fun os => (hf os).uniqueIDs

end Astronomer.Agent
