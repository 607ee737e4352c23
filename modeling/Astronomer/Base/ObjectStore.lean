import Astronomer.Base.Effect

/-!
# A remote object store

An apply replaces what stands under an identity. A delete takes the object away, unless a
controller still holds it: then it is marked as `deleting`. Any call can fail, before or
after the server has carried it out; which ones do is a script of `Fault`s.
-/

namespace Astronomer

open List

inductive Fault where
  | none
  | lost
  | applied
  deriving DecidableEq

structure Stored (ι γ : Type) where
  id : ι
  content : γ
  deleting : Bool

/-- The objects on the server and the fate of the calls to come; a script that has
run out is one of calls that succeed. -/
structure Server (ι γ : Type) where
  objects : List (Stored ι γ)
  faults : List Fault := []

namespace Server

variable {ι γ ε α : Type} {s s' : Server ι γ}

def call (f : List (Stored ι γ) → Except ε α × List (Stored ι γ)) (broken : ε) :
    Effect (Server ι γ) ε α := fun s =>
  match s.faults.head?.getD .none with
  | .none => ((f s.objects).1, ⟨(f s.objects).2, s.faults.tail⟩)
  | .lost => (.error broken, ⟨s.objects, s.faults.tail⟩)
  | .applied => (.error broken, ⟨(f s.objects).2, s.faults.tail⟩)

theorem call_eq_ok {f : List (Stored ι γ) → Except ε α × List (Stored ι γ)} {broken : ε} {a : α}
    (h : call f broken s = (.ok a, s')) :
    (f s.objects).1 = .ok a ∧ s'.objects = (f s.objects).2 := by
  unfold call at h
  split at h
  · obtain ⟨hok, rfl⟩ := Prod.mk.inj h
    exact ⟨hok, rfl⟩
  · simp at h
  · simp at h

theorem call_moves {R : List (Stored ι γ) → List (Stored ι γ) → Prop} [IsPreorder _ R]
    {f : List (Stored ι γ) → Except ε α × List (Stored ι γ)} {broken : ε}
    (hf : ∀ os, R os (f os).2) : (call f broken).Moves (Order.Preimage objects R) := by
  intro s
  unfold call
  split
  · exact hf _
  · exact refl _
  · exact hf _

theorem call_moves_of_reads {R : Server ι γ → Server ι γ → Prop}
    {f : List (Stored ι γ) → Except ε α × List (Stored ι γ)} {broken : ε}
    (hr : ∀ s : Server ι γ, R s ⟨s.objects, s.faults.tail⟩) (hf : ∀ os, (f os).2 = os) :
    (call f broken).Moves R := by
  intro s
  unfold call
  split <;> simp only [hf] <;> exact hr s

/-! ## Apply and delete -/

variable [DecidableEq ι] {id : ι} {c : γ} {os : List (Stored ι γ)} {o : Stored ι γ} {hold : Bool}

def find? (id : ι) (os : List (Stored ι γ)) : Option (Stored ι γ) := os.find? (·.id = id)

def put (id : ι) (c : γ) (os : List (Stored ι γ)) : List (Stored ι γ) :=
  ⟨id, c, os.any fun o => decide (o.id = id) && o.deleting⟩ :: os.filter (·.id ≠ id)

def edit (id : ι) (f : Stored ι γ → Stored ι γ) (os : List (Stored ι γ)) :
    List (Stored ι γ) :=
  os.map fun o => if o.id = id then f o else o

def drop (hold : Bool) (id : ι) (os : List (Stored ι γ)) : List (Stored ι γ) :=
  if hold then edit id ({ · with deleting := true }) os else os.filter (·.id ≠ id)

theorem find?_eq_some (h : find? id os = some o) : o ∈ os ∧ o.id = id := by
  have hid := find?_some h
  exact ⟨mem_of_find?_eq_some h, of_decide_eq_true hid⟩

theorem isSome_find?_iff : (find? id os).isSome ↔ ∃ o ∈ os, o.id = id := by
  simp [find?, find?_isSome]

theorem mem_put : o ∈ put id c os ↔
      o = ⟨id, c, os.any fun o => decide (o.id = id) && o.deleting⟩ ∨ (o ∈ os ∧ o.id ≠ id) := by
  simp [put]

theorem mem_put_of_ne (h : o.id ≠ id) : o ∈ put id c os ↔ o ∈ os := by
  rw [mem_put]
  constructor
  · rintro (rfl | ⟨ho, -⟩)
    · exact absurd rfl h
    · exact ho
  · exact fun ho => .inr ⟨ho, h⟩

theorem mem_edit_of_ne {f} (hf : ∀ o, (f o).id = o.id) (h : o.id ≠ id) :
    o ∈ edit id f os ↔ o ∈ os := by
  simp only [edit, mem_map]
  constructor
  · rintro ⟨o', ho', rfl⟩
    by_cases hid : o'.id = id
    · rw [if_pos hid, hf] at h
      exact absurd hid h
    · rwa [if_neg hid]
  · exact fun ho => ⟨o, ho, if_neg h⟩

theorem mem_drop_of_ne (h : o.id ≠ id) : o ∈ drop hold id os ↔ o ∈ os := by
  unfold drop
  split
  · exact mem_edit_of_ne (fun _ => rfl) h
  · simp [h]

theorem ne_of_mem_drop (h : o ∈ drop hold id os) (hl : hold → o.deleting = false) :
    o.id ≠ id := by
  unfold drop at h
  split at h
  · simp only [edit, mem_map] at h
    obtain ⟨o', -, rfl⟩ := h
    by_cases hid : o'.id = id
    · rw [if_pos hid] at hl
      cases hl ‹_›
    · rwa [if_neg hid]
  · simpa using (mem_filter.mp h).2

/-! ## Many applies, many deletes -/

def putAll (cs : List (ι × γ)) (os : List (Stored ι γ)) : List (Stored ι γ) :=
  cs.foldl (fun os p => put p.1 p.2 os) os

def dropAll (hold : ι → Bool) (ids : List ι) (os : List (Stored ι γ)) : List (Stored ι γ) :=
  ids.foldl (fun os id => drop (hold id) id os) os

theorem mem_putAll_of_ne {cs} (h : ∀ p ∈ cs, o.id ≠ p.1) :
    o ∈ putAll cs os ↔ o ∈ os := by
  induction cs generalizing os with
  | nil => rfl
  | cons p cs ih =>
    show o ∈ putAll cs (put p.1 p.2 os) ↔ _
    rw [ih fun q hq => h q (mem_cons_of_mem _ hq), mem_put_of_ne (h p mem_cons_self)]

theorem exists_mem_putAll {cs : List (ι × γ)} (hnd : (cs.map Prod.fst).Nodup)
    (hc : (id, c) ∈ cs) : ∃ o ∈ putAll cs os, o.id = id ∧ o.content = c := by
  induction cs generalizing os with
  | nil => cases hc
  | cons p cs ih =>
    simp only [map_cons, nodup_cons] at hnd
    rcases mem_cons.mp hc with rfl | hc
    · -- nothing applied after it stands under its identity
      obtain ⟨o, ho, hid, hct⟩ : ∃ o ∈ put id c os, o.id = id ∧ o.content = c :=
        ⟨_, mem_cons_self, rfl, rfl⟩
      refine ⟨o, ?_, hid, hct⟩
      show o ∈ putAll cs (put id c os)
      refine (mem_putAll_of_ne fun q hq heq => hnd.1 ?_).mpr ho
      exact mem_map.mpr ⟨q, hq, heq.symm.trans hid⟩
    · exact ih hnd.2 hc

theorem content_of_mem_putAll {cs : List (ι × γ)} (hnd : (cs.map Prod.fst).Nodup)
    (h : o ∈ putAll cs os) (hid : o.id ∈ cs.map Prod.fst) : (o.id, o.content) ∈ cs := by
  induction cs generalizing os with
  | nil => cases hid
  | cons p cs ih =>
    simp only [map_cons, nodup_cons] at hnd
    by_cases ht : o.id ∈ cs.map Prod.fst
    · exact mem_cons_of_mem _ (ih hnd.2 h ht)
    · have hmem : o ∈ put p.1 p.2 os :=
        (mem_putAll_of_ne fun q hq hid => ht (hid ▸ mem_map_of_mem hq)).mp h
      have heq : o.id = p.1 := by simpa [ht] using hid
      rcases mem_put.mp hmem with rfl | ⟨-, hne⟩
      · exact mem_cons_self
      · exact absurd heq hne

theorem mem_dropAll_of_notMem {holds ids} (h : o.id ∉ ids) :
    o ∈ dropAll holds ids os ↔ o ∈ os := by
  induction ids generalizing os with
  | nil => rfl
  | cons id ids ih =>
    simp only [mem_cons, not_or] at h
    show o ∈ dropAll holds ids (drop (holds id) id os) ↔ _
    rw [ih h.2, mem_drop_of_ne h.1]

theorem notMem_of_mem_dropAll {holds ids} (h : o ∈ dropAll holds ids os)
    (hl : holds o.id → o.deleting = false) : o.id ∉ ids := by
  induction ids generalizing os with
  | nil => exact not_mem_nil
  | cons id ids ih =>
    have ht := ih h
    simp only [mem_cons, not_or]
    refine ⟨fun hid => ?_, ht⟩
    exact ne_of_mem_drop ((mem_dropAll_of_notMem ht).mp h) (fun hh => hl (hid ▸ hh)) hid

end Server

end Astronomer
