import Mathlib.Order.Filter.AtTopBot.Basic
import Mathlib.Order.Filter.Finite
import Astronomer.Base.ObjectStore

/-!
# Infinite runs, and objects that are only taken away

Along an infinite run a part of an object store may be draining: nothing new appears there,
contents do not change, and what is marked for deletion is let go of some time later.
-/

namespace Astronomer

/-! ## Infinite runs -/

section Trace

variable {σ ε : Type*} {step : σ → ε → σ} {s : σ} {ev : ℕ → ε}

def trace (step : σ → ε → σ) (s : σ) (ev : ℕ → ε) : ℕ → σ
  | 0 => s
  | n + 1 => step (trace step s ev n) (ev n)

theorem trace_preserves {P : σ → Prop} (hstep : ∀ n s, P s → P (step s (ev n))) (h0 : P s)
    (n : ℕ) : P (trace step s ev n) := by
  induction n with
  | zero => exact h0
  | succ n ih => exact hstep n _ ih

end Trace

/-! ## Draining -/

section Drain

variable {ι γ : Type} {os os' os'' : List (Stored ι γ)} {o : Stored ι γ}

def Shrinks (os os' : List (Stored ι γ)) : Prop :=
  ∀ o' ∈ os', ∃ o ∈ os, o.id = o'.id ∧ o.content = o'.content ∧
    (o.deleting → o'.deleting)

theorem Shrinks.refl (os : List (Stored ι γ)) : Shrinks os os :=
  fun o ho => ⟨o, ho, rfl, rfl, fun h => h⟩

theorem Shrinks.trans (h : Shrinks os os') (h' : Shrinks os' os'') : Shrinks os os'' := by
  intro o'' ho''
  obtain ⟨o', ho', hid', hc', hm'⟩ := h' o'' ho''
  obtain ⟨o, ho, hid, hc, hm⟩ := h o' ho'
  exact ⟨o, ho, hid.trans hid', hc.trans hc', fun h => hm' (hm h)⟩

theorem Shrinks.of_subset (h : ∀ o ∈ os', o ∈ os) : Shrinks os os' :=
  fun o ho => ⟨o, h o ho, rfl, rfl, fun h => h⟩

theorem Shrinks.drop [DecidableEq ι] (hold : Bool) (id : ι) :
    Shrinks os (Server.drop hold id os) := by
  intro o' ho'
  cases hold with
  | true =>
    obtain ⟨o, ho, rfl⟩ := List.mem_map.mp ho'
    refine ⟨o, ho, ?_⟩
    split
    · exact ⟨rfl, rfl, fun _ => rfl⟩
    · exact ⟨rfl, rfl, fun h => h⟩
  | false => exact ⟨o', List.mem_of_mem_filter ho', rfl, rfl, fun h => h⟩

structure Draining (os : ℕ → List (Stored ι γ)) : Prop where
  shrinks : ∀ n, Shrinks (os n) (os (n + 1))
  lets_go : ∀ n, ∀ o ∈ os n, o.deleting →
    ∃ m, n ≤ m ∧ ∀ o' ∈ os (m + 1), o'.id = o.id → o'.deleting = false

variable {pool : ℕ → List (Stored ι γ)}

theorem Draining.shrinks_of_le (h : Draining pool) {n m} (hnm : n ≤ m) :
    Shrinks (pool n) (pool m) := by
  induction m, hnm using Nat.le_induction with
  | base => exact Shrinks.refl _
  | succ m _ ih => exact ih.trans (h.shrinks m)

theorem Draining.eventually (h : Draining pool) {N} {G : ι → γ → Prop}
    (hl : ∀ n, N ≤ n → ∀ o ∈ pool n, o.deleting = false → G o.id o.content) :
    ∃ M, N ≤ M ∧ ∀ n, M ≤ n → ∀ o ∈ pool n, G o.id o.content := by
  -- for each object that is there at `N`, what stands under its identity
  have hon : ∀ o ∈ pool N, ∀ᶠ n in Filter.atTop, ∀ o' ∈ pool n, o'.id = o.id →
      G o'.id o'.content := by
    intro o ho
    obtain ⟨K, hNK, hK⟩ : ∃ K, N ≤ K ∧ ∀ o' ∈ pool K, o'.id = o.id → G o'.id o'.content := by
      by_cases hmr : ∃ o' ∈ pool N, o'.id = o.id ∧ o'.deleting
      · obtain ⟨o', ho', hid, hd⟩ := hmr
        obtain ⟨m, hm, hg⟩ := h.lets_go N o' ho' hd
        refine ⟨m + 1, hm.trans (Nat.le_succ m), fun o1 ho1 hid1 => ?_⟩
        exact hl (m + 1) (hm.trans (Nat.le_succ m)) o1 ho1 (hg o1 ho1 (hid1.trans hid.symm))
      · refine ⟨N, le_refl N, fun o' ho' hid => hl N (le_refl N) o' ho' ?_⟩
        exact Bool.eq_false_iff.mpr fun hd => hmr ⟨o', ho', hid, hd⟩
    refine Filter.eventually_atTop.mpr ⟨K, fun n hn o' ho' hid => ?_⟩
    obtain ⟨o1, ho1, hid1, hc1, -⟩ := h.shrinks_of_le hn o' ho'
    rw [← hid1, ← hc1]
    exact hK o1 ho1 (hid1.trans hid)
  have ha := (Filter.eventually_all_finite (List.finite_toSet (pool N))).mpr hon
  obtain ⟨M, hM⟩ := Filter.eventually_atTop.mp ha
  refine ⟨max M N, le_max_right M N, fun n hn o ho => ?_⟩
  obtain ⟨o0, ho0, hid, -⟩ := h.shrinks_of_le ((le_max_right M N).trans hn) o ho
  exact hM n ((le_max_left M N).trans hn) o0 ho0 o ho hid.symm

end Drain

end Astronomer
