import Mathlib.Order.Basic

/-!
# Single-use permits

A permit is granted only while the resource is fresh, which it then is not, and using the
resource spends the permit. So the resource is used at most once, whoever loses a permit.
-/

namespace Astronomer

variable {ρ ι : Type*} {fresh fresh' : ρ → Prop} {uses uses' : ρ → Nat}
  {holds holds' : ρ → ι → Prop}

structure SingleUse (fresh : ρ → Prop) (uses : ρ → Nat) (holds : ρ → ι → Prop) : Prop where
  of_fresh : ∀ r, fresh r → uses r = 0 ∧ ∀ i, ¬ holds r i
  of_holds : ∀ r i, holds r i → uses r = 0
  unique : ∀ r i j, holds r i → holds r j → i = j
  once : ∀ r, uses r ≤ 1

namespace SingleUse

theorem mono (h : SingleUse fresh uses holds) (hf : ∀ r, fresh' r → fresh r)
    (hu : ∀ r, uses' r = uses r) (hh : ∀ r i, holds' r i → holds r i) :
    SingleUse fresh' uses' holds' where
  of_fresh r hr := by
    obtain ⟨h0, hn⟩ := h.of_fresh r (hf r hr)
    exact ⟨(hu r).trans h0, fun i hi => hn i (hh r i hi)⟩
  of_holds r i hi := (hu r).trans (h.of_holds r i (hh r i hi))
  unique r i j hi hj := h.unique r i j (hh r i hi) (hh r j hj)
  once r := (hu r).trans_le (h.once r)

theorem grant {q o} (h : SingleUse fresh uses holds) (hq : fresh q)
    (hf : ∀ r, fresh' r → fresh r ∧ r ≠ q) (hu : ∀ r, uses' r = uses r)
    (hh : ∀ r i, holds' r i → holds r i ∨ (r = q ∧ i = o)) :
    SingleUse fresh' uses' holds' where
  of_fresh r hr := by
    obtain ⟨hfr, hne⟩ := hf r hr
    obtain ⟨h0, hn⟩ := h.of_fresh r hfr
    refine ⟨(hu r).trans h0, fun i hi => ?_⟩
    rcases hh r i hi with hi | ⟨hrq, -⟩
    · exact hn i hi
    · exact hne hrq
  of_holds r i hi := by
    rw [hu]
    rcases hh r i hi with hi | ⟨rfl, -⟩
    · exact h.of_holds r i hi
    · exact (h.of_fresh r hq).1
  unique r i j hi hj := by
    -- nobody held a permit for `q` before, so the new holder is its only one
    rcases hh r i hi with hi | ⟨rfl, rfl⟩ <;> rcases hh r j hj with hj | ⟨hr, rfl⟩
    · exact h.unique r i j hi hj
    · exact absurd (hr ▸ hi) ((h.of_fresh q hq).2 i)
    · exact absurd hj ((h.of_fresh r hq).2 j)
    · rfl
  once r := (hu r).trans_le (h.once r)

theorem spend {q o} (h : SingleUse fresh uses holds) (hq : holds q o)
    (hf : ∀ r, fresh' r → fresh r) (hus : uses' q = uses q + 1)
    (hu : ∀ r, r ≠ q → uses' r = uses r)
    (hh : ∀ r i, holds' r i → holds r i ∧ ¬ (r = q ∧ i = o)) :
    SingleUse fresh' uses' holds' where
  of_fresh r hr := by
    obtain ⟨h0, hn⟩ := h.of_fresh r (hf r hr)
    have hne : r ≠ q := by
      rintro rfl
      exact hn o hq
    exact ⟨(hu r hne).trans h0, fun i hi => hn i (hh r i hi).1⟩
  of_holds r i hi := by
    obtain ⟨hi, hne⟩ := hh r i hi
    have hrq : r ≠ q := by
      rintro rfl
      exact hne ⟨rfl, h.unique r i o hi hq⟩
    exact (hu r hrq).trans (h.of_holds r i hi)
  unique r i j hi hj := h.unique r i j (hh r i hi).1 (hh r j hj).1
  once r := by
    by_cases hrq : r = q
    · simp [hrq, hus, h.of_holds q o hq]
    · exact (hu r hrq).trans_le (h.once r)

end SingleUse

end Astronomer
