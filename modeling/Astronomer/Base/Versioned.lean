import Mathlib

/-!
# Copies tagged with a generation

A reader keeps a copy with the generation it saw it at, and uses it while the generation has
not moved. That is sound when every step that keeps the generation keeps the view the copies
are made of (`Ages`).
-/

namespace Astronomer

variable {σ ν α γ : Type*} [PartialOrder γ] {gen : σ → γ} {view : σ → ν} {Q : ν → α → Prop}
  {s s' s'' : σ} {g : γ} {x : α}

def Ages (gen : σ → γ) (view : σ → ν) (s s' : σ) : Prop :=
  gen s < gen s' ∨ gen s' = gen s ∧ view s' = view s

/-- A copy `x` made at generation `g`: not from the future, and right about the view if
the generation is still the same. -/
def Current (gen : σ → γ) (view : σ → ν) (Q : ν → α → Prop) (s : σ) (g : γ) (x : α) : Prop :=
  g ≤ gen s ∧ (g = gen s → Q (view s) x)

theorem Ages.refl : Ages gen view s s := .inr ⟨rfl, rfl⟩

theorem Ages.trans (h : Ages gen view s s') (h' : Ages gen view s' s'') :
    Ages gen view s s'' := by
  rcases h with h | ⟨heq, hv⟩ <;> rcases h' with h' | ⟨heq', hv'⟩
  · exact .inl (h.trans h')
  · exact .inl (heq' ▸ h)
  · exact .inl (heq ▸ h')
  · exact .inr ⟨heq'.trans heq, hv'.trans hv⟩

theorem Ages.le (h : Ages gen view s s') : gen s ≤ gen s' := by
  rcases h with h | ⟨h, -⟩
  · exact h.le
  · exact h.ge

theorem Current.now (h : Q (view s) x) : Current gen view Q s (gen s) x := ⟨le_rfl, fun _ => h⟩

theorem Current.of_ages (h : Current gen view Q s g x) (ha : Ages gen view s s') :
    Current gen view Q s' g x := by
  obtain ⟨hle, hr⟩ := h
  rcases ha with hlt | ⟨heq, hv⟩
  · exact ⟨hle.trans hlt.le, fun hg => absurd hg (hle.trans_lt hlt).ne⟩
  · exact ⟨heq ▸ hle, fun hg => hv ▸ hr (hg.trans heq)⟩

end Astronomer
