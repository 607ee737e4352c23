import Mathlib.Data.Set.Basic

/-!
# Recurring instants

A schedule is a set of instants that is read through `next`: the least instant after a
given one. An interval that opens at every instant and stays open for a duration `d` is
open at `t` when some instant lies in `(t - d, t]`, and one look at `next` decides it.
-/

namespace Astronomer

structure Schedule where
  fires : Set Int
  next : Int → Option Int
  next_eq_some : ∀ {t u}, next t = some u → u ∈ fires ∧ t < u ∧ ∀ v ∈ fires, t < v → u ≤ v
  next_eq_none : ∀ {t}, next t = none → ∀ v ∈ fires, v ≤ t

namespace Schedule

variable {s : Schedule} {t u d : Int}

theorem isSome_next_iff : (s.next t).isSome ↔ ∃ u ∈ s.fires, t < u := by
  cases h : s.next t with
  | none => simpa using s.next_eq_none h
  | some u =>
    obtain ⟨hf, hlt, -⟩ := s.next_eq_some h
    simpa using ⟨u, hf, hlt⟩

def openAt (s : Schedule) (d t : Int) : Bool := (s.next (t - d)).any fun u => decide (u ≤ t)

theorem openAt_iff : s.openAt d t ↔ ∃ u ∈ s.fires, t - d < u ∧ u ≤ t := by
  unfold openAt
  cases h : s.next (t - d) with
  | none =>
    have hl := s.next_eq_none h
    simp only [Option.any_none, Bool.false_eq_true, false_iff, not_exists, not_and, not_le]
    intro v hv hlt
    exact absurd (hl v hv) (not_le.mpr hlt)
  | some u =>
    obtain ⟨hf, hlt, hla⟩ := s.next_eq_some h
    simp only [Option.any_some, decide_eq_true_eq]
    constructor
    · exact fun hle => ⟨u, hf, hlt, hle⟩
    · rintro ⟨v, hv, hlv, hle⟩
      exact (hla v hv hlv).trans hle

theorem openAt_next (hd : 0 < d) (h : s.next t = some u) : s.openAt d u := by
  obtain ⟨hf, -, -⟩ := s.next_eq_some h
  exact openAt_iff.mpr ⟨u, hf, by omega, le_refl u⟩

def lastUpTo (s : Schedule) (t cursor : Int) (last : Option Int) : Option Int :=
  match _h : s.next cursor with
  | none => last
  | some u => if u ≤ t then s.lastUpTo t u (some u) else last
termination_by (t - cursor).toNat
decreasing_by
  have hlt := (s.next_eq_some _h).2.1
  omega

/-- The walk from the cursor ends at the last instant up to `t`, if it meets one. -/
theorem lastUpTo_cases (s : Schedule) (t cursor : Int) (last : Option Int) :
    (s.lastUpTo t cursor last = last ∧ ∀ v ∈ s.fires, cursor < v → t < v) ∨
      ∃ u ∈ s.fires, cursor < u ∧ u ≤ t ∧ s.lastUpTo t cursor last = some u ∧
        ∀ v ∈ s.fires, v ≤ t → v ≤ u := by
  fun_induction lastUpTo s t cursor last with
  | case1 cursor last hn =>
    have hle := s.next_eq_none hn
    exact .inl ⟨rfl, fun v hv hlt => absurd (hle v hv) (not_le.mpr hlt)⟩
  | case2 cursor last w hw hle ih =>
    obtain ⟨hf, hlt, hl⟩ := s.next_eq_some hw
    rcases ih with ⟨heq, hn⟩ | ⟨u, hu, hwu, hut, heq, hm⟩
    · refine .inr ⟨w, hf, hlt, hle, heq, fun v hv hvt => ?_⟩
      by_contra hwv
      have := hn v hv (not_le.mp hwv)
      omega
    · exact .inr ⟨u, hu, hlt.trans hwu, hut, heq, hm⟩
  | case3 cursor last w hw hgt =>
    obtain ⟨-, -, hl⟩ := s.next_eq_some hw
    exact .inl ⟨rfl, fun v hv hlt => (not_le.mp hgt).trans_le (hl v hv hlt)⟩

end Schedule

end Astronomer
