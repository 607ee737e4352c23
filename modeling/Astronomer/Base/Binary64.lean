import Mathlib.Data.Int.Log
import Mathlib.Data.Rat.Floor
import Mathlib.Tactic.Linarith

/-!
# Numbers read as binary64 and written back

A number is its exact value. It is read as the nearest binary64 value, of two the one with the
even significand. That is written as the decimal with the fewest digits that reads as it again.
-/

namespace Astronomer.Binary64

open List

/-- The nearest integer, of two the even one. -/
def roundEven (x : ℚ) : ℤ :=
  if x - ⌊x⌋ < 1 / 2 ∨ (x - ⌊x⌋ = 1 / 2 ∧ ⌊x⌋ % 2 = 0) then ⌊x⌋ else ⌊x⌋ + 1

/-- The distance between the binary64 values at `q`: 53 bits, but no less than `2 ^ -1074`. -/
def ulp (q : ℚ) : ℚ := 2 ^ max (-1074) (Int.log 2 |q| - 52)

def nearest (q : ℚ) : ℚ := roundEven (q / ulp q) * ulp q

/-- From here on the nearest value would be `2 ^ 1024`, which is none. -/
def inRange (q : ℚ) : Bool := decide (|q| < 2 ^ 1024 - 2 ^ 970)

/-- The decimals with `n` digits next to `f` on either side, the nearer one first. -/
def decimals (f : ℚ) (n : ℕ) : List ℚ :=
  let unit : ℚ := 10 ^ (Int.log 10 |f| + 1 - n)
  let near := roundEven (f / unit)
  [near * unit, (if near * unit ≤ f then near + 1 else near - 1 : ℤ) * unit]

/-- Seventeen digits are enough for every binary64 value. -/
def shortest (f : ℚ) : ℚ :=
  (((range 17).flatMap fun n => decimals f (n + 1)).find? fun t => nearest t = f).getD f

/-! ## Integers below `2 ^ 53` -/

variable {n : ℤ} {x : ℚ}

theorem roundEven_intCast : roundEven n = n := by simp [roundEven]

theorem le_roundEven (h : n ≤ x) : n ≤ roundEven x := by
  have hn : n ≤ ⌊x⌋ := Int.le_floor.mpr h
  unfold roundEven
  split <;> omega

theorem roundEven_le (h : x ≤ n) : roundEven x ≤ n := by
  have hle : ⌊x⌋ ≤ n := Int.floor_le_iff.mpr (by linarith)
  unfold roundEven
  split
  · exact hle
  next hx =>
    have hne : ⌊x⌋ ≠ n := by
      intro heq
      rw [heq] at hx
      exact hx (.inl (by linarith))
    omega

theorem log_abs_intCast {b : ℕ} : Int.log b |(n : ℚ)| = Nat.log b n.natAbs := by
  rw [← Int.cast_abs, Int.abs_eq_natAbs, Int.cast_natCast, Int.log_natCast]

theorem inRange_intCast (h : n.natAbs < 2 ^ 53) : inRange n := by
  have hn : |(n : ℚ)| < 2 ^ 53 := by
    rw [← Int.cast_abs, Int.abs_eq_natAbs]
    exact_mod_cast h
  exact decide_eq_true (hn.trans (by decide +kernel))

theorem nearest_intCast (h : n.natAbs < 2 ^ 53) : nearest n = n := by
  have hl : Nat.log 2 n.natAbs < 53 := Nat.log_lt_of_lt_pow' (by norm_num) h
  -- a whole number of units that are no larger than one
  obtain ⟨k, hk⟩ : ∃ k : ℕ, max (-1074) (Int.log 2 |(n : ℚ)| - 52) = -k := by
    rw [log_abs_intCast]
    exact ⟨52 - Nat.log 2 n.natAbs, by omega⟩
  have hq : (n : ℚ) / 2 ^ (-k : ℤ) = (n * 2 ^ k : ℤ) := by
    rw [zpow_neg, div_inv_eq_mul]
    push_cast
    rfl
  rw [nearest, ulp, hk, hq, roundEven_intCast, ← hq]
  exact div_mul_cancel₀ _ (by simp)

theorem le_abs_nearest {q : ℚ} (h : 2 ^ 53 ≤ |q|) : 2 ^ 53 ≤ |nearest q| := by
  have hq : 0 < |q| := lt_of_lt_of_le (by norm_num) h
  have hl : 53 ≤ Int.log 2 |q| :=
    (Int.zpow_le_iff_le_log (by norm_num) hq).mp (by exact_mod_cast h)
  have hu : ulp q = 2 ^ (Int.log 2 |q| - 52) := by rw [ulp, max_eq_right (by omega)]
  have hp : 0 < ulp q := hu ▸ zpow_pos (by norm_num) _
  have hlog : 2 ^ 52 * ulp q = 2 ^ Int.log 2 |q| := by
    rw [hu, ← zpow_natCast, ← zpow_add₀ (by norm_num)]
    congr 1
    omega
  -- the significand of `q` has all its 53 bits, and rounding keeps them
  have hs : 2 ^ 52 ≤ |q| / ulp q := by
    rw [le_div_iff₀ hp, hlog]
    exact_mod_cast Int.zpow_log_le_self (by norm_num : 1 < 2) hq
  have hr : 2 ^ 52 ≤ |roundEven (q / ulp q)| := by
    rcases le_total 0 q with hq | hq
    · rw [abs_of_nonneg hq] at hs
      exact (le_roundEven (by exact_mod_cast hs)).trans (le_abs_self _)
    · rw [abs_of_nonpos hq, neg_div] at hs
      have hle : roundEven (q / ulp q) ≤ -2 ^ 52 := roundEven_le (by push_cast; linarith)
      exact le_trans (by omega) (neg_le_abs _)
  calc (2 : ℚ) ^ 53 ≤ 2 ^ Int.log 2 |q| := by
        exact_mod_cast zpow_le_zpow_right₀ (by norm_num : (1 : ℚ) ≤ 2) hl
    _ = 2 ^ 52 * ulp q := hlog.symm
    _ ≤ |(roundEven (q / ulp q) : ℚ)| * ulp q :=
      mul_le_mul_of_nonneg_right (by exact_mod_cast hr) hp.le
    _ = |nearest q| := by rw [nearest, abs_mul, abs_of_pos hp]

theorem eq_of_nearest_eq {t : ℤ} (hn : n.natAbs < 2 ^ 53) (h : nearest t = n) : t = n := by
  have ht : t.natAbs < 2 ^ 53 := by
    by_contra hge
    have hle : (2 : ℚ) ^ 53 ≤ |(n : ℚ)| := by
      rw [← h]
      refine le_abs_nearest ?_
      rw [← Int.cast_abs, Int.abs_eq_natAbs]
      exact_mod_cast not_lt.mp hge
    rw [← Int.cast_abs, Int.abs_eq_natAbs] at hle
    exact absurd hn (not_lt.mpr (by exact_mod_cast hle))
  rw [nearest_intCast ht] at h
  exact_mod_cast h

theorem exists_int_of_mem_decimals {t : ℚ} {k : ℕ} (hk : k < Nat.log 10 n.natAbs + 1)
    (h : t ∈ decimals n (k + 1)) : ∃ i : ℤ, t = i := by
  obtain ⟨e, he⟩ : ∃ e : ℕ, Int.log 10 |(n : ℚ)| + 1 - (k + 1 : ℕ) = e := by
    rw [log_abs_intCast]
    exact ⟨Nat.log 10 n.natAbs - k, by omega⟩
  simp only [decimals, he, zpow_natCast, mem_cons, not_mem_nil, or_false] at h
  have hu : (10 : ℚ) ^ e = (10 ^ e : ℤ) := by
    push_cast
    rfl
  rw [hu, ← Int.cast_mul, ← Int.cast_mul] at h
  rcases h with rfl | rfl <;> exact ⟨_, rfl⟩

theorem mem_decimals_self : (n : ℚ) ∈ decimals n (Nat.log 10 n.natAbs + 1) := by
  have he : Int.log 10 |(n : ℚ)| + 1 - (Nat.log 10 n.natAbs + 1 : ℕ) = 0 := by
    rw [log_abs_intCast]
    omega
  simp only [decimals, he, zpow_zero, div_one, roundEven_intCast, mul_one]
  exact mem_cons_self

/-- **A whole number below `2 ^ 53` comes back as it is.** -/
theorem shortest_nearest_intCast (h : n.natAbs < 2 ^ 53) : shortest (nearest n) = n := by
  rw [nearest_intCast h]
  have hl : Nat.log 10 n.natAbs < 17 :=
    Nat.log_lt_of_lt_pow' (by norm_num) (h.trans (by norm_num))
  obtain ⟨rest, hr⟩ := Nat.exists_eq_add_of_le hl
  -- with as many digits as it has, it is found itself; until then there are only integers
  have hf : (((range (Nat.log 10 n.natAbs + 1)).flatMap fun k => decimals n (k + 1)).find?
      fun t => nearest t = n) = some (n : ℚ) := by
    cases hf : ((range (Nat.log 10 n.natAbs + 1)).flatMap fun k => decimals n (k + 1)).find?
        fun t => nearest t = n with
    | none =>
      refine absurd (nearest_intCast h) ?_
      have hn := find?_eq_none.mp hf n
        (mem_flatMap.mpr ⟨_, mem_range.mpr (Nat.lt_succ_self _), mem_decimals_self⟩)
      simpa using hn
    | some t =>
      have ht := find?_some hf
      obtain ⟨k, hk, hmem⟩ := mem_flatMap.mp (mem_of_find?_eq_some hf)
      obtain ⟨i, rfl⟩ := exists_int_of_mem_decimals (mem_range.mp hk) hmem
      rw [eq_of_nearest_eq h (of_decide_eq_true ht)]
  rw [shortest, hr, range_add, flatMap_append, find?_append, hf]
  rfl

end Astronomer.Binary64
