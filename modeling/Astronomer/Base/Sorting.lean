import Mathlib.Data.List.Sort

/-!
# Stable sorting

`List.insertionSort` is stable, so it does not matter whether a list is filtered before
it is sorted or after.
-/

namespace Astronomer

open List

variable {α : Type*} (r : α → α → Prop) [DecidableRel r] [IsTrans α r]

theorem filter_orderedInsert (p : α → Bool) (a : α) {l : List α} (hl : l.Pairwise r) :
    (l.orderedInsert r a).filter p =
      if p a then (l.filter p).orderedInsert r a else l.filter p := by
  induction l with
  | nil => cases h : p a <;> simp [h]
  | cons b l ih =>
    obtain ⟨hb, hl⟩ := pairwise_cons.mp hl
    by_cases hab : r a b
    · -- everything that follows is at or after `b`, so `a` goes first in the filtered list too
      have hf : ∀ c ∈ (b :: l).filter p, r a c := by
        intro c hc
        rcases mem_cons.mp (mem_filter.mp hc).1 with rfl | hc'
        · exact hab
        · exact trans_of r hab (hb c hc')
      have hi : ((b :: l).filter p).orderedInsert r a = a :: (b :: l).filter p := by
        cases hfl : (b :: l).filter p with
        | nil => rfl
        | cons c cs => exact orderedInsert_cons_of_le _ _ (hf c (hfl ▸ mem_cons_self))
      rw [orderedInsert_cons_of_le _ _ hab, hi, filter_cons]
    · grind

theorem filter_insertionSort [Std.Total r] (p : α → Bool) (l : List α) :
    (l.insertionSort r).filter p = (l.filter p).insertionSort r := by
  induction l with
  | nil => rfl
  | cons a l ih =>
    rw [insertionSort_cons, filter_orderedInsert r p a (pairwise_insertionSort r l), ih,
      filter_cons]
    split <;> rfl

end Astronomer
