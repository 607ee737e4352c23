import Mathlib.Data.List.Nodup

/-!
# Tables

A database table is the list of its rows. An `UPDATE` maps the rows its `WHERE`
clause accepts, an `INSERT` appends, a query filters. The lemmas say how a query
on a KEY (a column the update does not write) sees an update.
-/

namespace Astronomer

open List

variable {α κ : Type*}

def updateWhere (p : α → Bool) (f : α → α) (t : List α) : List α :=
  t.map fun r => if p r then f r else r

/-- `UPDATE t SET f WHERE p RETURNING *` read as a `:one` query: the new table and
the written row, or nothing when no row matched. -/
def updateReturning (p : α → Bool) (f : α → α) (t : List α) : Option (List α × α) :=
  (t.find? p).map fun r => (updateWhere p f t, f r)

theorem filter_updateWhere {p q f} {t : List α} (hk : ∀ r, q (f r) = q r) :
    (updateWhere p f t).filter q = updateWhere p f (t.filter q) := by
  induction t with
  | nil => rfl
  | cons r t ih =>
    have hq : q (if p r then f r else r) = q r := by split <;> simp [hk]
    simp only [updateWhere, map_cons, filter_cons, hq] at ih ⊢
    cases q r <;> simp [ih]

theorem find?_updateWhere_of_where {p q f} {t : List α} (hk : ∀ r, p r → q (f r) = q r) :
    (updateWhere p f t).find? q = (t.find? q).map fun r => if p r then f r else r := by
  induction t with
  | nil => rfl
  | cons r t ih =>
    have hq : q (if p r then f r else r) = q r := by
      split
      next hp => exact hk r hp
      · rfl
    simp only [updateWhere, map_cons, find?_cons, hq] at ih ⊢
    cases q r <;> simp [ih]

theorem find?_updateWhere {p q f} {t : List α} (hk : ∀ r, q (f r) = q r) :
    (updateWhere p f t).find? q = (t.find? q).map fun r => if p r then f r else r :=
  find?_updateWhere_of_where fun r _ => hk r

theorem updateWhere_of_forall_not {p : α → Bool} {f : α → α} {t : List α}
    (h : ∀ r ∈ t, p r = false) : updateWhere p f t = t := by
  induction t with
  | nil => rfl
  | cons r t ih =>
    have hr : p r = false := h r mem_cons_self
    have ht : updateWhere p f t = t := ih fun r' hr' => h r' (mem_cons_of_mem _ hr')
    simpa [updateWhere, hr] using ht

theorem any_updateWhere {p q f} {t : List α} (hk : ∀ r ∈ t, p r → q (f r) = q r) :
    (updateWhere p f t).any q = t.any q := by
  induction t with
  | nil => rfl
  | cons r t ih =>
    have hq : q (if p r then f r else r) = q r := by
      split
      next hp => exact hk r mem_cons_self hp
      · rfl
    simp only [updateWhere, map_cons, any_cons, hq] at ih ⊢
    rw [ih fun r' hr' => hk r' (mem_cons_of_mem _ hr')]

theorem mem_updateWhere {p : α → Bool} {f : α → α} {t : List α} {r : α} :
    r ∈ updateWhere p f t ↔ ∃ r0 ∈ t, (if p r0 then f r0 else r0) = r :=
  mem_map

theorem map_updateWhere_of_where {p : α → Bool} {f : α → α} {g : α → κ} {t : List α}
    (hc : ∀ r, p r → g (f r) = g r) : (updateWhere p f t).map g = t.map g := by
  induction t with
  | nil => rfl
  | cons r t ih =>
    have hr : g (if p r then f r else r) = g r := by
      split
      next hp => exact hc r hp
      · rfl
    simpa [updateWhere, hr] using ih

theorem map_updateWhere {p : α → Bool} {f : α → α} {g : α → κ} {t : List α}
    (hc : ∀ r, g (f r) = g r) : (updateWhere p f t).map g = t.map g :=
  map_updateWhere_of_where fun r _ => hc r

theorem nodup_map_insert {g : α → κ} {t : List α} {r : α} (h : (t.map g).Nodup)
    (hr : g r ∉ t.map g) : ((t ++ [r]).map g).Nodup := by
  rw [map_append, map_singleton, nodup_append_comm]
  exact nodup_cons.mpr ⟨hr, h⟩

theorem find?_of_nodup_map {g : α → κ} {p : α → Bool} {t : List α} {r : α} (h : (t.map g).Nodup)
    (hr : r ∈ t) (hp : p r) (hk : ∀ r', p r' → g r' = g r) :
    t.find? p = some r := by
  obtain ⟨r', hr'⟩ : ∃ r', t.find? p = some r' :=
    Option.isSome_iff_exists.mp (find?_isSome.mpr ⟨r, hr, hp⟩)
  have heq : r' = r :=
    inj_on_of_nodup_map h (mem_of_find?_eq_some hr') hr (hk r' (find?_some hr'))
  rw [hr', heq]

end Astronomer
