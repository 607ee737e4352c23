import Mathlib.Data.List.Perm.Subperm
import Astronomer.Base.Table

/-!
# Tables with a primary key

`Keyed key` is a table in which no two rows have the same key. The constraint is a field, so
no statement can break it. Each write has one lemma for what `get` sees after it and one for
what a query counts.
-/

namespace Astronomer

open List

structure Keyed {α κ : Type} (key : α → κ) where
  rows : List α
  nodup : (rows.map key).Nodup

namespace Keyed

variable {α κ : Type} {key : α → κ} {t : Keyed key} {k : κ} {a b : α} {p q : α → Bool} {f : α → α}

def update (t : Keyed key) (p : α → Bool) (f : α → α) (hf : ∀ a, key (f a) = key a) : Keyed key :=
  ⟨updateWhere p f t.rows, by rw [map_updateWhere hf]; exact t.nodup⟩

/-! ## Counting -/

def count (t : Keyed key) (q : α → Bool) : Nat := t.rows.countP q

theorem count_pos : 0 < t.count q ↔ ∃ a ∈ t.rows, q a := countP_pos_iff

theorem count_eq_zero : t.count q = 0 ↔ ∀ a ∈ t.rows, q a = false := by
  simp [count, countP_eq_zero]

theorem count_le_count (h : ∀ a, p a → q a) : t.count p ≤ t.count q :=
  countP_mono_left fun a _ => h a

theorem count_eq_count (h : ∀ a, p a → q a) :
    t.count p = t.count q ↔ ∀ a ∈ t.rows, q a → p a := by
  have hsb : (t.rows.filter p).Sublist (t.rows.filter q) := monotone_filter_right _ h
  simp only [count, countP_eq_length_filter]
  constructor
  · intro hl a ha hqa
    have hmem : a ∈ t.rows.filter p := by
      rw [hsb.eq_of_length hl]
      exact mem_filter.mpr ⟨ha, hqa⟩
    exact (mem_filter.mp hmem).2
  · intro hs
    congr 1
    exact filter_congr fun a ha => Bool.eq_iff_iff.mpr ⟨h a, hs a ha⟩

theorem count_add_count_le {r} (hp : ∀ a, p a → r a ∧ q a = false)
    (hq : ∀ a, q a → r a) : t.count p + t.count q ≤ t.count r := by
  unfold count
  induction t.rows with
  | nil => simp
  | cons a rows ih =>
    simp only [countP_cons]
    by_cases ha : p a
    · grind
    · by_cases hqa : q a
      · grind
      · grind

theorem count_le_one :
    t.count q ≤ 1 ↔ ∀ a ∈ t.rows, ∀ b ∈ t.rows, q a → q b → a = b := by
  have hrs : (t.rows.filter q).Nodup := (t.nodup.of_map _).filter _
  have hmem : ∀ x, x ∈ t.rows.filter q ↔ x ∈ t.rows ∧ q x = true := fun _ => mem_filter
  rw [count, countP_eq_length_filter]
  rcases hf : t.rows.filter q with _ | ⟨x, _ | ⟨y, rest⟩⟩ <;> rw [hf] at hrs hmem
  · simp only [length_nil, Nat.zero_le, true_iff]
    intro a ha b _ hqa
    exact absurd ((hmem a).mpr ⟨ha, hqa⟩) not_mem_nil
  · simp only [length_cons, length_nil, Nat.zero_add, Nat.le_refl, true_iff]
    intro a ha b hb hqa hqb
    rw [mem_singleton.mp ((hmem a).mpr ⟨ha, hqa⟩),
      mem_singleton.mp ((hmem b).mpr ⟨hb, hqb⟩)]
  · have hxy : x ≠ y := by
      rintro rfl
      simp at hrs
    obtain ⟨hx, hqx⟩ := (hmem x).mp mem_cons_self
    obtain ⟨hy, hqy⟩ := (hmem y).mp (mem_cons_of_mem _ mem_cons_self)
    constructor
    · intro h
      simp at h
    · intro h
      exact absurd (h x hx y hy hqx hqy) hxy

theorem count_le_length {ks : List κ} (h : ∀ a ∈ t.rows, q a → key a ∈ ks) :
    t.count q ≤ ks.length := by
  have hnd : ((t.rows.filter q).map key).Nodup := t.nodup.sublist (filter_sublist.map key)
  have hs : (t.rows.filter q).map key ⊆ ks := by
    intro k hk
    obtain ⟨a, ha, rfl⟩ := mem_map.mp hk
    obtain ⟨ha, hq⟩ := mem_filter.mp ha
    exact h a ha hq
  rw [count, countP_eq_length_filter, ← length_map key]
  exact (subperm_of_subset hnd hs).length_le

/-! ## Reading by the key -/

variable [DecidableEq κ]

def get (t : Keyed key) (k : κ) : Option α := t.rows.find? fun a => decide (key a = k)

theorem get_eq_some : t.get k = some a ↔ a ∈ t.rows ∧ key a = k := by
  constructor
  · intro h
    exact ⟨mem_of_find?_eq_some h, by simpa using find?_some h⟩
  · rintro ⟨ha, rfl⟩
    exact find?_of_nodup_map t.nodup ha (by simp) (by simp)

theorem get_eq_none : t.get k = none ↔ ∀ a ∈ t.rows, key a ≠ k := by
  simp [get, find?_eq_none]

theorem get_of_mem (h : a ∈ t.rows) : t.get (key a) = some a := get_eq_some.mpr ⟨h, rfl⟩

theorem mem_of_get (h : t.get k = some a) : a ∈ t.rows := (get_eq_some.mp h).1

theorem key_of_get (h : t.get k = some a) : key a = k := (get_eq_some.mp h).2

theorem get_update {hf} : (t.update p f hf).get k = (t.get k).map fun a => if p a then f a else a :=
  find?_updateWhere fun a => by rw [hf]

def set (t : Keyed key) (a : α) : Keyed key :=
  t.update (fun b => decide (key b = key a)) (fun b => if key b = key a then a else b)
    (fun b => by split <;> simp_all)

theorem get_set : (t.set a).get k = if key a = k then (t.get k).map fun _ => a else t.get k := by
  unfold set
  rw [get_update]
  cases hb : t.get k with
  | none => simp
  | some b =>
    obtain rfl : key b = k := key_of_get hb
    by_cases hk : key a = key b
    · simp [hk]
    · simp [hk, Ne.symm hk]

def insert (t : Keyed key) (a : α) (h : t.get (key a) = none) : Keyed key :=
  ⟨t.rows ++ [a], nodup_map_insert t.nodup (by simpa using get_eq_none.mp h)⟩

theorem get_insert {h} :
    (t.insert a h).get k = if key a = k then some a else t.get k := by
  by_cases hk : key a = k
  · subst hk
    have hrs : t.rows.find? (fun b => decide (key b = key a)) = none := h
    simp [get, insert, find?_append, hrs]
  · simp [get, insert, find?_append, hk]

theorem mem_insert {h} : b ∈ (t.insert a h).rows ↔ b ∈ t.rows ∨ b = a := by
  simp [insert]

def upsert (t : Keyed key) (a : α) (f : α → α) (hf : ∀ a, key (f a) = key a) : Keyed key :=
  if h : t.get (key a) = none then t.insert a h else t.update (fun b => decide (key b = key a)) f hf

theorem get_upsert {hf} : (t.upsert a f hf).get k =
      if key a = k then some (((t.get k).map f).getD a) else t.get k := by
  unfold upsert
  split
  next h =>
    rw [get_insert]
    split
    next hk =>
      subst hk
      rw [h]
      rfl
    · rfl
  next h =>
    rw [get_update]
    cases hb : t.get k with
    | none =>
      have hk : key a ≠ k := by
        rintro rfl
        exact h hb
      simp [hk]
    | some b =>
      obtain rfl : key b = k := key_of_get hb
      by_cases hk : key a = key b
      · simp [hk]
      · simp [hk, Ne.symm hk]

def put (t : Keyed key) (a : α) : Keyed key :=
  t.upsert a (fun b => if key b = key a then a else b) (fun b => by split <;> simp_all)

theorem get_put : (t.put a).get k = if key a = k then some a else t.get k := by
  rw [put, get_upsert]
  split
  · cases hb : t.get k with
    | none => rfl
    | some b => simp_all [key_of_get hb]
  · rfl

theorem count_le_count_of_get {t' : Keyed key}
    (h : ∀ k a', t'.get k = some a' → q a' → ∃ a, t.get k = some a ∧ q a) :
    t'.count q ≤ t.count q := by
  have hky : t'.count q ≤ ((t.rows.filter q).map key).length := by
    refine count_le_length fun a' ha' hq => ?_
    obtain ⟨a, ha, hqa⟩ := h (key a') a' (get_of_mem ha') hq
    rw [← key_of_get ha]
    exact mem_map_of_mem (mem_filter.mpr ⟨mem_of_get ha, hqa⟩)
  rwa [length_map, ← countP_eq_length_filter] at hky

end Keyed

end Astronomer
