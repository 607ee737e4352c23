import Mathlib.Data.List.Basic

/-!
# Fallible code

Go functions that return an error are `Except`; a database transaction is a
chain of such calls, and an error anywhere leaves nothing behind. The lemmas
take a successful chain apart: one `∃` for each bind, one fact for each check,
one invariant for each loop.
-/

namespace Astronomer

open List

universe u v

variable {ε : Type v} {α β σ : Type u}

def require (c : Bool) (err : ε) : Except ε Unit := if c then .ok () else .error err

@[simp] theorem require_eq_ok {c : Bool} {err : ε} {u : Unit} :
    require c err = .ok u ↔ c := by
  cases c <;> simp [require]

@[simp] theorem require_true {err : ε} : require true err = .ok () := rfl

@[simp] theorem require_false {err : ε} : require false err = .error err := rfl

def orError (x : Option α) (err : ε) : Except ε α :=
  match x with
  | some a => .ok a
  | none => .error err

@[simp] theorem orError_eq_ok {x : Option α} {err : ε} {a : α} :
    orError x err = .ok a ↔ x = some a := by
  cases x <;> simp [orError]

@[simp] theorem bind_eq_ok {x : Except ε α} {f : α → Except ε β} {b : β} :
    (x >>= f) = .ok b ↔ ∃ a, x = .ok a ∧ f a = .ok b := by
  cases x <;> simp [Bind.bind, Except.bind]

instance decidableForallOk {x : Except ε α} {P : α → Prop} [DecidablePred P] :
    Decidable (∀ y, x = .ok y → P y) :=
  match x with
  | .ok y => decidable_of_iff (P y) ⟨fun h _ hy => Except.ok.inj hy ▸ h, fun h => h y rfl⟩
  | .error _ => isTrue nofun

theorem exists_ok_of_any {x : Except ε α} {p} (h : x.toOption.any p) :
    ∃ a, x = .ok a ∧ p a := by
  cases x with
  | error _ => cases h
  | ok a => exact ⟨a, rfl, h⟩

theorem bind_exists_ok {P : α → Prop} {x : Except ε α} {f : α → Except ε β}
    (hx : ∃ a, x = .ok a ∧ P a) (hf : ∀ a, P a → ∃ b, f a = .ok b) : ∃ b, (x >>= f) = .ok b := by
  obtain ⟨a, ha, hp⟩ := hx
  obtain ⟨b, hb⟩ := hf a hp
  exact ⟨b, bind_eq_ok.mpr ⟨a, ha, hb⟩⟩

@[simp] theorem pure_eq_ok {a b} : (pure a : Except ε α) = .ok b ↔ a = b := by
  simp [Pure.pure, Except.pure]

@[simp] theorem map_eq_ok {x : Except ε α} {f : α → β} {b : β} :
    (f <$> x) = .ok b ↔ ∃ a, x = .ok a ∧ f a = b := by
  cases x <;> simp [Functor.map, Except.map]

@[simp] theorem mapError_eq_ok {δ : Type*} {x : Except ε α} {f : ε → δ} {a : α} :
    x.mapError f = .ok a ↔ x = .ok a := by
  cases x <;> simp [Except.mapError]

theorem forM_eq_ok {γ : Type*} {check : γ → Except ε PUnit.{u + 1}} {xs : List γ}
    (h : xs.forM check = .ok ⟨⟩) : ∀ x ∈ xs, check x = .ok ⟨⟩ := by
  induction xs with
  | nil => exact nofun
  | cons x xs ih =>
    obtain ⟨_, hx, hrest⟩ := bind_eq_ok.mp h
    exact forall_mem_cons.mpr ⟨hx, ih hrest⟩

def commitOr (s : σ) (x : Except ε σ) : σ :=
  match x with
  | .ok s' => s'
  | .error _ => s

@[simp] theorem commitOr_ok {s s'} : commitOr s (.ok s' : Except ε σ) = s' := rfl

@[simp] theorem commitOr_error {s : σ} {err : ε} : commitOr s (.error err) = s := rfl

theorem commitOr_eq_or_ok {s : σ} {x : Except ε σ} : commitOr s x = s ∨ x = .ok (commitOr s x) := by
  cases x with
  | error _ => exact .inl rfl
  | ok s' => exact .inr rfl

theorem foldlM_invariant {f : σ → α → Except ε σ} {P : σ → Prop} {xs : List α} {s s' : σ}
    (hstep : ∀ s s' x, x ∈ xs → P s → f s x = .ok s' → P s')
    (h : xs.foldlM f s = .ok s') (h0 : P s) : P s' := by
  induction xs generalizing s with
  | nil =>
    simp only [foldlM_nil, pure_eq_ok] at h
    exact h ▸ h0
  | cons x xs ih =>
    simp only [foldlM_cons, bind_eq_ok] at h
    obtain ⟨s1, hx, hrest⟩ := h
    exact ih (fun s s' y hy => hstep s s' y (mem_cons_of_mem _ hy)) hrest
      (hstep s s1 x mem_cons_self h0 hx)

theorem foldlM_exists_ok {f : σ → α → Except ε σ} {P : σ → Prop} {xs : List α} {s : σ}
    (hstep : ∀ s x, x ∈ xs → P s → ∃ s', f s x = .ok s' ∧ P s') (h0 : P s) :
    ∃ s', xs.foldlM f s = .ok s' ∧ P s' := by
  induction xs generalizing s with
  | nil => exact ⟨s, rfl, h0⟩
  | cons x xs ih =>
    obtain ⟨s1, hx, h1⟩ := hstep s x mem_cons_self h0
    obtain ⟨s', hrest, h'⟩ := ih (fun s y hy => hstep s y (mem_cons_of_mem _ hy)) h1
    exact ⟨s', bind_eq_ok.mpr ⟨s1, hx, hrest⟩, h'⟩

theorem foldlM_forall_mem {f : σ → α → Except ε σ} {P : σ → Prop} {Q : α → σ → Prop} {xs : List α}
    {s s' : σ} (hstep : ∀ s s' x, x ∈ xs → P s → f s x = .ok s' → P s')
    (hn : ∀ s s' x, x ∈ xs → P s → f s x = .ok s' → Q x s')
    (hk : ∀ s s' x y, y ∈ xs → Q x s → f s y = .ok s' → Q x s')
    (h : xs.foldlM f s = .ok s') (h0 : P s) : ∀ x ∈ xs, Q x s' := by
  induction xs generalizing s with
  | nil => simp
  | cons y xs ih =>
    simp only [foldlM_cons, bind_eq_ok] at h
    obtain ⟨s1, hy, hrest⟩ := h
    have ht : ∀ x ∈ xs, Q x s' := ih (fun s s' x hx => hstep s s' x (mem_cons_of_mem _ hx))
        (fun s s' x hx => hn s s' x (mem_cons_of_mem _ hx))
        (fun s s' x z hz => hk s s' x z (mem_cons_of_mem _ hz)) hrest
        (hstep s s1 y mem_cons_self h0 hy)
    intro x hx
    rcases mem_cons.mp hx with rfl | hx
    · exact foldlM_invariant
        (fun s s' z hz hQ ho => hk s s' x z (mem_cons_of_mem _ hz) hQ ho) hrest
        (hn s s1 x mem_cons_self h0 hy)
    · exact ht x hx

/-- A loop whose every turn appends at most one entry, named after the element of the turn,
appends entries named after some of the elements, in their order. -/
theorem foldlM_sublist {κ : Type*} {f : σ → α → Except ε σ} {o : σ → List β} {k : β → κ}
    {n : α → κ} {xs : List α} {s s' : σ}
    (hstep : ∀ s s' x, f s x = .ok s' → o s' = o s ∨ ∃ b, k b = n x ∧ o s' = o s ++ [b])
    (h : xs.foldlM f s = .ok s') :
    ∃ new, o s' = o s ++ new ∧ (new.map k).Sublist (xs.map n) := by
  induction xs generalizing s with
  | nil =>
    simp only [foldlM_nil, pure_eq_ok] at h
    exact ⟨[], by simp [h], List.Sublist.refl _⟩
  | cons x xs ih =>
    simp only [foldlM_cons, bind_eq_ok] at h
    obtain ⟨s1, hx, hrest⟩ := h
    obtain ⟨new, hn, hsb⟩ := ih hrest
    rcases hstep s s1 x hx with hs | ⟨b, hb, ha⟩
    · exact ⟨new, by rw [hn, hs], hsb.cons _⟩
    · exact ⟨b :: new, by simp [hn, ha], by simpa [hb] using hsb⟩

theorem foldlM_collect {ε α β : Type} {test : α → Except ε Bool} {g : α → β} {xs : List α}
    {acc ys : List β}
    (h : xs.foldlM (fun acc x => do
      let passed ← test x
      pure (if passed then acc ++ [g x] else acc)) acc = .ok ys) :
    (∀ x ∈ xs, ∃ passed, test x = .ok passed) ∧
      ∀ y, y ∈ ys ↔ y ∈ acc ∨ ∃ x ∈ xs, test x = .ok true ∧ g x = y := by
  induction xs generalizing acc with
  | nil =>
    simp only [foldlM_nil, pure_eq_ok] at h
    subst h
    simp
  | cons x xs ih =>
    simp only [foldlM_cons, bind_eq_ok, pure_eq_ok] at h
    obtain ⟨_, ⟨passed, hx, rfl⟩, hrest⟩ := h
    obtain ⟨ha, hmem⟩ := ih hrest
    refine ⟨fun x' hx' => ?_, fun y => ?_⟩
    · rcases mem_cons.mp hx' with rfl | hx'
      · exact ⟨passed, hx⟩
      · exact ha x' hx'
    · rw [hmem]
      cases passed <;> simp [hx, or_assoc, eq_comm]

theorem mapM_exists_ok {f : α → Except ε β} {xs : List α} (h : ∀ x ∈ xs, ∃ y, f x = .ok y) :
    ∃ ys, xs.mapM f = .ok ys := by
  induction xs with
  | nil => exact ⟨[], rfl⟩
  | cons x xs ih =>
    obtain ⟨y, hy⟩ := h x mem_cons_self
    obtain ⟨ys, hys⟩ := ih fun x' hx' => h x' (mem_cons_of_mem _ hx')
    refine ⟨y :: ys, ?_⟩
    simp only [mapM_cons, bind_eq_ok, pure_eq_ok]
    exact ⟨y, hy, ys, hys, rfl⟩

theorem mapM_eq_ok_getElem? {f : α → Except ε β} {xs : List α} {ys : List β} {i : Nat} {x : α}
    (h : xs.mapM f = .ok ys) (hx : xs[i]? = some x) : ∃ y, ys[i]? = some y ∧ f x = .ok y := by
  induction xs generalizing i ys with
  | nil => cases hx
  | cons x' xs ih =>
    simp only [mapM_cons, bind_eq_ok, pure_eq_ok] at h
    obtain ⟨y, hy, ys, hys, rfl⟩ := h
    cases i with
    | zero =>
      cases hx
      exact ⟨y, rfl, hy⟩
    | succ i =>
      simp only [getElem?_cons_succ] at hx ⊢
      exact ih hys hx

theorem mapM_map_eq {κ : Type*} {f : α → Except ε β} {key : β → κ} {name : α → κ} {xs : List α}
    {ys : List β} (hf : ∀ x y, f x = .ok y → key y = name x) (h : xs.mapM f = .ok ys) :
    ys.map key = xs.map name := by
  induction xs generalizing ys with
  | nil =>
    simp only [mapM_nil, pure_eq_ok] at h
    rw [← h]
    rfl
  | cons x xs ih =>
    simp only [mapM_cons, bind_eq_ok, pure_eq_ok] at h
    obtain ⟨y, hy, ys, hys, rfl⟩ := h
    simp [hf x y hy, ih hys]

theorem exists_of_mem_mapM {f : α → Except ε β} {xs : List α} {ys : List β} {y : β}
    (h : xs.mapM f = .ok ys) (hy : y ∈ ys) : ∃ x ∈ xs, f x = .ok y := by
  induction xs generalizing ys with
  | nil =>
    simp only [mapM_nil, pure_eq_ok] at h
    rw [← h] at hy
    cases hy
  | cons x xs ih =>
    simp only [mapM_cons, bind_eq_ok, pure_eq_ok] at h
    obtain ⟨z, hz, zs, hzs, rfl⟩ := h
    rcases mem_cons.mp hy with rfl | hy
    · exact ⟨x, mem_cons_self, hz⟩
    · obtain ⟨w, hw, hfw⟩ := ih hzs hy
      exact ⟨w, mem_cons_of_mem _ hw, hfw⟩

end Astronomer
