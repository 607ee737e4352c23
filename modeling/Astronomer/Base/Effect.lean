import Mathlib.Data.List.Basic
import Mathlib.Order.RelClasses

/-!
# Calls with side effects

A call to another system may fail after it has changed that system, so it returns the state
it leaves WITH its error. `bind_ok` and `each_ok` say what a successful call did, `Moves`
what holds however it ends.
-/

namespace Astronomer

open List

def Effect (σ ε α : Type) := σ → Except ε α × σ

namespace Effect

variable {σ τ ε α β : Type}

instance : Monad (Effect σ ε) where
  pure a := fun s => (.ok a, s)
  bind x f := fun s =>
    match x s with
    | (.ok a, s') => f a s'
    | (.error e, s') => (.error e, s')

def throw (e : ε) : Effect σ ε α := fun s => (.error e, s)

def get : Effect σ ε σ := fun s => (.ok s, s)

def modify (f : σ → σ) : Effect σ ε Unit := fun s => (.ok (), f s)

def require (c : Bool) (e : ε) : Effect σ ε Unit := if c then pure () else throw e

def ofExcept (x : Except ε α) : Effect σ ε α := fun s => (x, s)

/-- A call on one part of the state whose error is a value for the caller to look
at: `x, err := call()`. -/
def attempt (part : σ → τ) (put : σ → τ → σ) (x : Effect τ ε α) : Effect σ ε (Except ε α) :=
  fun s => (.ok (x (part s)).1, put s (x (part s)).2)

def each (f : α → Effect σ ε Unit) : List α → Effect σ ε Unit
  | [] => pure ()
  | x :: xs => do
    f x
    each f xs

/-! ## What a successful call did -/

theorem bind_ok {x : Effect σ ε α} {f : α → Effect σ ε β} {b : β} {s s' : σ} :
    (x >>= f) s = (.ok b, s') ↔ ∃ a s1, x s = (.ok a, s1) ∧ f a s1 = (.ok b, s') := by
  show (match x s with
    | (.ok a, s') => f a s'
    | (.error e, s') => (.error e, s')) = _ ↔ _
  rcases hx : x s with ⟨_ | a, s1⟩ <;> simp

theorem bind_apply_ok {x : Effect σ ε α} {f : α → Effect σ ε β} {a : α} {s s' : σ}
    (h : x s = (.ok a, s')) : (x >>= f) s = f a s' := by
  show (match x s with
    | (.ok a, s') => f a s'
    | (.error e, s') => (.error e, s')) = _
  rw [h]

theorem bind_apply_error {x : Effect σ ε α} {f : α → Effect σ ε β} {e : ε} {s s' : σ}
    (h : x s = (.error e, s')) : (x >>= f) s = (.error e, s') := by
  show (match x s with
    | (.ok a, s') => f a s'
    | (.error e, s') => (.error e, s')) = _
  rw [h]

theorem bind_get {f : σ → Effect σ ε β} {s : σ} : (get >>= f) s = f s s := rfl

theorem bind_require {c : Bool} {e : ε} {f : Unit → Effect σ ε β} {s : σ} (h : c) :
    (require c e >>= f) s = f () s := by
  rw [h]
  rfl

theorem bind_ofExcept {x : Except ε α} {a : α} {f : α → Effect σ ε β} {s : σ} (h : x = .ok a) :
    (ofExcept x >>= f) s = f a s := by
  rw [h]
  rfl

theorem pure_ok {a b s s'} :
    (pure a : Effect σ ε α) s = (.ok b, s') ↔ a = b ∧ s = s' := by
  show ((.ok a, s) : Except ε α × σ) = _ ↔ _
  simp

theorem require_ok {c e u s s'} :
    (require c e : Effect σ ε Unit) s = (.ok u, s') ↔ c ∧ s = s' := by
  cases c <;> simp [require, throw, pure_ok]

theorem ofExcept_ok {x a s s'} :
    (ofExcept x : Effect σ ε α) s = (.ok a, s') ↔ x = .ok a ∧ s = s' := by
  simp [ofExcept]

/-- A loop that goes on whatever it has found, and found everything done. -/
theorem bind_and_ok {x y : Effect σ ε Bool} {s s' : σ}
    (h : (x >>= fun a => y >>= fun b => pure (a && b)) s = (.ok true, s')) :
    ∃ s1, x s = (.ok true, s1) ∧ y s1 = (.ok true, s') := by
  obtain ⟨a, s1, hx, h⟩ := bind_ok.mp h
  obtain ⟨b, s2, hy, h⟩ := bind_ok.mp h
  obtain ⟨hab, rfl⟩ := pure_ok.mp h
  obtain ⟨rfl, rfl⟩ := Bool.and_eq_true_iff.mp hab
  exact ⟨s1, hx, hy⟩

theorem each_ok (part : σ → τ) {f : α → Effect σ ε Unit} {g : τ → α → τ} {xs : List α}
    {s s' : σ} {u : Unit}
    (hstep : ∀ x ∈ xs, ∀ s s' u, f x s = (.ok u, s') → part s' = g (part s) x)
    (h : each f xs s = (.ok u, s')) : part s' = xs.foldl g (part s) := by
  induction xs generalizing s with
  | nil => rw [(pure_ok.mp h).2, foldl_nil]
  | cons x xs ih =>
    obtain ⟨v, s1, hx, hrest⟩ := bind_ok.mp h
    rw [foldl_cons, ← hstep x mem_cons_self s s1 v hx]
    exact ih (fun y hy => hstep y (mem_cons_of_mem _ hy)) hrest

theorem each_check {check : α → Except ε Unit} {xs : List α} {s s' : σ} :
    each (fun x => ofExcept (check x)) xs s = (.ok (), s') ↔
      s' = s ∧ ∀ x ∈ xs, check x = .ok () := by
  induction xs generalizing s with
  | nil => simpa [each, pure_ok] using eq_comm
  | cons x xs ih =>
    simp only [each, bind_ok, ofExcept_ok, ih, forall_mem_cons]
    constructor
    · rintro ⟨_, _, ⟨hx, rfl⟩, rfl, h⟩
      exact ⟨rfl, hx, h⟩
    · rintro ⟨rfl, hx, h⟩
      exact ⟨(), s', ⟨hx, rfl⟩, rfl, h⟩

/-! ## What every call does, failed or not -/

def Moves (R : σ → σ → Prop) (x : Effect σ ε α) : Prop := ∀ s, R s (x s).2

theorem Moves.of_eq {R : σ → σ → Prop} {x : Effect σ ε α} {y s s'} (h : Moves R x)
    (hx : x s = (y, s')) : R s s' := by
  have hs := h s
  rwa [hx] at hs

def Keeps (P : σ → Prop) (s s' : σ) : Prop := P s → P s'

instance {P : σ → Prop} : IsPreorder σ (Keeps P) where
  refl _ h := h
  trans _ _ _ h h' hs := h' (h hs)

section Moves

variable {R : σ → σ → Prop} [IsPreorder σ R] {x : Effect σ ε α}

theorem Moves.ofExcept {y : Except ε α} : Moves R (ofExcept y : Effect σ ε α) := refl

theorem Moves.pure {a : α} : Moves R (pure a : Effect σ ε α) := refl

theorem Moves.require {c : Bool} {e : ε} : Moves R (require c e : Effect σ ε Unit) := by
  cases c <;> exact refl

theorem Moves.bind_of_ok {f : α → Effect σ ε β} (hx : Moves R x)
    (hf : ∀ a s s', x s = (.ok a, s') → R s' (f a s').2) : Moves R (x >>= f) := by
  intro s
  show R s (match x s with
    | (.ok a, s') => f a s'
    | (.error e, s') => (.error e, s')).2
  have hs := hx s
  rcases hxs : x s with ⟨e | a, s1⟩ <;> rw [hxs] at hs
  · exact hs
  · exact trans_of R hs (hf a s s1 hxs)

theorem Moves.bind {f : α → Effect σ ε β} (hx : Moves R x) (hf : ∀ a, Moves R (f a)) :
    Moves R (x >>= f) :=
  Moves.bind_of_ok hx fun a _ s' _ => hf a s'

theorem Moves.each {f : β → Effect σ ε Unit} {xs : List β} (hf : ∀ x ∈ xs, Moves R (f x)) :
    Moves R (each f xs) := by
  induction xs with
  | nil => exact Moves.pure
  | cons x xs ih =>
    exact Moves.bind (hf x mem_cons_self)
      fun _ => ih fun y hy => hf y (mem_cons_of_mem _ hy)

end Moves

end Effect

end Astronomer
