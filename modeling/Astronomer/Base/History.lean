import Astronomer.Base.Interaction

/-!
# What a program has called so far

The history of a program is the list of its calls with their answers. `Then P x` says that
`P` held of the history when the exchange `x` took place; nested, it states an order of calls.
-/

namespace Astronomer

variable {Op : Type} {Ans : Op → Type} {α κ : Type}

abbrev Exchange (Op : Type) (Ans : Op → Type) := (op : Op) × Ans op

abbrev History (Op : Type) (Ans : Op → Type) := List (Exchange Op Ans)

namespace History

variable {P : History Op Ans → Prop} {x : Exchange Op Ans} {h more : History Op Ans}

def Then (P : History Op Ans → Prop) (x : Exchange Op Ans) (h : History Op Ans) : Prop :=
  ∃ before after, h = before ++ x :: after ∧ P before

def Lasting (P : History Op Ans → Prop) : Prop := ∀ h more, P h → P (h ++ more)

theorem lasting_then : Lasting (Then P x) := by
  rintro h more ⟨before, after, rfl, hP⟩
  exact ⟨before, after ++ more, by simp, hP⟩

theorem Then.snoc (hP : P h) : Then P x (h ++ [x]) := ⟨h, [], rfl, hP⟩

theorem Then.earlier (hl : Lasting P) (h' : Then P x h) : P h := by
  obtain ⟨before, after, rfl, hP⟩ := h'
  exact hl before (x :: after) hP

def recorded (permit : History Op Ans → Op → Prop) : Protocol Op Ans (History Op Ans) where
  allowed := permit
  next h op answer := h ++ [⟨op, answer⟩]

end History

def Protocol.after (A : Protocol Op Ans κ) (k : κ) (h : History Op Ans) : κ :=
  h.foldl (fun k x => A.next k x.1 x.2) k

theorem Protocol.after_snoc {A : Protocol Op Ans κ} {k h op answer} :
    A.after k (h ++ [⟨op, answer⟩]) = A.next (A.after k h) op answer := by
  simp [after, List.foldl_append]

namespace Prog

open History

variable {permit : History Op Ans → Op → Prop} {P : History Op Ans → Prop}
  {Q : History Op Ans → α → Prop} {h h0 : History Op Ans} {x : Prog Op Ans α}

theorem follows_ask_bind {op f} (hop : permit h op)
    (hf : ∀ a, (f a).Follows (recorded permit) Q (h ++ [⟨op, a⟩])) :
    (ask op >>= f).Follows (recorded permit) Q h :=
  ⟨hop, hf⟩

theorem Only.follows_recorded {idle : Op → Prop} (hx : x.Only idle)
    (hi : ∀ h op, idle op → permit h op)
    (hk : ∀ h op answer, idle op → P h → P (h ++ [⟨op, answer⟩])) (hP : P h) :
    x.Follows (recorded permit) (fun h' _ => P h') h := by
  induction x generalizing h with
  | ret a => exact hP
  | call op k ih => exact ⟨hi h op hx.1, fun answer => ih answer (hx.2 answer) (hk _ _ _ hx.1 hP)⟩

theorem Follows.of_recorded {A : Protocol Op Ans κ} {k : κ}
    (hA : ∀ h op, permit h op → A.allowed (A.after k h) op)
    (hx : x.Follows (recorded permit) Q h) : x.Follows A (fun _ _ => True) (A.after k h) := by
  induction x generalizing h with
  | ret a => trivial
  | call op next ih =>
    exact ⟨hA _ _ hx.1, fun answer => Protocol.after_snoc ▸ ih answer (hx.2 answer)⟩

inductive Reaches (x : Prog Op Ans α) : History Op Ans → Prog Op Ans α → Prop
  | refl : Reaches x [] x
  | answer {h : History Op Ans} {op : Op} {k : Ans op → Prog Op Ans α} (a : Ans op) :
      Reaches x h (call op k) → Reaches x (h ++ [⟨op, a⟩]) (k a)

theorem Follows.of_reaches (hx : x.Follows (recorded permit) Q h0) {y : Prog Op Ans α}
    (hr : x.Reaches h y) : y.Follows (recorded permit) Q (h0 ++ h) := by
  induction hr with
  | refl => simpa using hx
  | answer a _ ih =>
    rw [← List.append_assoc]
    exact ih.2 a

def advance (oracle : (op : Op) → Ans op) : Nat → History Op Ans → Prog Op Ans α →
    History Op Ans × Prog Op Ans α
  | n + 1, h, call op k => advance oracle n (h ++ [⟨op, oracle op⟩]) (k (oracle op))
  | _, h, y => (h, y)

theorem reaches_advance (oracle : (op : Op) → Ans op) (n : Nat) {y} (hr : x.Reaches h y) :
    x.Reaches (advance oracle n h y).1 (advance oracle n h y).2 := by
  induction n generalizing h y with
  | zero => cases y <;> exact hr
  | succ n ih =>
    cases y with
    | ret a => exact hr
    | call op k => exact ih (.answer (oracle op) hr)

end Prog

end Astronomer
