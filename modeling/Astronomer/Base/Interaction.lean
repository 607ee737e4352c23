import Mathlib.Data.List.Basic

/-!
# Programs that talk to their surroundings

A `Prog` has returned, or makes a call and goes on from whatever answer comes back. What it
may do is a `Protocol`, an automaton on calls and answers, and `Prog.Follows` says that it
keeps to it WHATEVER the answers are. Programs that share a state run as a `Pool`, one call
of one of them at a time.
-/

namespace Astronomer

variable {Op : Type} {Ans : Op → Type} {α β κ σ : Type}

inductive Prog (Op : Type) (Ans : Op → Type) (α : Type) where
  | ret (a : α)
  | call (op : Op) (k : Ans op → Prog Op Ans α)

namespace Prog

def bind : Prog Op Ans α → (α → Prog Op Ans β) → Prog Op Ans β
  | ret a, f => f a
  | call op k, f => call op fun a => (k a).bind f

instance : Monad (Prog Op Ans) where
  pure := ret
  bind := bind

def ask (op : Op) : Prog Op Ans (Ans op) := call op ret

def exec (serve : (op : Op) → σ → Ans op × σ) : Prog Op Ans α → σ → α × σ
  | ret a, s => (a, s)
  | call op k, s => exec serve (k (serve op s).1) (serve op s).2

@[simp] theorem exec_pure (serve : (op : Op) → σ → Ans op × σ) (a : α) (s : σ) :
    (pure a : Prog Op Ans α).exec serve s = (a, s) := rfl

@[simp] theorem exec_ask (serve : (op : Op) → σ → Ans op × σ) (op : Op) (s : σ) :
    (ask op).exec serve s = serve op s := rfl

@[simp] theorem exec_bind (serve : (op : Op) → σ → Ans op × σ) (x : Prog Op Ans α)
    (f : α → Prog Op Ans β) (s : σ) :
    (x >>= f).exec serve s = (f (x.exec serve s).1).exec serve (x.exec serve s).2 := by
  induction x generalizing s with
  | ret a => rfl
  | call op k ih => exact ih _ _

inductive Leads (allow : (op : Op) → Ans op → Prop) (x : Prog Op Ans α) : Prog Op Ans α → Prop
  | refl : Leads allow x x
  | answer {op : Op} {k : Ans op → Prog Op Ans α} {a : Ans op} :
      Leads allow x (call op k) → allow op a → Leads allow x (k a)

theorem Leads.mono {y} {allow allow' : (op : Op) → Ans op → Prop} {x : Prog Op Ans α}
    (h : x.Leads allow y) (hle : ∀ op a, allow op a → allow' op a) : x.Leads allow' y := by
  induction h with
  | refl => exact .refl
  | answer _ ha ih => exact .answer ih (hle _ _ ha)

end Prog

/-! ## Protocols -/

structure Protocol (Op : Type) (Ans : Op → Type) (κ : Type) where
  allowed : κ → Op → Prop
  next : κ → (op : Op) → Ans op → κ

namespace Prog

/-- From the state `s` on every call is allowed, and the program returns only with
`Q` of the state it has then and its result. -/
def Follows (P : Protocol Op Ans κ) (Q : κ → α → Prop) : Prog Op Ans α → κ → Prop
  | ret a, s => Q s a
  | call op k, s => P.allowed s op ∧ ∀ a, (k a).Follows P Q (P.next s op a)

variable {P : Protocol Op Ans κ} {Q R : κ → α → Prop} {s : κ}

theorem Follows.mono {x : Prog Op Ans α} (h : x.Follows P Q s) (hQ : ∀ s a, Q s a → R s a) :
    x.Follows P R s := by
  induction x generalizing s with
  | ret a => exact hQ s a h
  | call op k ih => exact ⟨h.1, fun a => ih a (h.2 a)⟩

theorem Follows.bind {f} {x : Prog Op Ans β} {M : κ → β → Prop} (hx : x.Follows P M s)
    (hf : ∀ s b, M s b → (f b).Follows P Q s) :
    (x >>= f).Follows P Q s := by
  induction x generalizing s with
  | ret b => exact hf s b hx
  | call op k ih => exact ⟨hx.1, fun a => ih a (hx.2 a)⟩

def Keeps (P : Protocol Op Ans κ) (x : Prog Op Ans α) : Prop :=
  ∀ s, x.Follows P (fun _ _ => True) s

theorem keeps_pure {a} : (pure a : Prog Op Ans α).Keeps P := fun _ => trivial

theorem keeps_ask {op} (h : ∀ s, P.allowed s op) : (ask op).Keeps P :=
  fun s => ⟨h s, fun _ => trivial⟩

theorem Keeps.bind {x : Prog Op Ans β} {f : β → Prog Op Ans α} (hx : x.Keeps P)
    (hf : ∀ b, (f b).Keeps P) : (x >>= f).Keeps P :=
  fun s => (hx s).bind fun s' b _ => hf b s'

/-- A program whose every call is one of `idle`, calls that are allowed everywhere
and move nothing, ends in the state it starts in. -/
def Only (idle : Op → Prop) : Prog Op Ans α → Prop
  | ret _ => True
  | call op k => idle op ∧ ∀ a, (k a).Only idle

theorem only_pure {a} {idle : Op → Prop} : (pure a : Prog Op Ans α).Only idle := trivial

theorem only_ask {op} {idle : Op → Prop} (h : idle op) :
    (ask op : Prog Op Ans (Ans op)).Only idle := ⟨h, fun _ => trivial⟩

theorem Only.bind {idle : Op → Prop} {x : Prog Op Ans β} {f : β → Prog Op Ans α}
    (hx : x.Only idle) (hf : ∀ b, (f b).Only idle) : (x >>= f).Only idle := by
  induction x with
  | ret b => exact hf b
  | call op k ih => exact ⟨hx.1, fun a => ih a (hx.2 a)⟩

theorem Only.follows {idle : Op → Prop} {x : Prog Op Ans α} (hx : x.Only idle)
    (hi : ∀ s op, idle op → P.allowed s op ∧ ∀ a, P.next s op a = s) :
    x.Follows P (fun s' _ => s' = s) s := by
  induction x with
  | ret a => exact rfl
  | call op k ih =>
    refine ⟨(hi s op hx.1).1, fun a => ?_⟩
    rw [(hi s op hx.1).2 a]
    exact ih a (hx.2 a)

end Prog

end Astronomer
