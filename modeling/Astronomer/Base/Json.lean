import Mathlib.Data.List.Basic

/-!
# JSON documents

A decoded document. The fields of an object are those of a map: each key once, in no
order that matters.
-/

namespace Astronomer

open List

/-- A document with numbers in `ν` and strings in `σ`. -/
inductive Json (ν σ : Type) where
  | null
  | bool (b : Bool)
  | num (n : ν)
  | str (s : σ)
  | arr (xs : List (Json ν σ))
  | obj (fields : List (σ × Json ν σ))

/-- A document with the exact value of each number. -/
abbrev Value := Json Rat String

namespace Json

variable {ν σ : Type} [BEq σ]

def fields? : Json ν σ → Option (List (σ × Json ν σ))
  | obj fields => some fields
  | _ => none

def elements? : Json ν σ → Option (List (Json ν σ))
  | arr xs => some xs
  | _ => none

def text? : Json ν σ → Option σ
  | str s => some s
  | _ => none

def field (key : σ) (j : Json ν σ) : Option (Json ν σ) := j.fields?.bind (List.lookup key)

def textField (key : σ) (j : Json ν σ) : Option σ := (j.field key).bind text?

end Json

/-! ## Maps as lists of entries -/

section

variable {κ α : Type*} [DecidableEq κ]

def eraseKey (k : κ) (m : List (κ × α)) : List (κ × α) := m.filter fun e => e.1 ≠ k

def setKey (k : κ) (a : α) (m : List (κ × α)) : List (κ × α) := eraseKey k m ++ [(k, a)]

variable {k k' : κ} {a : α} {m : List (κ × α)}

theorem lookup_eraseKey : (eraseKey k m).lookup k' = if k' = k then none else m.lookup k' := by
  induction m with
  | nil => simp [eraseKey]
  | cons e m ih =>
    obtain ⟨key, value⟩ := e
    unfold eraseKey at ih ⊢
    by_cases hk : key = k
    · grind
    · rw [filter_cons_of_pos (by simpa using hk)]
      by_cases hk' : k' = key
      · subst hk'
        simp [hk]
      · grind

theorem lookup_setKey : (setKey k a m).lookup k' = if k' = k then some a else m.lookup k' := by
  rw [setKey, lookup_append, lookup_eraseKey]
  by_cases hk : k' = k
  · simp [hk]
  · grind

@[simp] theorem lookup_setKey_self : (setKey k a m).lookup k = some a :=
  lookup_setKey.trans (if_pos rfl)

theorem lookup_setKey_of_ne (h : k' ≠ k) : (setKey k a m).lookup k' = m.lookup k' :=
  lookup_setKey.trans (if_neg h)

@[simp] theorem eraseKey_setKey : eraseKey k (setKey k a m) = eraseKey k m := by
  simp [eraseKey, setKey, filter_filter]

theorem eraseKey_setKey_of_ne (h : k' ≠ k) :
    eraseKey k (setKey k' a m) = setKey k' a (eraseKey k m) := by
  simp [eraseKey, setKey, h, filter_filter, Bool.and_comm]

end

/-! ## Numbers and nesting -/

namespace Json

variable {ν σ : Type}

mutual

def numbers : Json ν σ → List ν
  | num n => [n]
  | arr xs => elementNumbers xs
  | obj fields => fieldNumbers fields
  | _ => []

def elementNumbers : List (Json ν σ) → List ν
  | [] => []
  | x :: xs => x.numbers ++ elementNumbers xs

def fieldNumbers : List (σ × Json ν σ) → List ν
  | [] => []
  | (_, x) :: rest => x.numbers ++ fieldNumbers rest

end

mutual

/-- How many arrays and objects a value of the document is nested in at most. -/
def depth : Json ν σ → Nat
  | arr xs => elementDepth xs + 1
  | obj fields => fieldDepth fields + 1
  | _ => 0

def elementDepth : List (Json ν σ) → Nat
  | [] => 0
  | x :: xs => max x.depth (elementDepth xs)

def fieldDepth : List (σ × Json ν σ) → Nat
  | [] => 0
  | (_, x) :: rest => max x.depth (fieldDepth rest)

end

end Json

end Astronomer
