import Mathlib.Data.List.Basic

/-!
# Locks with a shared and an exclusive mode

Many may hold the lock in shared mode, or one in exclusive mode, never both: the
condition is a field, so a grant that would break it cannot be built. A request that
cannot be granted yet returns `none`.
-/

namespace Astronomer

structure SharedLock (α β : Type) where
  shared : List α
  exclusive : Option β
  apart : exclusive.isSome → shared = []

namespace SharedLock

variable {α β : Type} {l l' : SharedLock α β} {a a' : α} {b b' : β}

def free : SharedLock α β := ⟨[], none, fun _ => rfl⟩

def share (l : SharedLock α β) (a : α) : Option (SharedLock α β) :=
  if h : l.exclusive = none then some ⟨a :: l.shared, none, by simp⟩ else none

def take (l : SharedLock α β) (b : β) : Option (SharedLock α β) :=
  if l.exclusive = none ∧ l.shared = [] then some ⟨[], some b, fun _ => rfl⟩ else none

def unshare [DecidableEq α] (l : SharedLock α β) (a : α) : SharedLock α β :=
  ⟨l.shared.filter (· ≠ a), l.exclusive, fun h => by simp [l.apart h]⟩

def drop [DecidableEq β] (l : SharedLock α β) (b : β) : SharedLock α β :=
  if l.exclusive = some b then ⟨l.shared, none, by simp⟩ else l

theorem not_mem_shared (h : l.exclusive = some b) : a ∉ l.shared := by
  simp [l.apart (by simp [h])]

theorem share_eq_some (h : l.share a = some l') :
    l'.exclusive = l.exclusive ∧ l'.shared = a :: l.shared := by
  unfold share at h
  split at h
  next hn =>
    obtain rfl := Option.some.inj h
    exact ⟨hn.symm, rfl⟩
  next => cases h

theorem take_eq_some (h : l.take b = some l') :
    l.exclusive = none ∧ l'.exclusive = some b ∧ l'.shared = l.shared := by
  unfold take at h
  split at h
  next hf =>
    obtain rfl := Option.some.inj h
    exact ⟨hf.1, rfl, hf.2.symm⟩
  next => cases h

theorem mem_unshare [DecidableEq α] : a' ∈ (l.unshare a).shared ↔ a' ∈ l.shared ∧ a' ≠ a := by
  simp [unshare]

@[simp] theorem shared_drop [DecidableEq β] : (l.drop b).shared = l.shared := by
  unfold drop
  split <;> rfl

theorem exclusive_drop_of_ne [DecidableEq β] (hne : b' ≠ b) (h : l.exclusive = some b') :
    (l.drop b).exclusive = some b' := by
  unfold drop
  rw [if_neg (by rw [h]; simpa using hne), h]

end SharedLock

end Astronomer
