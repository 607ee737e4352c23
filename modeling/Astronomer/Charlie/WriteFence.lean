import Astronomer.Base.Run
import Astronomer.Base.SharedLock

/-!
# The write fence (`write_fence.go`)

The fences of all replicas share one advisory lock of the database. `Begin` registers a
write, waits for the replica's one slot, opens a transaction and takes the lock in shared
mode; `CloseAndHold` closes the fence, waits until nothing is registered and takes it in
exclusive mode. A step is one such action of one goroutine.
-/

namespace Astronomer.Charlie

open List

/-! ## One replica -/

inductive WriteStage
  | waiting
  | slotted
  | begun
  | locked
  | running
  | releasing
  | rolledBack
  | slotReturned
  | gone
  deriving DecidableEq

structure Write where
  stage : WriteStage := .waiting
  cancelled : Bool := false
  transaction : Bool := false
  distributedAcquired : Bool := false

def Write.active (w : Write) : Bool := w.stage != .gone

def Write.Locked (w : Write) : Prop := w.stage = .locked ∨ w.stage = .running

inductive HoldStage
  | draining
  | acquiring
  | granted
  | held
  | releasing
  | ended
  deriving DecidableEq

structure Hold where
  stage : HoldStage := .draining
  reopened : Bool := false
  deriving DecidableEq

def Hold.Locked (y : Hold) : Prop := y.stage = .granted ∨ y.stage = .held ∨ y.stage = .releasing

def Hold.Drained (y : Hold) : Prop := y.stage = .acquiring ∨ y.stage = .granted ∨ y.stage = .held

/-- `WriteFence` of `NewDistributedWriteFence`, with the calls that are on their way. The
id of a write is its position in `writes`, and `nextID` is their number. -/
structure WriteFence where
  closed : Bool := false
  writes : List Write := []
  distributedSlot : Bool := true
  holds : List Hold := []

structure WriteDrainState where
  (closed drained : Bool)
  active : Nat

namespace WriteFence

def stateLocked (f : WriteFence) : WriteDrainState where
  closed := f.closed
  drained := f.writes.all fun w => !w.active
  active := f.writes.countP Write.active

def register (f : WriteFence) : WriteFence × Option Nat :=
  if f.closed then (f, none) else ({ f with writes := f.writes ++ [{}] }, some f.writes.length)

def close (f : WriteFence) : WriteFence :=
  { f with
    closed := true
    writes := f.writes.map fun w => if w.active then { w with cancelled := true } else w }

def reopen (f : WriteFence) : WriteFence :=
  { f with closed := false, holds := f.holds.map fun y => { y with reopened := true } }

def closeAndHold (f : WriteFence) : WriteFence :=
  { f.close with holds := f.holds ++ [{}] }

end WriteFence

/-! ## All replicas -/

variable {ρ : Type} [DecidableEq ρ]

/-- The replicas' fences and the advisory lock `charlieWriteAdvisoryLock`. The lock is held
by transactions: of the `i`-th write of a replica, or of its `i`-th call of `CloseAndHold`. -/
structure Fences (ρ : Type) where
  fence : ρ → WriteFence
  lock : SharedLock (ρ × Nat) (ρ × Nat)

inductive WriteMove
  | cancelParent
  | takeSlot
  | beginTransaction
  | lockShared
  | finish
  | abort
  | release
  | rollback
  | returnSlot
  | deregister

inductive HoldMove
  | drained
  | giveUp
  | lockExclusive
  | finish
  | fail
  | release
  | rollback

inductive FenceEvent (ρ : Type)
  | beginWrite (r : ρ)
  | write (r : ρ) (i : Nat) (move : WriteMove)
  | close (r : ρ)
  | reopen (r : ρ)
  | closeAndHold (r : ρ)
  | hold (r : ρ) (h : Nat) (move : HoldMove)

namespace Fences

def init : Fences ρ := ⟨fun _ => {}, .free⟩

def set (s : Fences ρ) (r : ρ) (f : WriteFence) : Fences ρ :=
  { s with fence := Function.update s.fence r f }

def setWrite (s : Fences ρ) (r : ρ) (i : Nat) (w : Write) : Fences ρ :=
  s.set r { s.fence r with writes := (s.fence r).writes.set i w }

def setHold (s : Fences ρ) (r : ρ) (h : Nat) (y : Hold) : Fences ρ :=
  s.set r { s.fence r with holds := (s.fence r).holds.set h y }

def moveWrite (s : Fences ρ) (r : ρ) (i : Nat) (w : Write) : WriteMove → Fences ρ
  | .cancelParent => if w.active then s.setWrite r i { w with cancelled := true } else s
  | .takeSlot =>
    if w.stage = .waiting ∧ (s.fence r).distributedSlot then
      s.set r { s.fence r with
        writes := (s.fence r).writes.set i { w with stage := .slotted, distributedAcquired := true }
        distributedSlot := false }
    else s
  | .beginTransaction =>
    if w.stage = .slotted then s.setWrite r i { w with stage := .begun, transaction := true } else s
  | .lockShared =>
    if w.stage = .begun then
      match s.lock.share (r, i) with
      | some lock => { s.setWrite r i { w with stage := .locked } with lock }
      | none => s
    else s
  | .finish =>
    if w.stage = .locked ∧ w.cancelled = false then s.setWrite r i { w with stage := .running }
    else s
  | .abort =>
    -- The `select` leaves the slot alone only when the context is done.
    if w.stage = .waiting ∧ w.cancelled ∨ w.stage = .slotted ∨ w.stage = .begun ∨ w.stage = .locked
    then s.setWrite r i { w with stage := .releasing } else s
  | .release => if w.stage = .running then s.setWrite r i { w with stage := .releasing } else s
  | .rollback =>
    if w.stage = .releasing then
      { s.setWrite r i { w with stage := .rolledBack } with
        lock := if w.transaction then s.lock.unshare (r, i) else s.lock }
    else s
  | .returnSlot =>
    if w.stage = .rolledBack then
      s.set r { s.fence r with
        writes := (s.fence r).writes.set i { w with stage := .slotReturned }
        distributedSlot := (s.fence r).distributedSlot || w.distributedAcquired }
    else s
  | .deregister =>
    if w.stage = .slotReturned then s.setWrite r i { w with stage := .gone, cancelled := true }
    else s

def moveHold (s : Fences ρ) (r : ρ) (h : Nat) (y : Hold) : HoldMove → Fences ρ
  | .drained =>
    if y.stage = .draining ∧ (s.fence r).stateLocked.drained then
      s.setHold r h { y with stage := .acquiring }
    else s
  | .giveUp =>
    if y.stage = .draining ∨ y.stage = .acquiring then s.setHold r h { y with stage := .ended }
    else s
  | .lockExclusive =>
    if y.stage = .acquiring then
      match s.lock.take (r, h) with
      | some lock => { s.setHold r h { y with stage := .granted } with lock }
      | none => s
    else s
  | .finish => if y.stage = .granted then s.setHold r h { y with stage := .held } else s
  | .fail => if y.stage = .granted then s.setHold r h { y with stage := .releasing } else s
  | .release => if y.stage = .held then s.setHold r h { y with stage := .releasing } else s
  | .rollback =>
    if y.stage = .releasing then
      { s.setHold r h { y with stage := .ended } with lock := s.lock.drop (r, h) }
    else s

def step (s : Fences ρ) : FenceEvent ρ → Fences ρ
  | .beginWrite r => s.set r (s.fence r).register.1
  | .write r i move =>
    match (s.fence r).writes[i]? with
    | some w => s.moveWrite r i w move
    | none => s
  | .close r => s.set r (s.fence r).close
  | .reopen r => s.set r (s.fence r).reopen
  | .closeAndHold r => s.set r (s.fence r).closeAndHold
  | .hold r h move =>
    match (s.fence r).holds[h]? with
    | some y => s.moveHold r h y move
    | none => s

/-! ## What a move changes -/

variable {s s' : Fences ρ} {r q : ρ} {i h : Nat} {w w' : Write} {y y' : Hold} {f : WriteFence}

@[simp] theorem set_fence_self : (s.set r f).fence r = f := Function.update_self ..

theorem set_fence_ne (hq : q ≠ r) : (s.set r f).fence q = s.fence q := Function.update_of_ne hq ..

/-- The `i`-th write of `r` moved on from `w` to `w'`. Other transactions keep the lock, and
if the write has it now, it took it now or had it and kept it. -/
structure WriteMoved (s s' : Fences ρ) (r : ρ) (i : Nat) (w w' : Write) : Prop where
  active : w.active
  others : ∀ q, q ≠ r → s'.fence q = s.fence q
  writes : (s'.fence r).writes = (s.fence r).writes.set i w'
  closed : (s'.fence r).closed = (s.fence r).closed
  holds : (s'.fence r).holds = (s.fence r).holds
  exclusive : s'.lock.exclusive = s.lock.exclusive
  shared : ∀ p ∈ s.lock.shared, p ≠ (r, i) → p ∈ s'.lock.shared
  locked : w'.Locked → (r, i) ∈ s'.lock.shared ∨ w.Locked ∧ s'.lock = s.lock

structure HoldMoved (s s' : Fences ρ) (r : ρ) (h : Nat) (y y' : Hold) : Prop where
  others : ∀ q, q ≠ r → s'.fence q = s.fence q
  writes : (s'.fence r).writes = (s.fence r).writes
  closed : (s'.fence r).closed = (s.fence r).closed
  holds : (s'.fence r).holds = (s.fence r).holds.set h y'
  reopened : y'.reopened = y.reopened
  shared : s'.lock.shared = s.lock.shared
  exclusive : ∀ p, s.lock.exclusive = some p → p ≠ (r, h) → s'.lock.exclusive = some p
  locked : y'.Locked → s'.lock.exclusive = some (r, h) ∨ y.Locked ∧ s'.lock = s.lock
  closes : y'.stage = .draining ∨ y'.Drained → y.stage = .draining ∨ y.Drained
  drained : y'.Drained → y.Drained ∨ (s.fence r).stateLocked.drained

theorem WriteMoved.of_set {slot} {lock : SharedLock (ρ × Nat) (ρ × Nat)} (ha : w.active)
    (he : lock.exclusive = s.lock.exclusive)
    (hs : ∀ p ∈ s.lock.shared, p ≠ (r, i) → p ∈ lock.shared)
    (hlk : w'.Locked → (r, i) ∈ lock.shared ∨ w.Locked ∧ lock = s.lock) :
    WriteMoved s { s.set r { s.fence r with
          writes := (s.fence r).writes.set i w'
          distributedSlot := slot } with lock } r i w w' where
  active := ha
  others _ hq := set_fence_ne hq
  writes := by simp
  closed := by simp
  holds := by simp
  exclusive := he
  shared := hs
  locked := hlk

theorem HoldMoved.of_set {lock : SharedLock (ρ × Nat) (ρ × Nat)}
    (hr : y'.reopened = y.reopened) (hs : lock.shared = s.lock.shared)
    (he : ∀ p, s.lock.exclusive = some p → p ≠ (r, h) → lock.exclusive = some p)
    (hlk : y'.Locked → lock.exclusive = some (r, h) ∨ y.Locked ∧ lock = s.lock)
    (hc : y'.stage = .draining ∨ y'.Drained → y.stage = .draining ∨ y.Drained)
    (hd : y'.Drained → y.Drained ∨ (s.fence r).stateLocked.drained) :
    HoldMoved s { s.setHold r h y' with lock } r h y y' where
  others _ hq := set_fence_ne hq
  writes := by simp [setHold]
  closed := by simp [setHold]
  holds := by simp [setHold]
  reopened := hr
  shared := hs
  exclusive := he
  locked := hlk
  closes := hc
  drained := hd

theorem HoldMoved.of_setHold (hr : y'.reopened = y.reopened) (hlk : y'.Locked → y.Locked)
    (hc : y'.stage = .draining ∨ y'.Drained → y.stage = .draining ∨ y.Drained)
    (hd : y'.Drained → y.Drained ∨ (s.fence r).stateLocked.drained) :
    HoldMoved s (s.setHold r h y') r h y y' :=
  .of_set hr rfl (fun _ hp _ => hp) (fun hy' => .inr ⟨hlk hy', rfl⟩) hc hd

omit [DecidableEq ρ] in
theorem WriteMoved.guard {p : Prop} [Decidable p] {t : Fences ρ}
    (hm : p → t = s ∨ ∃ w', WriteMoved s t r i w w') :
    (if p then t else s) = s ∨ ∃ w', WriteMoved s (if p then t else s) r i w w' := by
  split
  next hp => exact hm hp
  next => exact .inl rfl

theorem WriteMoved.guard_setWrite {p : Prop} [Decidable p] {slot} (ha : p → w.active = true)
    (hlk : p → w'.Locked → w.Locked) :
    let t := s.set r { s.fence r with
      writes := (s.fence r).writes.set i w', distributedSlot := slot }
    (if p then t else s) = s ∨ ∃ w', WriteMoved s (if p then t else s) r i w w' :=
  WriteMoved.guard fun hp =>
    .inr ⟨_, .of_set (ha hp) rfl (fun _ hq _ => hq) fun hw' => .inr ⟨hlk hp hw', rfl⟩⟩

omit [DecidableEq ρ] in
theorem HoldMoved.guard {p : Prop} [Decidable p] {t : Fences ρ}
    (hm : p → t = s ∨ ∃ y', HoldMoved s t r h y y') :
    (if p then t else s) = s ∨ ∃ y', HoldMoved s (if p then t else s) r h y y' := by
  split
  next hp => exact hm hp
  next => exact .inl rfl

theorem moveWrite_cases (s : Fences ρ) (r : ρ) (i : Nat) (w : Write) (m : WriteMove) :
    s.moveWrite r i w m = s ∨ ∃ w', WriteMoved s (s.moveWrite r i w m) r i w w' := by
  cases m with
  | cancelParent => exact WriteMoved.guard_setWrite id fun _ => id
  | takeSlot =>
    exact WriteMoved.guard_setWrite (fun hw => by simp [Write.active, hw.1])
      (by simp [Write.Locked])
  | beginTransaction | release | returnSlot | deregister =>
    exact WriteMoved.guard_setWrite (fun hw => by simp [Write.active, hw]) (by simp [Write.Locked])
  | lockShared =>
    refine WriteMoved.guard fun hw => ?_
    split
    next lock hsh =>
      obtain ⟨he, hs⟩ := SharedLock.share_eq_some hsh
      refine .inr ⟨_, .of_set (by simp [Write.active, hw]) he ?_ ?_⟩
      · intro p hp _
        rw [hs]
        exact mem_cons_of_mem _ hp
      · intro _
        rw [hs]
        exact .inl mem_cons_self
    next => exact .inl rfl
  | finish =>
    exact WriteMoved.guard_setWrite (fun hw => by simp [Write.active, hw.1]) fun hw _ => .inl hw.1
  | abort =>
    refine WriteMoved.guard_setWrite (fun hw => ?_) (by simp [Write.Locked])
    rcases hw with hw | hw | hw | hw <;> simp [Write.active, hw]
  | rollback =>
    refine WriteMoved.guard fun hw => .inr
      ⟨_, .of_set (by simp [Write.active, hw]) ?_ ?_ (by simp [Write.Locked])⟩
    · split <;> rfl
    · intro p hp hne
      split
      · exact SharedLock.mem_unshare.mpr ⟨hp, hne⟩
      · exact hp

theorem moveHold_cases (s : Fences ρ) (r : ρ) (h : Nat) (y : Hold) (m : HoldMove) :
    s.moveHold r h y m = s ∨ ∃ y', HoldMoved s (s.moveHold r h y m) r h y y' := by
  cases m with
  | drained =>
    exact HoldMoved.guard fun hy => .inr ⟨_, .of_setHold rfl (by simp [Hold.Locked])
      (fun _ => .inl hy.1) fun _ => .inr hy.2⟩
  | giveUp =>
    exact HoldMoved.guard fun _ => .inr ⟨_, .of_setHold rfl (by simp [Hold.Locked])
      (by simp [Hold.Drained]) (by simp [Hold.Drained])⟩
  | lockExclusive =>
    refine HoldMoved.guard fun hy => ?_
    split
    next lock ht =>
      obtain ⟨hn, he, hs⟩ := SharedLock.take_eq_some ht
      refine .inr ⟨_, .of_set rfl hs ?_ (fun _ => .inl he)
        (fun _ => .inr (.inl hy)) fun _ => .inl (.inl hy)⟩
      intro p hp _
      rw [hn] at hp
      cases hp
    next => exact .inl rfl
  | finish =>
    exact HoldMoved.guard fun hy => .inr ⟨_, .of_setHold rfl (fun _ => .inl hy)
      (fun _ => .inr (.inr (.inl hy))) fun _ => .inl (.inr (.inl hy))⟩
  | fail =>
    exact HoldMoved.guard fun hy => .inr ⟨_, .of_setHold rfl (fun _ => .inl hy)
      (by simp [Hold.Drained]) (by simp [Hold.Drained])⟩
  | release =>
    exact HoldMoved.guard fun hy => .inr ⟨_, .of_setHold rfl (fun _ => .inr (.inl hy))
      (by simp [Hold.Drained]) (by simp [Hold.Drained])⟩
  | rollback =>
    exact HoldMoved.guard fun _ => .inr ⟨_, .of_set rfl SharedLock.shared_drop
      (fun p hp hne => SharedLock.exclusive_drop_of_ne hne hp) (by simp [Hold.Locked])
      (by simp [Hold.Drained]) (by simp [Hold.Drained])⟩

end Fences

/-! ## The invariant -/

/-- A fence stays closed for a call of `CloseAndHold` that `Open` did not interrupt, and
nothing is registered from the time on when the call found it so. -/
def WriteFence.Sealed (f : WriteFence) : Prop :=
  ∀ y ∈ f.holds, y.reopened = false →
    (y.stage = .draining ∨ y.Drained → f.closed) ∧
    (y.Drained → f.stateLocked.drained)

namespace WriteFence

variable {f : WriteFence} {i : Nat} {w : Write}

theorem drained_iff : f.stateLocked.drained ↔ ∀ w ∈ f.writes, w.stage = .gone := by
  simp [stateLocked, Write.active]

theorem Sealed.register (hf : f.Sealed) : f.register.1.Sealed := by
  unfold WriteFence.register
  split
  next => exact hf
  next ho =>
    -- An open fence has no call that relies on it.
    intro y hy hr
    have hc := (hf y hy hr).1
    exact ⟨hc, fun hd => absurd (hc (.inr hd)) ho⟩

theorem drained_close : f.close.stateLocked.drained = f.stateLocked.drained := by
  rw [Bool.eq_iff_iff, drained_iff, drained_iff]
  simp only [close, forall_mem_map]
  refine forall₂_congr fun w _ => ?_
  split <;> rfl

theorem Sealed.close (hf : f.Sealed) : f.close.Sealed := by
  intro y hy hr
  exact ⟨fun _ => rfl, fun hd => drained_close.trans ((hf y hy hr).2 hd)⟩

theorem Sealed.closeAndHold (hf : f.Sealed) : f.closeAndHold.Sealed := by
  intro y hy hr
  refine ⟨fun _ => rfl, fun hd => ?_⟩
  rcases mem_append.mp hy with hy | hy
  · exact (hf.close y hy hr).2 hd
  · obtain rfl := mem_singleton.mp hy
    simp [Hold.Drained] at hd

theorem sealed_reopen : f.reopen.Sealed := by
  intro y hy hr
  obtain ⟨y0, -, rfl⟩ := mem_map.mp hy
  cases hr

theorem locked_close (hw : f.close.writes[i]? = some w) (hlk : w.Locked) :
    ∃ w0, f.writes[i]? = some w0 ∧ w0.Locked := by
  simp only [WriteFence.close, getElem?_map, Option.map_eq_some_iff] at hw
  obtain ⟨w0, hw0, rfl⟩ := hw
  refine ⟨w0, hw0, ?_⟩
  split at hlk <;> exact hlk

end WriteFence

namespace Fences

variable {s s' : Fences ρ} {r q : ρ} {i h : Nat} {w w' : Write} {y y' : Hold} {f : WriteFence}

structure Sound (s : Fences ρ) : Prop where
  shared : ∀ r i w, (s.fence r).writes[i]? = some w → w.Locked → (r, i) ∈ s.lock.shared
  exclusive : ∀ r h y, (s.fence r).holds[h]? = some y → y.Locked → s.lock.exclusive = some (r, h)
  sealed : ∀ r, (s.fence r).Sealed

omit [DecidableEq ρ] in
theorem sound_init : Sound (init : Fences ρ) where
  shared r i w hw := by simp [init] at hw
  exclusive r h y hy := by simp [init] at hy
  sealed r y hy := by simp [init] at hy

section

variable (hs : s.Sound)

include hs

theorem Sound.set (hwr : ∀ (i : Nat) (w : Write), f.writes[i]? = some w → w.Locked →
      ∃ w0 : Write, (s.fence r).writes[i]? = some w0 ∧ w0.Locked)
    (hh : ∀ (h : Nat) (y : Hold), f.holds[h]? = some y → y.Locked →
      ∃ y0 : Hold, (s.fence r).holds[h]? = some y0 ∧ y0.Locked)
    (hf : f.Sealed) : (s.set r f).Sound where
  shared q i w hw hlk := by
    rcases eq_or_ne q r with rfl | hq
    · rw [set_fence_self] at hw
      obtain ⟨w0, hw0, hlk0⟩ := hwr i w hw hlk
      exact hs.shared q i w0 hw0 hlk0
    · rw [set_fence_ne hq] at hw
      exact hs.shared q i w hw hlk
  exclusive q h y hy hlk := by
    rcases eq_or_ne q r with rfl | hq
    · rw [set_fence_self] at hy
      obtain ⟨y0, hy0, hlk0⟩ := hh h y hy hlk
      exact hs.exclusive q h y0 hy0 hlk0
    · rw [set_fence_ne hq] at hy
      exact hs.exclusive q h y hy hlk
  sealed q := by
    rcases eq_or_ne q r with rfl | hq
    · rw [set_fence_self]
      exact hf
    · rw [set_fence_ne hq]
      exact hs.sealed q

theorem Sound.register : (s.set r (s.fence r).register.1).Sound := by
  refine hs.set ?_ ?_ (hs.sealed r).register
  · intro i w hw hlk
    unfold WriteFence.register at hw
    split at hw
    next => exact ⟨w, hw, hlk⟩
    next =>
      rw [getElem?_append] at hw
      split at hw
      next => exact ⟨w, hw, hlk⟩
      next =>
        -- The new write is at the `select`.
        obtain rfl := mem_singleton.mp (mem_of_getElem? hw)
        simp [Write.Locked] at hlk
  · intro h y hy hlk
    unfold WriteFence.register at hy
    split at hy <;> exact ⟨y, hy, hlk⟩

theorem Sound.close : (s.set r (s.fence r).close).Sound :=
  hs.set (fun _ _ => WriteFence.locked_close) (fun _ y hy hlk => ⟨y, hy, hlk⟩) (hs.sealed r).close

theorem Sound.reopen : (s.set r (s.fence r).reopen).Sound := by
  refine hs.set (fun _ w hw hlk => ⟨w, hw, hlk⟩) ?_ WriteFence.sealed_reopen
  intro h y hy hlk
  simp only [WriteFence.reopen, getElem?_map, Option.map_eq_some_iff] at hy
  obtain ⟨y0, hy0, rfl⟩ := hy
  exact ⟨y0, hy0, hlk⟩

theorem Sound.closeAndHold : (s.set r (s.fence r).closeAndHold).Sound := by
  refine hs.set (fun _ _ => WriteFence.locked_close) ?_ (hs.sealed r).closeAndHold
  intro h y hy hlk
  simp only [WriteFence.closeAndHold, getElem?_append] at hy
  split at hy
  next => exact ⟨y, hy, hlk⟩
  next =>
    obtain rfl := mem_singleton.mp (mem_of_getElem? hy)
    simp [Hold.Locked] at hlk

end

omit [DecidableEq ρ] in
theorem Sound.writeMoved (hs : s.Sound) (hw : (s.fence r).writes[i]? = some w)
    (hmv : WriteMoved s s' r i w w') : s'.Sound where
  shared q j x hx hlk := by
    rcases eq_or_ne q r with rfl | hq
    · rw [hmv.writes] at hx
      rcases eq_or_ne i j with rfl | hij
      · rw [getElem?_set_self (List.getElem?_eq_some_iff.mp hw).1] at hx
        obtain rfl := Option.some.inj hx
        rcases hmv.locked hlk with hmem | ⟨hlk0, hsm⟩
        · exact hmem
        · rw [hsm]
          exact hs.shared q i w hw hlk0
      · rw [getElem?_set_ne hij] at hx
        exact hmv.shared _ (hs.shared q j x hx hlk) (by simp [hij.symm])
    · rw [hmv.others q hq] at hx
      exact hmv.shared _ (hs.shared q j x hx hlk) (by simp [hq])
  exclusive q h y hy hlk := by
    rw [hmv.exclusive]
    refine hs.exclusive q h y ?_ hlk
    rcases eq_or_ne q r with rfl | hq
    · rwa [hmv.holds] at hy
    · rwa [hmv.others q hq] at hy
  sealed q := by
    rcases eq_or_ne q r with rfl | hq
    · intro y hy hr
      rw [hmv.holds] at hy
      obtain ⟨hc, hd⟩ := hs.sealed q y hy hr
      refine ⟨fun hsg => hmv.closed.trans (hc hsg), fun hsg => ?_⟩
      have hg := WriteFence.drained_iff.mp (hd hsg) w (mem_of_getElem? hw)
      have ha := hmv.active
      simp [Write.active, hg] at ha
    · rw [hmv.others q hq]
      exact hs.sealed q

omit [DecidableEq ρ] in
theorem Sound.holdMoved (hs : s.Sound) (hy : (s.fence r).holds[h]? = some y)
    (hmv : HoldMoved s s' r h y y') : s'.Sound where
  shared q i w hw hlk := by
    rw [hmv.shared]
    refine hs.shared q i w ?_ hlk
    rcases eq_or_ne q r with rfl | hq
    · rwa [hmv.writes] at hw
    · rwa [hmv.others q hq] at hw
  exclusive q j x hx hlk := by
    rcases eq_or_ne q r with rfl | hq
    · rw [hmv.holds] at hx
      rcases eq_or_ne h j with rfl | hij
      · rw [getElem?_set_self (List.getElem?_eq_some_iff.mp hy).1] at hx
        obtain rfl := Option.some.inj hx
        rcases hmv.locked hlk with hmem | ⟨hlk0, hsm⟩
        · exact hmem
        · rw [hsm]
          exact hs.exclusive q h y hy hlk0
      · rw [getElem?_set_ne hij] at hx
        exact hmv.exclusive _ (hs.exclusive q j x hx hlk) (by simp [hij.symm])
    · rw [hmv.others q hq] at hx
      exact hmv.exclusive _ (hs.exclusive q j x hx hlk) (by simp [hq])
  sealed q := by
    rcases eq_or_ne q r with rfl | hq
    · have hsm : (s'.fence q).stateLocked.drained = (s.fence q).stateLocked.drained := by
        simp only [WriteFence.stateLocked, hmv.writes]
      intro x hx hr
      rw [hmv.holds] at hx
      rcases mem_or_eq_of_mem_set hx with hx | rfl
      · obtain ⟨hc, hd⟩ := hs.sealed q x hx hr
        exact ⟨fun hsg => hmv.closed.trans (hc hsg), fun hsg => hsm.trans (hd hsg)⟩
      · obtain ⟨hc, hd⟩ := hs.sealed q y (mem_of_getElem? hy) (hmv.reopened ▸ hr)
        refine ⟨fun hsg => ?_, fun hsg => ?_⟩
        · exact hmv.closed.trans (hc (hmv.closes hsg))
        · rcases hmv.drained hsg with hsg0 | hn
          · exact hsm.trans (hd hsg0)
          · exact hsm.trans hn
    · rw [hmv.others q hq]
      exact hs.sealed q

theorem Sound.step (hs : s.Sound) (e : FenceEvent ρ) : (s.step e).Sound := by
  cases e with
  | beginWrite r => exact hs.register
  | write r i m =>
    simp only [Fences.step]
    split
    next w hw =>
      rcases moveWrite_cases s r i w m with hsm | ⟨w', hmv⟩
      · rw [hsm]
        exact hs
      · exact hs.writeMoved hw hmv
    next => exact hs
  | close r => exact hs.close
  | reopen r => exact hs.reopen
  | closeAndHold r => exact hs.closeAndHold
  | hold r h m =>
    simp only [Fences.step]
    split
    next y hy =>
      rcases moveHold_cases s r h y m with hsm | ⟨y', hmv⟩
      · rw [hsm]
        exact hs
      · exact hs.holdMoved hy hmv
    next => exact hs

theorem sound_run (es : List (FenceEvent ρ)) : (run step init es : Fences ρ).Sound :=
  run_preserves (P := Sound) (fun _ e hs => hs.step e) sound_init

/-! ## Writes and holds exclude each other -/

omit [DecidableEq ρ] in
theorem Sound.not_running (hs : s.Sound) (hy : (s.fence r).holds[h]? = some y) (hlk : y.Locked)
    (hw : w ∈ (s.fence q).writes) : w.stage ≠ .running := by
  intro hr
  obtain ⟨i, hi⟩ := mem_iff_getElem?.mp hw
  have he := hs.exclusive r h y hy hlk
  exact SharedLock.not_mem_shared he (hs.shared q i w hi (.inr hr))

/-- **No write runs while the fence is held.** From the return of a successful `CloseAndHold`
to its release, no replica is between `Begin` and `release` of a write, and until `Open` every
`Begin` on that replica fails. -/
theorem no_write_while_held (es : List (FenceEvent ρ))
    (hy : ((run step init es).fence r).holds[h]? = some y) (hheld : y.stage = .held) :
    (∀ q, ∀ w ∈ ((run step init es).fence q).writes, w.stage ≠ .running) ∧
    (y.reopened = false → ((run step init es).fence r).register.2 = none ∧
      ∀ w ∈ ((run step init es).fence r).writes, w.stage = .gone) := by
  have hs := sound_run es
  refine ⟨fun q w hw => hs.not_running hy (.inr (.inl hheld)) hw, fun hr => ?_⟩
  have hd : y.Drained := .inr (.inr hheld)
  obtain ⟨hc, hg⟩ := hs.sealed r y (mem_of_getElem? hy) hr
  refine ⟨?_, WriteFence.drained_iff.mp (hg hd)⟩
  simp [WriteFence.register, hc (.inr hd)]

end Fences

/-! ## A write on another replica -/

namespace TwoReplicas

open FenceEvent

def drain : List (FenceEvent (Fin 2)) :=
  [beginWrite 1, write 1 0 .takeSlot, write 1 0 .beginTransaction, write 1 0 .lockShared,
    write 1 0 .finish, closeAndHold 0, hold 0 0 .drained, hold 0 0 .lockExclusive,
    write 1 0 .release, write 1 0 .rollback, beginWrite 1, hold 0 0 .lockExclusive,
    hold 0 0 .finish, write 1 0 .returnSlot, write 1 0 .deregister, write 1 1 .takeSlot,
    write 1 1 .beginTransaction, write 1 1 .lockShared]

/-- The write of replica 1 that came too late waits for the lock, and replica 0 takes none. -/
theorem drain_holds :
    ((run Fences.step Fences.init drain).fence 1).writes.map (·.stage) = [.gone, .begun] ∧
    (∀ q, ∀ w ∈ ((run Fences.step Fences.init drain).fence q).writes, w.stage ≠ .running) ∧
    ((run Fences.step Fences.init drain).fence 0).register.2 = none := by
  have hh : ((run Fences.step Fences.init drain).fence 0).holds[0]? =
      some { stage := .held, reopened := false } := by decide
  obtain ⟨hn, hc⟩ := Fences.no_write_while_held drain hh rfl
  exact ⟨by decide, hn, (hc rfl).1⟩

end TwoReplicas

end Astronomer.Charlie
