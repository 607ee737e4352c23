import Mathlib.Data.List.Sort
import Astronomer.Base.Keyed
import Astronomer.Base.Run
import Astronomer.Maintenance.Window

/-!
# Deferred operations

The dispatcher does not look at a row again after it has listed it, so an operator's
cancellation is final only if no list in work holds the row.
-/

namespace Astronomer.Maintenance

open List

variable {err : String} {row : DeferredRow} {now : Time}

open Delivery (Time)

inductive Status where
  | pending | dispatched | expired | cancelled
  deriving DecidableEq

structure DeferredRow where
  (id windowID : Nat)
  operationType : String
  status : Status := .pending
  (deferredUntil expiresAt : Option Time)
  lastError : String := ""
  dispatchedAt : Option Time := none
  deriving DecidableEq

abbrev Operations := Keyed DeferredRow.id

/-! ## Queries -/

def dueFirst (a b : DeferredRow) : Bool :=
  match a.deferredUntil, b.deferredUntil with
  | none, _ => true
  | some _, none => false
  | some t, some u => decide (t ≤ u)

def dispatchBatchSize : Nat := 50

def listPendingDeferredOperations (t : Operations) (now : Time) : List DeferredRow :=
  ((t.rows.filter fun r => r.status == .pending && r.deferredUntil.all (· ≤ now)).insertionSort
    (fun a b => dueFirst a b = true)).take dispatchBatchSize

variable (t : Operations) (id : Nat)

def updateDeferred (f : DeferredRow → DeferredRow) (hf : ∀ r, (f r).id = r.id) : Operations :=
  t.update (fun r => r.id == id) f hf

def markDeferredDispatched (at' : Time) : Operations :=
  updateDeferred t id ({ · with status := .dispatched, dispatchedAt := some at' }) fun _ => rfl

def markDeferredExpired (lastError : String) : Operations :=
  updateDeferred t id ({ · with status := .expired, lastError }) fun _ => rfl

def markDeferredCancelled (lastError : String) : Operations :=
  updateDeferred t id ({ · with status := .cancelled, lastError }) fun _ => rfl

def markDeferredFailed (lastError : String) : Operations :=
  updateDeferred t id ({ · with lastError }) fun _ => rfl

/-! ## The dispatcher -/

inductive Position where
  | idle
  | working (now : Time) (rows : List DeferredRow)
  | replaying (now : Time) (row : DeferredRow) (rest : List DeferredRow)
  | marking (now : Time) (row : DeferredRow) (failure : Option String) (rest : List DeferredRow)
  deriving DecidableEq

def Position.held : Position → List Nat
  | .idle => []
  | .working _ rows => rows.map DeferredRow.id
  | .replaying _ row rest => row.id :: rest.map DeferredRow.id
  | .marking _ row _ rest => row.id :: rest.map DeferredRow.id

structure World where
  operations : Operations
  position : Position := .idle
  cancelled : List Nat := []

inductive Event where
  | tick (now : Time)
  | proceed (failure : Option String) (at' : Time)
  | stop
  | cancel (id : Nat)
  | store (id : Nat) (row : DeferredParams)

structure Dispatcher where
  replayers : List String
  rfc3339 : Time → String

variable (d : Dispatcher)

def DeferredRow.expiredAt (r : DeferredRow) (now : Time) : Bool := r.expiresAt.any (· < now)

def World.handle (w : World) (now : Time) (row : DeferredRow) (rest : List DeferredRow) : World :=
  if row.expiredAt now then
    { w with operations := markDeferredExpired w.operations row.id
              ("expired at " ++ d.rfc3339 (row.expiresAt.getD 0) ++ " before window opened")
             position := .working now rest }
  else if !d.replayers.contains row.operationType then
    { w with operations := markDeferredFailed w.operations row.id
              ("no replayer registered for op_type \"" ++ row.operationType ++ "\"")
             position := .working now rest }
  else { w with position := .replaying now row rest }

def World.finish (w : World) (now : Time) (row : DeferredRow) (failure : Option String)
    (rest : List DeferredRow) (at' : Time) : World :=
  match failure with
  | some err =>
    { w with operations := markDeferredFailed w.operations row.id ("replay failed: " ++ err)
             position := .working now rest }
  | none =>
    { w with operations := markDeferredDispatched w.operations row.id at'
             position := .working now rest }

def World.proceed (w : World) (failure : Option String) (at' : Time) : World :=
  match w.position with
  | .idle => w
  | .working _ [] => { w with position := .idle }
  | .working now (row :: rest) => w.handle d now row rest
  | .replaying now row rest => { w with position := .marking now row failure rest }
  | .marking now row failure rest => w.finish now row failure rest at'

def World.cancel (w : World) (id : Nat) : World :=
  match w.operations.get id with
  | none => w
  | some row =>
    if row.status ≠ .pending then w
    else
      { w with operations := markDeferredCancelled w.operations id "cancelled by operator"
               cancelled := id :: w.cancelled }

def deferredRow (id : Nat) (row : DeferredParams) : DeferredRow :=
  { id, windowID := row.windowID, operationType := row.operationType
    deferredUntil := row.deferredUntil, expiresAt := row.expiresAt }

def World.store (w : World) (id : Nat) (row : DeferredParams) : World :=
  if h : w.operations.get (deferredRow id row).id = none then
    { w with operations := w.operations.insert (deferredRow id row) h }
  else w

def World.step (w : World) : Event → World
  | .tick now =>
    if w.position = .idle then
      { w with position := .working now (listPendingDeferredOperations w.operations now) }
    else w
  | .proceed failure at' => w.proceed d failure at'
  | .stop => { w with position := .idle }
  | .cancel id => w.cancel id
  | .store id row => w.store id row

def World.starts (w : World) (e : Event) : Option Nat :=
  match w.position, (w.step d e).position with
  | .working _ _, .replaying _ row _ => some row.id
  | _, _ => none

/-! ## What the table says of an operation -/

def statusIn (t : Operations) (id : Nat) : Option Status := (t.get id).map DeferredRow.status

variable {d} {w : World} {e : Event} {t t' : Operations} {id key : Nat}

def OnlyAt (id : Nat) (t t' : Operations) : Prop := ∀ x, x ≠ id → statusIn t' x = statusIn t x

theorem statusIn_updateDeferred {f hf} : statusIn (updateDeferred t key f hf) id =
      if id = key then (t.get id).map fun r => (f r).status else statusIn t id := by
  rw [statusIn, statusIn, updateDeferred, Keyed.get_update, Option.map_map]
  cases h : t.get id with
  | none => simp
  | some r =>
    obtain rfl := Keyed.key_of_get h
    by_cases hk : r.id = key
    · simp [hk]
    · simp [hk]

theorem onlyAt_updateDeferred {f hf} :
    OnlyAt key t (updateDeferred t key f hf) := fun _ hx => by
  rw [statusIn_updateDeferred, if_neg hx]

theorem onlyAt_dispatched {at'} : OnlyAt key t (markDeferredDispatched t key at') :=
  onlyAt_updateDeferred

theorem onlyAt_expired : OnlyAt key t (markDeferredExpired t key err) := onlyAt_updateDeferred

theorem onlyAt_cancelled : OnlyAt key t (markDeferredCancelled t key err) := onlyAt_updateDeferred

theorem onlyAt_failed : OnlyAt key t (markDeferredFailed t key err) := onlyAt_updateDeferred

theorem statusIn_store {row s} (h : statusIn w.operations id = some s) :
    statusIn (w.store key row).operations id = some s := by
  unfold World.store
  split
  next hn =>
    have hne : (deferredRow key row).id ≠ id := by
      rintro rfl
      rw [statusIn, hn] at h
      cases h
    dsimp only
    rw [statusIn, Keyed.get_insert, if_neg hne]
    exact h
  · exact h

/-! ## A list in work -/

theorem mem_listPending
    (h : row ∈ listPendingDeferredOperations t now) : row ∈ t.rows ∧ row.status = .pending := by
  have hmem := mem_of_mem_take h
  rw [mem_insertionSort, mem_filter, Bool.and_eq_true, beq_iff_eq] at hmem
  exact ⟨hmem.1, hmem.2.1⟩

theorem nodup_listPending :
    ((listPendingDeferredOperations t now).map DeferredRow.id).Nodup := by
  have hf : ((t.rows.filter fun r =>
      r.status == .pending && r.deferredUntil.all (· ≤ now)).map DeferredRow.id).Nodup :=
    t.nodup.sublist (filter_sublist.map _)
  have hs := ((perm_insertionSort (fun a b => dueFirst a b = true) _).map
    DeferredRow.id).nodup_iff.mpr hf
  exact hs.sublist ((take_sublist _ _).map _)

/-- Every operation of the list in work is pending and there once, and every cancelled
operation is cancelled. -/
structure Settled (w : World) : Prop where
  pending : ∀ id ∈ w.position.held, statusIn w.operations id = some .pending
  nodup : w.position.held.Nodup
  cancelled : ∀ id ∈ w.cancelled, statusIn w.operations id = some .cancelled

def Unheld (w : World) : Event → Prop
  | .cancel id => id ∉ w.position.held
  | _ => True

instance Unheld.decidable : ∀ e, Decidable (Unheld w e)
  | .cancel id => inferInstanceAs (Decidable (id ∉ w.position.held))
  | .tick _ => isTrue trivial
  | .proceed _ _ => isTrue trivial
  | .stop => isTrue trivial
  | .store _ _ => isTrue trivial

section

variable (h : Settled w)

include h

theorem Settled.notMem_cancelled (hid : id ∈ w.position.held) :
    id ∉ w.cancelled := by
  intro hc
  have hb := (h.pending id hid).symm.trans (h.cancelled id hc)
  cases hb

theorem Settled.next {rest : List DeferredRow}
    (hh : w.position.held = id :: rest.map DeferredRow.id)
    (ho : OnlyAt id w.operations t) :
    Settled { w with operations := t, position := .working now rest } := by
  have hid : id ∈ w.position.held := hh ▸ mem_cons_self
  have hnd := h.nodup
  rw [hh, nodup_cons] at hnd
  refine ⟨fun x hx => ?_, hnd.2, fun x hx => ?_⟩
  · have hne : x ≠ id := fun heq => hnd.1 (heq ▸ hx)
    rw [ho x hne]
    exact h.pending x (hh ▸ mem_cons_of_mem _ hx)
  · have hne : x ≠ id := fun heq => h.notMem_cancelled hid (heq ▸ hx)
    rw [ho x hne]
    exact h.cancelled x hx

theorem Settled.moved {p : Position} (hh : p.held = w.position.held) :
    Settled { w with position := p } :=
  ⟨fun x hx => h.pending x (hh ▸ hx), by rw [hh]; exact h.nodup, h.cancelled⟩

theorem Settled.proceed {failure at'} :
    Settled (w.proceed d failure at') := by
  unfold World.proceed
  split
  · exact h
  · exact ⟨fun x hx => (not_mem_nil hx).elim, nodup_nil, h.cancelled⟩
  next now row rest hp =>
    have hh : w.position.held = row.id :: rest.map DeferredRow.id := by rw [hp]; rfl
    unfold World.handle
    split
    · exact h.next hh onlyAt_expired
    · split
      · exact h.next hh onlyAt_failed
      · exact h.moved hh.symm
  next now row rest hp => exact h.moved (by rw [hp]; rfl)
  next now row failure' rest hp =>
    have hh : w.position.held = row.id :: rest.map DeferredRow.id := by rw [hp]; rfl
    unfold World.finish
    split
    · exact h.next hh onlyAt_failed
    · exact h.next hh onlyAt_dispatched

theorem Settled.cancel (hh : id ∉ w.position.held) : Settled (w.cancel id) := by
  unfold World.cancel
  split
  · exact h
  next row hr =>
    split
    · exact h
    · have hid : id ∉ w.cancelled := by
        intro hc
        have hs := h.cancelled id hc
        rw [statusIn, hr] at hs
        simp_all
      refine ⟨fun x hx => ?_, h.nodup, fun x hx => ?_⟩
      · have hne : x ≠ id := fun heq => hh (heq ▸ hx)
        exact (onlyAt_cancelled x hne).trans (h.pending x hx)
      · rcases mem_cons.mp hx with rfl | hx
        · rw [markDeferredCancelled, statusIn_updateDeferred, if_pos rfl, hr]
          rfl
        · have hne : x ≠ id := fun heq => hid (heq ▸ hx)
          exact (onlyAt_cancelled x hne).trans (h.cancelled x hx)

theorem Settled.store {row} : Settled (w.store id row) := by
  have hs : (w.store id row).position = w.position ∧ (w.store id row).cancelled = w.cancelled := by
    unfold World.store
    split <;> exact ⟨rfl, rfl⟩
  refine ⟨fun x hx => ?_, by rw [hs.1]; exact h.nodup, fun x hx => ?_⟩
  · exact statusIn_store (h.pending x (hs.1 ▸ hx))
  · exact statusIn_store (h.cancelled x (hs.2 ▸ hx))

theorem Settled.step (hu : Unheld w e) : Settled (w.step d e) := by
  cases e with
  | tick now =>
    simp only [World.step]
    split
    · refine ⟨fun x hx => ?_, nodup_listPending, h.cancelled⟩
      obtain ⟨row, hr, rfl⟩ := mem_map.mp hx
      obtain ⟨hmem, hpd⟩ := mem_listPending hr
      rw [statusIn, Keyed.get_of_mem hmem, Option.map_some, hpd]
    · exact h
  | proceed failure at' => exact h.proceed
  | stop => exact ⟨fun x hx => (not_mem_nil hx).elim, nodup_nil, h.cancelled⟩
  | cancel id => exact h.cancel hu
  | store id row => exact h.store

end

/-! ## Cancellation -/

def SparesCancelled (d : Dispatcher) (w : World) (e : Event) : Prop :=
  ∀ id ∈ w.starts d e, id ∉ w.cancelled

def KeepsFinal (d : Dispatcher) (w : World) (e : Event) : Prop :=
  ∀ id s, statusIn w.operations id = some s → s ≠ .pending →
    statusIn (w.step d e).operations id = some s

theorem starts_eq_some (h : w.starts d e = some id) : id ∈ w.position.held := by
  unfold World.starts at h
  split at h
  next now rows now' row rest hp hstep =>
    obtain rfl := Option.some.inj h
    -- only the body of the loop calls a replayer
    cases e with
    | tick t => simp [World.step, hp] at hstep
    | stop => cases hstep
    | cancel x =>
      have hs : (w.cancel x).position = w.position := by
        unfold World.cancel
        split
        · rfl
        · split <;> rfl
      rw [World.step, hs, hp] at hstep
      cases hstep
    | store x r =>
      have hs : (w.store x r).position = w.position := by
        unfold World.store
        split <;> rfl
      rw [World.step, hs, hp] at hstep
      cases hstep
    | proceed failure at' =>
      simp only [World.step, World.proceed, hp] at hstep
      split at hstep
      · simp_all
      · simp_all
      next heq =>
        cases heq
        unfold World.handle at hstep
        split at hstep
        · cases hstep
        · split at hstep
          · cases hstep
          · cases hstep
            rw [hp]
            exact mem_cons_self
      · simp_all
      · simp_all
  · cases h

theorem keeps_of_onlyAt (hpd : statusIn t key = some .pending) (ho : OnlyAt key t t') {s}
    (hs : statusIn t id = some s) (hf : s ≠ .pending) : statusIn t' id = some s := by
  have hne : id ≠ key := by
    rintro rfl
    exact hf (Option.some.inj (hs.symm.trans hpd))
  rw [ho id hne, hs]

theorem Settled.keepsFinal (h : Settled w) : KeepsFinal d w e := by
  intro id s hs hf
  cases e with
  | tick now =>
    simp only [World.step]
    split <;> exact hs
  | stop => exact hs
  | proceed failure at' =>
    simp only [World.step, World.proceed]
    split
    · exact hs
    · exact hs
    next now row rest hp =>
      have hpd := h.pending row.id (by rw [hp]; exact mem_cons_self)
      unfold World.handle
      split
      · exact keeps_of_onlyAt hpd onlyAt_expired hs hf
      · split
        · exact keeps_of_onlyAt hpd onlyAt_failed hs hf
        · exact hs
    · exact hs
    next now row failure' rest hp =>
      have hpd := h.pending row.id (by rw [hp]; exact mem_cons_self)
      unfold World.finish
      split
      · exact keeps_of_onlyAt hpd onlyAt_failed hs hf
      · exact keeps_of_onlyAt hpd onlyAt_dispatched hs hf
  | cancel key =>
    simp only [World.step, World.cancel]
    split
    · exact hs
    next row hr =>
      split
      · exact hs
      next hpd =>
        have hst : statusIn w.operations key = some .pending := by
          rw [statusIn, hr, Option.map_some, not_not.mp hpd]
        exact keeps_of_onlyAt hst onlyAt_cancelled hs hf
  | store key row => exact statusIn_store hs

theorem settled_of_idle (hi : w.position = .idle) (hc : w.cancelled = []) :
    Settled w := by
  refine ⟨fun x hx => ?_, ?_, fun x hx => ?_⟩
  · rw [hi] at hx
    exact (not_mem_nil hx).elim
  · rw [hi]
    exact nodup_nil
  · rw [hc] at hx
    exact (not_mem_nil hx).elim

/-- **A cancellation is final** in every run in which none commits for a row that the
dispatcher has listed and not finished with: no replay of a cancelled operation starts, and no
operation leaves `cancelled`, `dispatched` or `expired`. -/
theorem cancellation_final_of_unheld (d : Dispatcher) (start : World) (es : List Event)
    (hidle : start.position = .idle) (hcancelled : start.cancelled = [])
    (hunheld : RunMeets (World.step d) Unheld start es) :
    RunMeets (World.step d) (fun w e => SparesCancelled d w e ∧ KeepsFinal d w e) start es :=
  hunheld.of_invariant (fun _ _ h he => h.step he)
    (fun _ _ h _ => ⟨fun _ hid => h.notMem_cancelled (starts_eq_some hid), h.keepsFinal⟩)
    (settled_of_idle hidle hcancelled)

/-! ## Two operations in one list -/

namespace TwoDue

def dispatcher : Dispatcher := { replayers := ["cluster.delete"], rfc3339 := fun _ => "" }

def due (id : Nat) : DeferredRow :=
  { id, windowID := 1, operationType := "cluster.delete", deferredUntil := some 0
    expiresAt := some 100 }

def start : World := { operations := ⟨[due 1, due 2], by decide⟩ }

def proceed : Event := .proceed none 10

def cancelledBefore : List Event :=
  [.cancel 2, .tick 10, proceed, proceed, proceed, proceed]

def cancelledMeanwhile : List Event := [.tick 10, proceed, .cancel 2, proceed, proceed]

end TwoDue

open TwoDue in
/-- An operation that was cancelled before the tick stays so. -/
theorem cancelledBefore_final :
    (run (World.step dispatcher) start cancelledBefore).cancelled = [2] ∧
      RunMeets (World.step dispatcher)
        (fun w e => SparesCancelled dispatcher w e ∧ KeepsFinal dispatcher w e) start
        cancelledBefore :=
  ⟨by decide, cancellation_final_of_unheld dispatcher start cancelledBefore rfl rfl (by decide)⟩

open TwoDue in
/-- An operation that is cancelled while an earlier one of its list is replayed is replayed
next, and then marked as dispatched. -/
theorem cancelledMeanwhile_replayed :
    statusIn (run (World.step dispatcher) start cancelledMeanwhile).operations 2 = some .cancelled ∧
      2 ∈ (run (World.step dispatcher) start cancelledMeanwhile).cancelled ∧
      (run (World.step dispatcher) start cancelledMeanwhile).starts dispatcher proceed = some 2 ∧
      statusIn (run (World.step dispatcher) start
        (cancelledMeanwhile ++ [proceed, proceed, proceed])).operations 2 = some .dispatched := by
  decide

end Astronomer.Maintenance
