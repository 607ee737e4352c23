import Mathlib.Data.List.Dedup
import Astronomer.Base.Json
import Astronomer.Base.Run

/-!
# Locks by key

A key has a slot in the map while a call holds, waits or is in progress. A slot that is dropped
from the map keeps its number, and the next `Lock` of the key makes one with a new number. The
critical sections of the map's mutex are single steps, so are the channel operations; a call is
named by its position in `calls`.
-/

namespace Astronomer.Lifecycle

open List

/-- Where a call of `Lock` is, up to the end of the first call of its unlock function:
`entered` before it looks at its context, `failing` before the drop that precedes its error,
`unlocking` before the receive and `releasing` before the drop that follows it. -/
inductive Phase where
  | entered | waiting | failing | failed | holding | unlocking | releasing | released
  deriving DecidableEq

structure Call (κ : Type) where
  key : κ
  slot : Nat
  phase : Phase := .entered
  cancelled : Bool := false

def Call.holds {κ : Type} (c : Call κ) : Bool :=
  match c.phase with
  | .holding | .unlocking => true
  | _ => false

def Call.live {κ : Type} (c : Call κ) : Bool :=
  match c.phase with
  | .failed | .released => false
  | _ => true

def Call.ref {κ : Type} (c : Call κ) : Bool × κ × Nat := (c.live, c.key, c.slot)

structure LockSlot where
  token : Bool := false
  refs : Int := 0

structure KeyedLock (κ : Type) where
  slots : List (κ × Nat) := []
  heap : Nat → LockSlot := fun _ => {}
  next : Nat := 0
  calls : List (Call κ) := []

/-- What the goroutine of a call does next, and what happens to its context. -/
inductive Action where
  | cancel | check | acquire | expire | unlock | receive | drop

/-- The next action of a call's goroutine, and the phase it comes to: a waiting call takes the
key, or gives up if its context is done. A call that is over has none. -/
def Call.next {κ : Type} (c : Call κ) : Option (Action × Phase) :=
  match c.phase with
  | .entered => some (.check, if c.cancelled then .failing else .waiting)
  | .waiting => some (if c.cancelled then (.expire, .failing) else (.acquire, .holding))
  | .failing => some (.drop, .failed)
  | .holding => some (.unlock, .unlocking)
  | .unlocking => some (.receive, .releasing)
  | .releasing => some (.drop, .released)
  | .failed | .released => none

inductive Event (κ : Type) where
  | lock (key : κ)
  | call (i : Nat) (action : Action)

namespace KeyedLock

variable {κ : Type} [DecidableEq κ]

def lock (s : KeyedLock κ) (key : κ) : KeyedLock κ :=
  match s.slots.lookup key with
  | some n =>
    { s with
      heap := Function.update s.heap n { s.heap n with refs := (s.heap n).refs + 1 }
      calls := s.calls ++ [{ key := key, slot := n }] }
  | none =>
    { slots := s.slots ++ [(key, s.next)]
      heap := Function.update s.heap s.next { refs := 1 }
      next := s.next + 1
      calls := s.calls ++ [{ key := key, slot := s.next }] }

def put (s : KeyedLock κ) (i : Nat) (c : Call κ) (x : LockSlot) : KeyedLock κ :=
  { s with heap := Function.update s.heap c.slot x, calls := s.calls.set i c }

def drop (s : KeyedLock κ) (i : Nat) (c : Call κ) : KeyedLock κ :=
  let x := { s.heap c.slot with refs := (s.heap c.slot).refs - 1 }
  { s.put i c x with slots := if x.refs = 0 then eraseKey c.key s.slots else s.slots }

/-- A goroutine that is not at the action, or has to wait for it, stays where it is. So does
one that calls an unlock function again: `once` has run. -/
def act (s : KeyedLock κ) (i : Nat) (c : Call κ) (action : Action) : KeyedLock κ :=
  let x := s.heap c.slot
  match action, c.phase with
  | .cancel, _ => s.put i { c with cancelled := true } x
  | .check, .entered => s.put i { c with phase := if c.cancelled then .failing else .waiting } x
  | .acquire, .waiting =>
    if x.token then s else s.put i { c with phase := .holding } { x with token := true }
  | .expire, .waiting => if c.cancelled then s.put i { c with phase := .failing } x else s
  | .unlock, .holding => s.put i { c with phase := .unlocking } x
  | .receive, .unlocking =>
    if x.token then s.put i { c with phase := .releasing } { x with token := false } else s
  | .drop, .failing => s.drop i { c with phase := .failed }
  | .drop, .releasing => s.drop i { c with phase := .released }
  | _, _ => s

def step (s : KeyedLock κ) : Event κ → KeyedLock κ
  | .lock key => s.lock key
  | .call i action =>
    match s.calls[i]? with
    | some c => s.act i c action
    | none => s

def tracked (s : KeyedLock κ) : Nat := s.slots.length

/-! ## What a slot counts -/

/-- The map holds just the slots that live calls refer to, one for each key. -/
structure Entries (slots : List (κ × Nat)) (refs : List (Bool × κ × Nat)) (next : Nat) :
    Prop where
  keys : (slots.map Prod.fst).Nodup
  mem : ∀ e, e ∈ slots ↔ (true, e) ∈ refs
  own : ∀ d ∈ refs, ∀ e ∈ refs, d.2.2 = e.2.2 → d.2.1 = e.2.1
  allocated : ∀ e ∈ refs, e.2.2 < next

def count (p : Call κ → Bool) (calls : List (Call κ)) (n : Nat) : Nat :=
  calls.countP fun c => p c && c.slot == n

structure Sound (s : KeyedLock κ) : Prop where
  entries : Entries s.slots (s.calls.map Call.ref) s.next
  refs : ∀ n, (s.heap n).refs = count Call.live s.calls n
  token : ∀ n, (s.heap n).token.toNat = count Call.holds s.calls n

section

omit [DecidableEq κ]

variable {s : KeyedLock κ} {i j n : Nat} {c c' d : Call κ} {x : LockSlot} {calls : List (Call κ)}
  {p : Call κ → Bool} {slots slots' : List (κ × Nat)} {refs : List (Bool × κ × Nat)}
  {next next' : Nat} {k : κ}

theorem live_of_holds (h : c.holds) : c.live := by
  unfold Call.holds at h
  unfold Call.live
  split at h <;> simp_all

theorem count_pos : 0 < count p calls n ↔ ∃ c ∈ calls, p c ∧ c.slot = n := by
  simp [count, countP_pos_iff]

theorem count_append :
    count p (calls ++ [c]) n = count p calls n + (p c && c.slot == n).toNat := by
  simp only [count, countP_append, countP_singleton]
  cases p c && c.slot == n <;> rfl

theorem count_set (p : Call κ → Bool) (c' : Call κ) (n : Nat) (hc : calls[i]? = some c) :
    count p (calls.set i c') n +
    (p c && c.slot == n).toNat = count p calls n + (p c' && c'.slot == n).toNat := by
  obtain ⟨hi, hg⟩ := List.getElem?_eq_some_iff.mp hc
  have hpos : (p c && c.slot == n) = true → 0 < count p calls n := fun hl =>
    countP_pos_iff.mpr ⟨c, mem_of_getElem? hc, hl⟩
  unfold count at hpos ⊢
  rw [countP_set hi, hg]
  split <;> grind

theorem Sound.holder_unique (h : s.Sound) (hc : s.calls[i]? = some c) (hd : s.calls[j]? = some d)
    (hhc : c.holds) (hhd : d.holds) (hsl : d.slot = c.slot) : i = j := by
  by_contra hij
  -- without `c`, the slot still counts `d`
  have hset := count_set Call.holds { c with phase := .failed } c.slot hc
  have hpos : 0 < count Call.holds (s.calls.set i { c with phase := .failed }) c.slot :=
    count_pos.mpr ⟨d, mem_of_getElem? ((getElem?_set_ne hij).trans hd), hhd, hsl⟩
  have ht := h.token c.slot
  have hle := Bool.toNat_le (s.heap c.slot).token
  have hf : ({ c with phase := .failed } : Call κ).holds = false := rfl
  simp only [hhc, hf, beq_self_eq_true, Bool.and_self, Bool.toNat_true, Bool.false_and,
    Bool.toNat_false] at hset
  omega

theorem ref_mem (hc : c ∈ calls) (hl : c.live) :
    (true, c.key, c.slot) ∈ calls.map Call.ref := mem_map.mpr ⟨c, hc, by simp [Call.ref, hl]⟩

theorem ref_mem_iff (hown : ∀ d ∈ calls, d.slot = n → d.key = k) :
    (true, k, n) ∈ calls.map Call.ref ↔ 0 < count Call.live calls n := by
  rw [count_pos, mem_map]
  constructor
  · rintro ⟨d, hd, heq⟩
    exact ⟨d, hd, congrArg Prod.fst heq, congrArg (·.2.2) heq⟩
  · rintro ⟨d, hd, hl, hsl⟩
    exact ⟨d, hd, by simp [Call.ref, hl, hsl, hown d hd hsl]⟩

theorem Sound.exclusive (h : s.Sound) (hc : s.calls[i]? = some c) (hd : s.calls[j]? = some d)
    (hh : c.holds) (hh' : d.holds) (hk : c.key = d.key) : i = j := by
  have hcm := ref_mem (mem_of_getElem? hc) (live_of_holds hh)
  have hdm := ref_mem (mem_of_getElem? hd) (live_of_holds hh')
  have heq := inj_on_of_nodup_map h.entries.keys ((h.entries.mem (c.key, d.slot)).mpr (hk ▸ hdm))
    ((h.entries.mem (c.key, c.slot)).mpr hcm) rfl
  exact h.holder_unique hc hd hh hh' (congrArg Prod.snd heq)

theorem Sound.token_of_holds (h : s.Sound) (hc : s.calls[i]? = some c) (hh : c.holds) :
    (s.heap c.slot).token := by
  have hpos := count_pos.mpr ⟨c, mem_of_getElem? hc, hh, rfl⟩
  rw [← h.token] at hpos
  cases hx : (s.heap c.slot).token with
  | true => rfl
  | false => simp [hx] at hpos

theorem Sound.key_eq (h : s.Sound) (hc : c ∈ s.calls) (hd : d ∈ s.calls) (hsl : d.slot = c.slot) :
    d.key = c.key := h.entries.own _ (mem_map_of_mem hd) _ (mem_map_of_mem hc) hsl

theorem Sound.holder_key (h : s.Sound) (hc : c ∈ s.calls)
    (ht : (s.heap c.slot).token) : ∃ d ∈ s.calls, d.key = c.key ∧ d.holds := by
  obtain ⟨d, hd, hh, hsl⟩ := count_pos.mp (Nat.lt_of_lt_of_eq (by simp [ht]) (h.token c.slot))
  exact ⟨d, hd, h.key_eq hc hd hsl, hh⟩

theorem sound_init : Sound ({} : KeyedLock κ) := by
  refine ⟨⟨nodup_nil, ?_, ?_, ?_⟩, fun _ => rfl, fun _ => rfl⟩ <;> simp

/-! ## A new call -/

theorem Entries.enter (h : Entries slots refs next) (hkeys : (slots'.map Prod.fst).Nodup)
    (hmem : ∀ e, e ∈ slots' ↔ e ∈ slots ∨ e = (k, n)) (hown : ∀ e ∈ refs, e.2.2 = n → e.2.1 = k)
    (hnext : next ≤ next') (hn : n < next') : Entries slots' (refs ++ [(true, k, n)]) next' := by
  refine ⟨hkeys, fun e => ?_, fun d hd e he hde => ?_, fun e he => ?_⟩
  · simp [hmem, h.mem]
  · simp only [mem_append, mem_singleton] at hd he
    rcases hd with hd | rfl <;> rcases he with he | rfl
    · exact h.own d hd e he hde
    · exact hown d hd hde
    · exact (hown e he hde.symm).symm
    · rfl
  · simp only [mem_append, mem_singleton] at he
    rcases he with he | rfl
    · exact Nat.lt_of_lt_of_le (h.allocated e he) hnext
    · exact hn

theorem Sound.enter (h : s.Sound)
    (he : Entries slots (s.calls.map Call.ref ++ [(true, k, n)]) next)
    (hr : x.refs = count Call.live s.calls n + 1)
    (ht : x.token.toNat = count Call.holds s.calls n) :
    Sound { slots := slots, heap := Function.update s.heap n x, next := next
            calls := s.calls ++ [{ key := k, slot := n }] } := by
  refine ⟨by simpa [Call.ref, Call.live] using he, fun m => ?_, fun m => ?_⟩
  · have hm := h.refs m
    by_cases hmn : m = n
    · subst hmn
      simp [count_append, hr, Call.live]
    · simp [count_append, hmn, beq_false_of_ne (Ne.symm hmn), hm]
  · have hm := h.token m
    by_cases hmn : m = n
    · subst hmn
      simp [count_append, ht, Call.holds]
    · simp [count_append, hmn, hm, Call.holds]

/-! ## A step of one call -/

theorem Sound.counts_put (h : s.Sound) (hc : s.calls[i]? = some c) (hsl : c'.slot = c.slot)
    (hr : x.refs + c.live.toNat = (s.heap c.slot).refs + c'.live.toNat)
    (ht : x.token.toNat + c.holds.toNat = (s.heap c.slot).token.toNat + c'.holds.toNat) (n : Nat) :
    ((s.put i c' x).heap n).refs = count Call.live (s.put i c' x).calls n ∧
      ((s.put i c' x).heap n).token.toNat = count Call.holds (s.put i c' x).calls n := by
  have hlive := count_set Call.live c' n hc
  have hholds := count_set Call.holds c' n hc
  have hrn := h.refs n
  have htn := h.token n
  simp only [put, hsl] at hlive hholds ⊢
  by_cases hn : n = c.slot
  · subst hn
    simp only [Function.update_self, beq_self_eq_true, Bool.and_true] at hlive hholds ⊢
    omega
  · have hb := beq_false_of_ne (Ne.symm hn)
    simp only [Function.update_of_ne hn, hb, Bool.and_false] at hlive hholds ⊢
    omega

theorem Sound.put (h : s.Sound) (hc : s.calls[i]? = some c) (href : c'.ref = c.ref)
    (hr : x.refs = (s.heap c.slot).refs)
    (ht : x.token.toNat + c.holds.toNat = (s.heap c.slot).token.toNat + c'.holds.toNat) :
    (s.put i c' x).Sound := by
  have hl : c'.live = c.live := congrArg Prod.fst href
  have hcounts := h.counts_put hc (congrArg (·.2.2) href) (by rw [hr, hl]) ht
  have hrefs : (s.put i c' x).calls.map Call.ref = s.calls.map Call.ref := by
    obtain ⟨hi, rfl⟩ := List.getElem?_eq_some_iff.mp hc
    rw [KeyedLock.put, map_set, href, ← map_set, set_getElem_self]
  exact ⟨hrefs ▸ h.entries, fun n => (hcounts n).1, fun n => (hcounts n).2⟩

theorem Entries.drop (h : Entries slots refs next) (hi : refs[i]? = some (true, k, n))
    (hkeys : (slots'.map Prod.fst).Nodup)
    (hmem : ∀ e, e ∈ slots' ↔ e ∈ slots ∧ (e = (k, n) → (true, k, n) ∈ refs.set i (false, k, n))) :
    Entries slots' (refs.set i (false, k, n)) next := by
  have hold : ∀ d ∈ refs.set i (false, k, n), ∃ d' ∈ refs, d'.2 = d.2 := by
    intro d hd
    rcases mem_or_eq_of_mem_set hd with hd | rfl
    · exact ⟨d, hd, rfl⟩
    · exact ⟨_, mem_of_getElem? hi, rfl⟩
  refine ⟨hkeys, fun e => ?_, fun d hd e he hde => ?_, fun e he => ?_⟩
  · rw [hmem, h.mem]
    constructor
    · rintro ⟨he, hkn⟩
      by_cases heq : e = (k, n)
      · exact heq ▸ hkn heq
      · obtain ⟨j, hj⟩ := getElem?_of_mem he
        refine mem_of_getElem? ((getElem?_set_ne ?_).trans hj)
        rintro rfl
        rw [hi] at hj
        cases hj
        exact heq rfl
    · intro he
      refine ⟨(mem_or_eq_of_mem_set he).resolve_right (by simp), ?_⟩
      rintro rfl
      exact he
  · obtain ⟨d', hd', heqd⟩ := hold d hd
    obtain ⟨e', he', heqe⟩ := hold e he
    rw [← heqd, ← heqe] at hde ⊢
    exact h.own d' hd' e' he' hde
  · obtain ⟨e', he', heqe⟩ := hold e he
    exact heqe ▸ h.allocated e' he'

end

variable {s : KeyedLock κ} {i : Nat} {c c' : Call κ} {k : κ}

theorem Sound.drop (h : s.Sound) (hc : s.calls[i]? = some c)
    (href : c'.ref = (false, c.key, c.slot)) (hl : c.live) (hh : c.holds = false) :
    (s.drop i c').Sound := by
  have hl' : c'.live = false := congrArg Prod.fst href
  have hk : c'.key = c.key := congrArg (·.2.1) href
  have hsl : c'.slot = c.slot := congrArg (·.2.2) href
  have hh' : c'.holds = false := eq_false_of_ne_true fun hx => by
    rw [live_of_holds hx] at hl'
    cases hl'
  have hcounts := h.counts_put hc hsl
    (x := { s.heap c'.slot with refs := (s.heap c'.slot).refs - 1 })
    (by simp [hsl, hl, hl']) (by simp [hsl, hh, hh'])
  have hmem := mem_of_getElem? hc
  have hin : (true, c.key, c.slot) ∈ (s.calls.set i c').map Call.ref ↔
      ¬ (s.heap c.slot).refs - 1 = 0 := by
    have hz := (hcounts c.slot).1
    simp only [KeyedLock.put, hsl, Function.update_self] at hz
    rw [hz, ref_mem_iff, Nat.pos_iff_ne_zero, Int.natCast_eq_zero]
    intro d hd hds
    rcases mem_or_eq_of_mem_set hd with hd | rfl
    · exact h.key_eq hmem hd hds
    · exact hk
  refine ⟨?_, fun n => (hcounts n).1, fun n => (hcounts n).2⟩
  simp only [KeyedLock.drop, KeyedLock.put, hsl, hk, map_set, href] at hin ⊢
  have hi : (s.calls.map Call.ref)[i]? = some (true, c.key, c.slot) := by simp [hc, Call.ref, hl]
  split
  next hz =>
    refine h.entries.drop hi ((filter_sublist.map _).nodup h.entries.keys) fun e => ?_
    simp only [hin, hz, not_true_eq_false, imp_false, eraseKey, mem_filter, decide_eq_true_eq]
    refine and_congr_right fun he => not_congr ⟨fun hek => ?_, fun hek => hek ▸ rfl⟩
    exact inj_on_of_nodup_map h.entries.keys he ((h.entries.mem _).mpr (mem_of_getElem? hi)) hek
  next hz => exact h.entries.drop hi h.entries.keys fun e => by simp [hin, hz]

theorem Sound.lock (h : s.Sound) : (s.lock k).Sound := by
  unfold KeyedLock.lock
  split
  next n hn =>
    have hmem : (k, n) ∈ s.slots := by
      obtain ⟨l1, l2, hl, -⟩ := lookup_eq_some_iff.mp hn
      rw [hl]
      exact mem_append_right _ mem_cons_self
    have href := (h.entries.mem _).mp hmem
    refine h.enter (h.entries.enter h.entries.keys (fun e => ?_)
      (fun e he hen => h.entries.own e he _ href hen) (Nat.le_refl _)
      (h.entries.allocated _ href)) (by simp [h.refs]) (h.token n)
    constructor
    · exact .inl
    · rintro (he | rfl)
      · exact he
      · exact hmem
  next hn =>
    have hfresh : ∀ e ∈ s.calls.map Call.ref, e.2.2 ≠ s.next := fun e he =>
      Nat.ne_of_lt (h.entries.allocated e he)
    have hzero : ∀ p : Call κ → Bool, count p s.calls s.next = 0 := fun p =>
      Nat.eq_zero_of_not_pos fun hp => by
        obtain ⟨c, hc, -, hsl⟩ := count_pos.mp hp
        exact hfresh _ (mem_map_of_mem hc) hsl
    refine h.enter (h.entries.enter ?_ (by simp) (fun e he hen => absurd hen (hfresh e he))
      (Nat.le_succ _) (Nat.lt_succ_self _)) (by simp [hzero]) (by simp [hzero])
    rw [map_append, nodup_append]
    refine ⟨h.entries.keys, by simp, fun k1 hk1 k2 hk2 => ?_⟩
    obtain ⟨e, he, rfl⟩ := mem_map.mp hk1
    obtain rfl := mem_singleton.mp hk2
    have hne := lookup_eq_none_iff.mp hn e he
    exact fun heq => absurd heq.symm (by simpa using hne)

/-! ## Every interleaving -/

theorem Sound.act (h : s.Sound) (hc : s.calls[i]? = some c) (a : Action) : (s.act i c a).Sound := by
  simp only [KeyedLock.act]
  split
  · exact h.put hc rfl rfl rfl
  all_goals rename_i hp
  · cases hx : c.cancelled <;>
      exact h.put hc (by simp [Call.ref, Call.live, hp]) rfl (by simp [Call.holds, hp])
  · split
    · exact h
    · exact h.put hc (by simp [Call.ref, Call.live, hp]) rfl (by simp_all [Call.holds])
  · split
    · exact h.put hc (by simp [Call.ref, Call.live, hp]) rfl (by simp [Call.holds, hp])
    · exact h
  · exact h.put hc (by simp [Call.ref, Call.live, hp]) rfl (by simp [Call.holds, hp])
  · split
    · exact h.put hc (by simp [Call.ref, Call.live, hp]) rfl (by simp_all [Call.holds])
    · exact h
  · exact h.drop hc rfl (by simp [Call.live, hp]) (by simp [Call.holds, hp])
  · exact h.drop hc rfl (by simp [Call.live, hp]) (by simp [Call.holds, hp])
  · exact h

theorem Sound.step (h : s.Sound) (e : Event κ) : (s.step e).Sound := by
  cases e with
  | lock key => exact h.lock
  | call i a =>
    simp only [KeyedLock.step]
    split
    · exact h.act ‹_› a
    · exact h

/-- A call that has returned an error is neither `live` nor `holds`, so no slot counts it. A
call makes its next step whatever the others do, but for one that waits for a holder of its
own key; a new call enters, and a received token leaves the key free. -/
structure LeakFree (s : KeyedLock κ) : Prop where
  exclusive : ∀ (i j : Nat) (c d), s.calls[i]? = some c → s.calls[j]? = some d →
    c.holds → d.holds → c.key = d.key → i = j
  blocked : ∀ (i : Nat) (c), s.calls[i]? = some c → c.phase = .waiting →
    (s.step (.call i .acquire)).calls[i]? = some c → ∃ d ∈ s.calls, d.key = c.key ∧ d.holds
  failed : ∀ c ∈ s.calls, c.phase = .failed → c.live = false ∧ c.holds = false
  counts : ∀ n, (s.heap n).refs = (s.calls.countP fun c => c.live && c.slot == n) ∧
    ((s.heap n).token ↔ ∃ c ∈ s.calls, c.holds ∧ c.slot = n)
  tracked : s.tracked = ((s.calls.filter Call.live).map Call.key).dedup.length
  progress : ∀ (i : Nat) (c), s.calls[i]? = some c → c.phase = .waiting →
    (∀ d ∈ s.calls, d.key = c.key → d.holds = false) →
      ∃ d, (s.step (.call i .acquire)).calls[i]? = some d ∧ d.key = c.key ∧ d.holds
  enters : ∀ key, ∃ n, (s.step (.lock key)).calls = s.calls ++ [{ key := key, slot := n }]
  cancels : ∀ (i : Nat) (c), s.calls[i]? = some c →
    (s.step (.call i .cancel)).calls[i]? = some { c with cancelled := true }
  moves : ∀ (i : Nat) (c a p), s.calls[i]? = some c → c.next = some (a, p) →
    (p = .holding → ∀ d ∈ s.calls, d.key = c.key → d.holds = false) →
      (s.step (.call i a)).calls[i]? = some { c with phase := p }
  frees : ∀ (i : Nat) (c), s.calls[i]? = some c → c.phase = .unlocking →
    ∀ d ∈ (s.step (.call i .receive)).calls, d.key = c.key → d.holds = false

theorem Sound.tracked_eq (h : s.Sound) :
    s.tracked = ((s.calls.filter Call.live).map Call.key).dedup.length := by
  have hp : (s.slots.map Prod.fst).Perm ((s.calls.filter Call.live).map Call.key).dedup := by
    refine (perm_ext_iff_of_nodup h.entries.keys (nodup_dedup _)).mpr fun k => ?_
    simp only [mem_dedup, mem_map, mem_filter, h.entries.mem]
    constructor
    · rintro ⟨e, ⟨c, hc, heq⟩, rfl⟩
      exact ⟨c, ⟨hc, congrArg Prod.fst heq⟩, congrArg (·.2.1) heq⟩
    · rintro ⟨c, ⟨hc, hl⟩, rfl⟩
      exact ⟨(c.key, c.slot), ⟨c, hc, by simp [Call.ref, hl]⟩, rfl⟩
  rw [← hp.length_eq, length_map]
  rfl

theorem step_acquire (hc : s.calls[i]? = some c) (hp : c.phase = .waiting)
    (ht : (s.heap c.slot).token = false) :
    (s.step (.call i .acquire)).calls = s.calls.set i { c with phase := .holding } := by
  simp [KeyedLock.step, hc, KeyedLock.act, hp, ht, KeyedLock.put]

theorem Sound.moves {a : Action} {p : Phase} (h : s.Sound) (hc : s.calls[i]? = some c)
    (hn : c.next = some (a, p)) (hf : p = .holding → (s.heap c.slot).token = false) :
    (s.step (.call i a)).calls = s.calls.set i { c with phase := p } := by
  cases hp : c.phase <;> simp only [Call.next, hp, Option.some.injEq, reduceCtorEq] at hn
  case waiting =>
    cases hx : c.cancelled with
    | false =>
      rw [hx] at hn
      obtain ⟨rfl, rfl⟩ := Prod.mk.inj hn
      rw [step_acquire hc hp (hf rfl), hx]
    | true =>
      rw [hx] at hn
      obtain ⟨rfl, rfl⟩ := Prod.mk.inj hn
      simp [KeyedLock.step, hc, KeyedLock.act, hp, hx, KeyedLock.put]
  all_goals
    obtain ⟨rfl, rfl⟩ := Prod.mk.inj hn
    simp [KeyedLock.step, hc, KeyedLock.act, hp, KeyedLock.put, KeyedLock.drop,
      h.token_of_holds hc, Call.holds]

theorem leakFree (events : List (Event κ)) : LeakFree (run step ({} : KeyedLock κ) events) := by
  have h : (run step ({} : KeyedLock κ) events).Sound :=
    run_preserves (fun _ e h => h.step e) sound_init
  generalize run step ({} : KeyedLock κ) events = s at h
  have hset : ∀ {i : Nat} {c d : Call κ}, s.calls[i]? = some c →
      (s.calls.set i d)[i]? = some d := fun hc =>
    getElem?_set_self (List.getElem?_eq_some_iff.mp hc).1
  have hfree : ∀ (i : Nat) (c), s.calls[i]? = some c →
      (∀ d ∈ s.calls, d.key = c.key → d.holds = false) → (s.heap c.slot).token = false := by
    intro i c hc hf
    refine eq_false_of_ne_true fun ht => ?_
    obtain ⟨d, hd, hk, hh⟩ := h.holder_key (mem_of_getElem? hc) ht
    rw [hf d hd hk] at hh
    cases hh
  refine ⟨fun i j c d => h.exclusive, fun i c hc hp hb => ?_, fun c _ hp => ?_,
    fun n => ⟨h.refs n, ?_⟩, h.tracked_eq, fun i c hc hp hf => ?_, fun key => ?_,
    fun i c hc => ?_, fun i c a p hc hn hf => ?_, fun i c hc hp d hd hk => ?_⟩
  · refine h.holder_key (mem_of_getElem? hc) (eq_true_of_ne_false fun ht => ?_)
    rw [step_acquire hc hp ht, hset hc] at hb
    have hph := congrArg Call.phase (Option.some.inj hb)
    rw [hp] at hph
    cases hph
  · simp [Call.live, Call.holds, hp]
  · rw [← count_pos, ← h.token n]
    cases (s.heap n).token <;> simp
  · rw [step_acquire hc hp (hfree i c hc hf), hset hc]
    exact ⟨_, rfl, rfl, rfl⟩
  · simp only [KeyedLock.step, KeyedLock.lock]
    split <;> exact ⟨_, rfl⟩
  · simp only [KeyedLock.step, hc, KeyedLock.act, KeyedLock.put, hset hc]
  · rw [h.moves hc hn fun hp => hfree i c hc (hf hp), hset hc]
  · rw [h.moves hc (a := .receive) (p := .releasing) (by simp [Call.next, hp]) (by simp)] at hd
    obtain ⟨j, hj⟩ := getElem?_of_mem hd
    by_cases hij : i = j
    · subst hij
      rw [hset hc] at hj
      cases hj
      rfl
    · rw [getElem?_set_ne hij] at hj
      exact eq_false_of_ne_true fun hh =>
        hij (h.exclusive hc hj (by simp [Call.holds, hp]) hh hk.symm)

/-- A call waits while another holds the key, takes it when that one has unlocked, and gives it
back; a third, cancelled while it waits, holds nothing. -/
theorem handover_leakFree :
    let held : List (Event Nat) := [.lock 5, .lock 5, .lock 5, .call 0 .check, .call 0 .acquire,
      .call 1 .check, .call 1 .acquire, .call 2 .check, .call 2 .cancel]
    let passed := held ++ [.call 0 .unlock, .call 2 .expire, .call 0 .receive, .call 1 .acquire,
      .call 0 .drop, .call 0 .unlock]
    let done := passed ++ [.call 2 .drop, .call 1 .unlock, .call 1 .receive, .call 1 .drop]
    (LeakFree (run step {} held) ∧
      (run step {} held).calls.map Call.phase = [.holding, .waiting, .waiting]) ∧
    (LeakFree (run step {} passed) ∧ (run step {} passed).tracked = 1 ∧
      (run step {} passed).calls.map Call.phase = [.released, .holding, .failing]) ∧
    LeakFree (run step {} done) ∧ (run step {} done).tracked = 0 ∧
      (run step {} done).calls.map Call.phase = [.released, .released, .failed] :=
  ⟨⟨leakFree _, rfl⟩, ⟨leakFree _, rfl, rfl⟩, leakFree _, rfl, rfl⟩

end KeyedLock

end Astronomer.Lifecycle
