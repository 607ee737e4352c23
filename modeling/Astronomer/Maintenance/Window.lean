import Astronomer.Base.Schedule
import Astronomer.Delivery.Basic

/-!
# Maintenance windows

A window opens at the instants of a cron expression and stays open for a duration. A blackout
window blocks its operations while it is open, a permitted window while it is closed. Time
zones and cron expressions are the `Calendar`.
-/

namespace Astronomer.Maintenance

open Delivery (Time trimSpace)

inductive Mode where
  | blackout | permitted
  deriving DecidableEq

inductive OnBlock where
  | refuse | defer
  deriving DecidableEq

structure Window where
  id : Nat
  name : String := ""
  mode : Mode
  cronOpen : String
  durationMinutes : Int
  timezone : String := ""
  clusterSelector : List (String × String) := []
  operationTypes : List String := []
  onBlock : OnBlock
  enabled : Bool := true
  deriving DecidableEq

abbrev Location := String

structure Calendar where
  load : String → Except String Location
  parse : String → Except String (Location → Schedule)

abbrev Labels := List (String × String)

def minute : Int := 60 * 10 ^ 9

def Window.duration (w : Window) : Int := w.durationMinutes * minute

variable (cal : Calendar)

def loadLocation (name : String) : Except String Location :=
  if name = "" then .ok "UTC" else cal.load name

def Window.schedule (w : Window) : Except String Schedule := do
  let loc ← loadLocation cal w.timezone
  let expr ← cal.parse (trimSpace w.cronOpen)
  pure (expr loc)

def isActive (w : Window) (now : Time) : Except String Bool := do
  let schedule ← w.schedule cal
  pure (if w.duration ≤ 0 then false else schedule.openAt w.duration now)

def nextOpen (w : Window) (now : Time) : Option Time :=
  match w.schedule cal with
  | .error _ => none
  | .ok schedule => schedule.next now

def nextClose (w : Window) (now : Time) : Option Time :=
  match w.schedule cal with
  | .error _ => none
  | .ok schedule => (schedule.lastUpTo now (now - w.duration) none).map (· + w.duration)

def appliesToOp (w : Window) (opType : String) : Bool :=
  w.operationTypes.isEmpty || w.operationTypes.contains opType

def Labels.get (labels : Labels) (k : String) : String :=
  ((labels.find? (·.1 == k)).map Prod.snd).getD ""

def appliesToCluster (w : Window) (labels : Labels) : Bool :=
  w.clusterSelector.isEmpty ||
    (!labels.isEmpty && w.clusterSelector.all fun entry => labels.get entry.1 == entry.2)

def applies (mode : Mode) (opType : String) (labels : Labels) (w : Window) : Bool :=
  w.enabled && w.mode == mode && appliesToOp w opType && appliesToCluster w labels

structure Tally where
  matched : Nat := 0
  activeCount : Nat := 0
  firstInactive : Option Window := none

def Tally.add (opType : String) (labels : Labels) (now : Time) (t : Tally) (w : Window) : Tally :=
  if applies .permitted opType labels w then
    match isActive cal w now with
    | .error _ => t
    | .ok true => { t with matched := t.matched + 1, activeCount := t.activeCount + 1 }
    | .ok false => { t with matched := t.matched + 1, firstInactive := t.firstInactive <|> some w }
  else t

def isBlocked (windows : Except String (List Window)) (opType : String) (labels : Labels)
    (now : Time) : Except String (Bool × Option Window) := do
  let windows ← windows
  match windows.find? fun w =>
      applies .blackout opType labels w && isActive cal w now matches .ok true with
  | some w => pure (true, some w)
  | none =>
    let t := windows.foldl (Tally.add cal opType labels now) {}
    pure (if 0 < t.matched ∧ t.activeCount = 0 then (true, t.firstInactive) else (false, none))

/-! ## The gate -/

structure Gate where
  windows : Option (Except String (List Window))
  queries : Bool := true
  cipher : Bool := true
  runTx : Bool := true

structure Storing where
  captured : Bool := true
  encoded : Bool := true
  sealed : Bool := true
  stored : Bool := true

structure DeferredParams where
  windowID : Nat
  operationType : String
  (deferredUntil expiresAt : Option Time)
  deriving DecidableEq

inductive Response where
  | passed
  | refused (w : Window) (opensAt nextOpen : Option Time) (degraded : String)
  | deferred (w : Window) (row : DeferredParams)
  deriving DecidableEq

def respondMaintenanceRefuse (w : Window) (now : Time) (degraded : String) : Response :=
  .refused w (if w.mode = .blackout then nextClose cal w now else none) (nextOpen cal w now)
    degraded

def day : Int := 24 * 60 * minute

def deferredParams (w : Window) (opType : String) (now : Time) : DeferredParams :=
  { windowID := w.id, operationType := opType, deferredUntil := nextOpen cal w now
    expiresAt := (nextOpen cal w now).map (· + day) }

def enforceMaintenanceWindow (gate : Gate) (storing : Storing) (opType : String)
    (labels : Labels) (now : Time) : Response :=
  match gate.windows with
  | none => .passed
  | some windows =>
    match isBlocked cal windows opType labels now with
    | .error _ => .passed
    | .ok (false, _) => .passed
    | .ok (true, none) => .passed
    | .ok (true, some w) =>
      if w.onBlock = .refuse then respondMaintenanceRefuse cal w now ""
      else if !gate.queries || !gate.cipher then
        respondMaintenanceRefuse cal w now "defer_storage_or_encryption_unavailable"
      else if !storing.captured then
        respondMaintenanceRefuse cal w now "defer_request_capture_failed"
      else if !storing.encoded then respondMaintenanceRefuse cal w now ""
      else if !storing.sealed then respondMaintenanceRefuse cal w now "defer_encrypt_failed"
      else if !gate.runTx then
        respondMaintenanceRefuse cal w now "transaction_runner_unavailable"
      else if !storing.stored then respondMaintenanceRefuse cal w now "defer_persistence_failed"
      else .deferred w (deferredParams cal w opType now)

/-! ## When a window blocks -/

def Blocks (w : Window) (t : Time) : Prop :=
  match w.mode with
  | .blackout => isActive cal w t = .ok true
  | .permitted => isActive cal w t = .ok false

/-- The first moment at which the dispatcher may take the row: a row without `deferred_until`
is due at once. -/
def DeferredParams.due (row : DeferredParams) (now : Time) : Time := row.deferredUntil.getD now

def OpensAfter (w : Window) (now : Time) : Prop :=
  ∃ schedule, w.schedule cal = .ok schedule ∧ ∃ t ∈ schedule.fires, now < t

variable {cal} {w : Window} {now t : Time} {opType : String} {labels : Labels}
  {windows : List Window}

theorem isActive_eq_ok {active} (hp : 0 < w.durationMinutes) : isActive cal w t = .ok active ↔
      ∃ schedule, w.schedule cal = .ok schedule ∧ schedule.openAt w.duration t = active := by
  have hd : ¬ w.duration ≤ 0 := by
    unfold Window.duration minute
    omega
  simp only [isActive, bind_eq_ok, pure_eq_ok, if_neg hd]

theorem firstInactive_tally
    (h : (windows.foldl (Tally.add cal opType labels now) {}).firstInactive =
    some w) : w ∈ windows ∧ applies .permitted opType labels w ∧
      isActive cal w now = .ok false := by
  -- the invariant of the loop over the windows
  have hl : ∀ (ws : List Window) (t : Tally), (∀ x ∈ ws, x ∈ windows) →
      (∀ x, t.firstInactive = some x → x ∈ windows ∧ applies .permitted opType labels x ∧
        isActive cal x now = .ok false) →
      ∀ x, (ws.foldl (Tally.add cal opType labels now) t).firstInactive = some x →
        x ∈ windows ∧ applies .permitted opType labels x ∧
          isActive cal x now = .ok false := by
    intro ws
    induction ws with
    | nil => exact fun t _ ht => ht
    | cons y ws ih =>
      intro t hws ht
      refine ih _ (fun x hx => hws x (List.mem_cons_of_mem _ hx)) fun x hx => ?_
      unfold Tally.add at hx
      split at hx
      next hap =>
        split at hx
        · exact ht x hx
        · exact ht x hx
        next hi =>
          cases hf : t.firstInactive with
          | some z =>
            rw [hf] at hx
            exact ht x (hf.trans hx)
          | none =>
            rw [hf] at hx
            obtain rfl := Option.some.inj hx
            exact ⟨hws _ List.mem_cons_self, hap, hi⟩
      · exact ht x hx
  exact hl windows {} (fun _ hx => hx) nofun w h

theorem mode_of_applies {mode} (h : applies mode opType labels w) :
    w.mode = mode := by
  simp only [applies, Bool.and_eq_true, beq_iff_eq] at h
  exact h.1.1.2

theorem isBlocked_eq_some {reading}
    (h : isBlocked cal reading opType labels now = .ok (true, some w)) :
    ∃ windows, reading = .ok windows ∧ w ∈ windows ∧ applies w.mode opType labels w ∧
      Blocks cal w now := by
  simp only [isBlocked, bind_eq_ok] at h
  obtain ⟨windows, hr, h⟩ := h
  refine ⟨windows, hr, ?_⟩
  split at h
  next x hx =>
    obtain rfl : x = w := by simpa using h
    have hf := List.find?_some hx
    rw [Bool.and_eq_true] at hf
    obtain ⟨hap, ha⟩ := hf
    have hm := mode_of_applies hap
    rw [Blocks, hm]
    refine ⟨List.mem_of_find?_eq_some hx, hap, ?_⟩
    split at ha
    · assumption
    · cases ha
  · simp only [pure_eq_ok] at h
    split at h
    · simp only [Prod.mk.injEq, true_and] at h
      obtain ⟨hmem, hap, hi⟩ := firstInactive_tally h
      have hm := mode_of_applies hap
      rw [Blocks, hm]
      exact ⟨hmem, hap, hi⟩
    · simp at h

theorem enforce_eq_deferred {gate storing row}
    (h : enforceMaintenanceWindow cal gate storing opType labels now = .deferred w row) :
    Blocks cal w now ∧ w.onBlock = .defer ∧ row = deferredParams cal w opType now := by
  unfold enforceMaintenanceWindow respondMaintenanceRefuse at h
  split at h
  · cases h
  split at h
  · cases h
  · cases h
  · cases h
  next x hx =>
    -- every way out but the last is a refusal
    split at h
    · cases h
    rename_i hr
    split at h
    · cases h
    split at h
    · cases h
    split at h
    · cases h
    split at h
    · cases h
    split at h
    · cases h
    split at h
    · cases h
    · cases h
      obtain ⟨_, -, -, -, hb⟩ := isBlocked_eq_some hx
      refine ⟨hb, ?_, rfl⟩
      cases hon : w.onBlock with
      | refuse => exact absurd hon hr
      | defer => rfl

theorem isActive_nextOpen (hp : 0 < w.durationMinutes) (h : nextOpen cal w now = some t) :
    isActive cal w t = .ok true := by
  unfold nextOpen at h
  split at h
  · cases h
  next schedule hs =>
    have hd : 0 < w.duration := by
      unfold Window.duration minute
      omega
    exact (isActive_eq_ok hp).mpr ⟨schedule, hs, Schedule.openAt_next hd h⟩

theorem nextOpen_isSome_iff : (nextOpen cal w now).isSome ↔ OpensAfter cal w now := by
  unfold nextOpen OpensAfter
  split
  next hs => simp [hs]
  next schedule hs =>
    rw [Schedule.isSome_next_iff, hs]
    simp

/-- **When a deferred operation may run.** At the `deferred_until` that the gate stores, the
window that blocked the operation lets it through exactly if it is a permitted window that
opens again: the stored time is an opening, and a blackout window blocks from its opening on. -/
theorem unblocked_when_due_iff (cal : Calendar) (gate : Gate) (storing : Storing)
    (opType : String) (labels : Labels) (now : Time) (w : Window) (row : DeferredParams)
    (hpos : 0 < w.durationMinutes)
    (h : enforceMaintenanceWindow cal gate storing opType labels now = .deferred w row) :
    ¬ Blocks cal w (row.due now) ↔ w.mode = .permitted ∧ OpensAfter cal w now := by
  obtain ⟨hb, -, rfl⟩ := enforce_eq_deferred h
  rw [← nextOpen_isSome_iff]
  cases hn : nextOpen cal w now with
  | none =>
    -- nothing is stored, and the row is due while the window still blocks
    have hd : (deferredParams cal w opType now).due now = now := by
      simp [DeferredParams.due, deferredParams, hn]
    rw [hd]
    simp [hb]
  | some t =>
    have hd : (deferredParams cal w opType now).due now = t := by
      simp [DeferredParams.due, deferredParams, hn]
    have ha := isActive_nextOpen hpos hn
    rw [hd, Blocks]
    cases w.mode with
    | blackout | permitted => simp [ha]

/-! ## The end of a blackout -/

/-- What `CommitWrite` gets from its caller and its store, and the two times it reads. -/
structure CommitCall where
  write : Bool := true
  auto : Bool := false
  binding : Except String Unit := .ok ()
  windows : Except String (List Window)
  stored : Except String Unit := .ok ()
  reserved : Except String Unit := .ok ()
  (checkedAt now : Time)

inductive Committed where
  | done
  | deferred (w : Window) (deferredUntil expiresAt : Time)

variable (cal) in
def commitWrite (call : CommitCall) : Except String Committed := do
  if !call.write then return .done
  call.binding
  match ← (isBlocked cal call.windows "charlie.action" [] call.checkedAt).mapError
      ("re-evaluate Charlie maintenance policy: " ++ ·) with
  | (true, some w) =>
    require (w.onBlock == .defer) "Charlie action blocked by maintenance policy"
    let deferredUntil ← orError
      (if w.mode = .blackout then nextClose cal w call.now else nextOpen cal w call.now)
      "Charlie maintenance deferral has no bounded retry time"
    call.stored.mapError ("persist Charlie maintenance deferral: " ++ ·)
    pure (.deferred w deferredUntil (deferredUntil + day))
  | _ =>
    if call.auto then call.reserved.mapError ("Charlie auto safety claim denied: " ++ ·)
    pure .done

theorem commitWrite_deferred {call u} (h : commitWrite cal call = .ok (.deferred w t u))
    (hm : w.mode = .blackout) : nextClose cal w call.now = some t := by
  simp only [commitWrite] at h
  split at h
  · cases h
  simp only [bind_eq_ok] at h
  obtain ⟨_, -, ⟨blocked, window⟩, -, h⟩ := h
  split at h
  · simp only [bind_eq_ok, pure_eq_ok, orError_eq_ok] at h
    obtain ⟨_, -, _, hn, _, -, h⟩ := h
    cases h
    rwa [if_pos hm] at hn
  · split at h
    · simp only [bind_eq_ok, pure_eq_ok] at h
      obtain ⟨_, -, h⟩ := h
      cases h
    · cases h

theorem isActive_eq_true (h : isActive cal w now = .ok true) :
    0 < w.durationMinutes ∧ ∃ schedule, w.schedule cal = .ok schedule := by
  simp only [isActive, bind_eq_ok, pure_eq_ok] at h
  obtain ⟨schedule, hs, ho⟩ := h
  refine ⟨?_, schedule, hs⟩
  split at ho
  · cases ho
  next hd =>
    unfold Window.duration minute at hd
    omega

/-- **When a blackout is over at its close time.** While a window is open, `NextClose` gives a
later time up to which it stays open, the one that `CommitWrite` stores. With `last` the last
opening up to now, the window is closed then exactly if every later opening comes after the
duration from `last` on: the walk stops at `last`, and an opening before its end keeps the
window open past it. -/
theorem closed_at_nextClose_iff (cal : Calendar) (w : Window) (now : Int)
    (hactive : isActive cal w now = .ok true) :
    ∃ (schedule : Schedule) (last c : Int), w.schedule cal = .ok schedule ∧
      nextClose cal w now = some c ∧ now < c ∧
      (∀ t : Int, now ≤ t → t < c → isActive cal w t = .ok true) ∧
      (∀ call deferredUntil expiresAt,
        commitWrite cal call = .ok (.deferred w deferredUntil expiresAt) →
        w.mode = .blackout → call.now = now → deferredUntil = c) ∧
      (last ∈ schedule.fires ∧ last ≤ now ∧ ∀ t ∈ schedule.fires, t ≤ now → t ≤ last) ∧
      (isActive cal w c = .ok false ↔
        ∀ t ∈ schedule.fires, now < t → last + w.duration < t) ∧
      ((∀ t ∈ schedule.fires, ∀ u ∈ schedule.fires, t < u → w.duration < u - t) →
        isActive cal w c = .ok false) := by
  obtain ⟨hp, schedule, hs⟩ := isActive_eq_true hactive
  simp only [isActive_eq_ok hp, hs, Except.ok.injEq, exists_eq_left'] at hactive ⊢
  obtain ⟨v, hv, hlt, hle⟩ := Schedule.openAt_iff.mp hactive
  rcases schedule.lastUpTo_cases now (now - w.duration) none with ⟨-, hn⟩ |
    ⟨last, hf, ho, hl, hw, hm⟩
  · exact absurd (hn v hv hlt) (not_lt.mpr hle)
  have hnx : nextClose cal w now = some (last + w.duration) := by simp [nextClose, hs, hw]
  have hclosed : schedule.openAt w.duration (last + w.duration) = false ↔
      ∀ t ∈ schedule.fires, now < t → last + w.duration < t := by
    rw [← Bool.not_eq_true, Schedule.openAt_iff]
    constructor
    · intro hn t ht hlt
      by_contra hct
      exact hn ⟨t, ht, by omega, not_lt.mp hct⟩
    · rintro hn ⟨t, ht, hlt, hct⟩
      -- what follows the last opening up to now is later than now
      have hnw : now < t := by
        by_contra hle
        have := hm t ht (not_lt.mp hle)
        omega
      have := hn t ht hnw
      omega
  refine ⟨schedule, last, last + w.duration, rfl, hnx, by omega, fun t hnw hlt => ?_,
    fun call u e hc hmd hnw => ?_, ⟨hf, hl, hm⟩, hclosed, fun hgap => ?_⟩
  · exact Schedule.openAt_iff.mpr ⟨last, hf, by omega, by omega⟩
  · have hcl := commitWrite_deferred hc hmd
    rw [hnw, hnx] at hcl
    exact (Option.some.inj hcl).symm
  · refine hclosed.mpr fun t ht hnt => ?_
    have := hgap last hf t ht (hl.trans_lt hnt)
    omega

/-! ## An hourly window -/

namespace Hourly

def hour : Int := 60 * minute

def schedule : Schedule where
  fires := { t | t % hour = 0 }
  next t := some ((t / hour + 1) * hour)
  next_eq_some h := by
    obtain rfl := Option.some.inj h
    refine ⟨Int.mul_emod_left _ _, ?_, fun v hv hlt => ?_⟩
    · unfold hour minute
      omega
    · have hv : v % hour = 0 := hv
      unfold hour minute at *
      omega
  next_eq_none h := by cases h

def calendar : Calendar where
  load name := .ok name
  parse _ := .ok fun _ => schedule

def window (mode : Mode) : Window :=
  { id := 1, mode := mode, cronOpen := "0 * * * *", durationMinutes := 30, onBlock := .defer }

def gate (mode : Mode) : Gate := { windows := some (.ok [window mode]) }

def untilNextHour : DeferredParams := ⟨1, "cluster.delete", some hour, some (hour + day)⟩

def longBlackout : Window := { window .blackout with durationMinutes := 90 }

theorem nextClose_hourly (w : Window) (h : 20 < w.durationMinutes) :
    nextClose calendar w (20 * minute) = some w.duration := by
  have hs : w.schedule calendar = .ok schedule := by
    unfold Window.schedule loadLocation
    split <;> rfl
  rcases schedule.lastUpTo_cases (20 * minute) (20 * minute - w.duration) none with ⟨-, hn⟩ |
    ⟨last, hf, -, hl, hw, hm⟩
  · have := hn 0 rfl (by unfold Window.duration minute; omega)
    unfold minute at this
    omega
  · have hz := hm 0 rfl (by decide)
    have hf : last % hour = 0 := hf
    obtain rfl : last = 0 := by
      unfold hour minute at *
      omega
    simp [nextClose, hs, hw]

end Hourly

open Hourly in
/-- An operation that a permitted window defers may run when it is due. -/
theorem permitted_unblocked_when_due :
    ¬ Blocks calendar (window .permitted) (untilNextHour.due (40 * minute)) :=
  (unblocked_when_due_iff calendar (gate .permitted) {} "cluster.delete" [] (40 * minute)
    (window .permitted) untilNextHour (by decide) (by decide)).mpr
    ⟨rfl, schedule, rfl, hour, rfl, by decide⟩

open Hourly in
/-- An operation that an hourly blackout of thirty minutes defers is due at the full hour, when
the next blackout begins. -/
theorem blackout_blocks_when_due :
    enforceMaintenanceWindow calendar (gate .blackout) {} "cluster.delete" [] (20 * minute) =
        .deferred (window .blackout) untilNextHour ∧
      untilNextHour.due (20 * minute) = hour ∧ Blocks calendar (window .blackout) hour := by
  refine ⟨by decide, rfl, ?_⟩
  show isActive calendar (window .blackout) hour = .ok true
  decide

open Hourly in
/-- The thirty minutes of an hourly blackout are over when they end. -/
theorem blackout_over_at_close : isActive calendar (window .blackout) (20 * minute) = .ok true ∧
    isActive calendar (window .blackout) (30 * minute) = .ok false := by
  refine ⟨by decide, ?_⟩
  obtain ⟨_, _, c, hs, hn, -, -, -, -, -, hgap⟩ :=
    closed_at_nextClose_iff calendar (window .blackout) (20 * minute) (by decide)
  cases hs
  obtain rfl : 30 * minute = c := Option.some.inj ((nextClose_hourly _ (by decide)).symm.trans hn)
  refine hgap fun t ht u hu hlt => ?_
  have ht : t % hour = 0 := ht
  have hu : u % hour = 0 := hu
  have hd : (window .blackout).duration = 30 * minute := rfl
  rw [hd]
  unfold hour minute at *
  omega

open Hourly in
/-- An hourly blackout of ninety minutes never ends: when the one of the full hour closes, the
next one is open, and an action is deferred into it. -/
theorem deferred_into_blackout : commitWrite calendar
        { windows := .ok [longBlackout], checkedAt := 20 * minute, now := 20 * minute } =
        .ok (.deferred longBlackout (90 * minute) (90 * minute + day)) ∧
      isActive calendar longBlackout (20 * minute) = .ok true ∧
      nextClose calendar longBlackout (20 * minute) = some (90 * minute) ∧
      isActive calendar longBlackout (90 * minute) = .ok true := by
  have hb : isBlocked calendar (.ok [longBlackout]) "charlie.action" [] (20 * minute) =
      .ok (true, some longBlackout) := by decide
  have hn := nextClose_hourly longBlackout (by decide)
  refine ⟨?_, by decide, hn, by decide⟩
  simp only [commitWrite, hb]
  show (orError (nextClose calendar longBlackout (20 * minute)) _ >>= _) = _
  rw [hn]
  rfl

end Astronomer.Maintenance
