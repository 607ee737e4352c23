import Astronomer.Tunnel.Sessions

/-!
# The directory of the newest connection

The pod of the newest connection should have a refresh loop for it. The owner check at the
end of `HandleWebSocket` does not rule out that the older session leaves the hub, the newer
one connects, and then the older one deletes the newer one's loop and entry. With the hub and
locator steps of sessions kept apart (`World.Apart`) the newest connection is always found.
-/

namespace Astronomer.Tunnel

open List

variable {gen id pod' : Nat} {e : Event} {es : List Event}

namespace Stage

def connecting : Stage → Bool
  | .replacing _ | .registered | .claimed _ | .written _ => true
  | _ => false

def leaving : Stage → Bool
  | .removed true | .unlisted | .stopped => true
  | _ => false

def joined (stage : Stage) : Bool := stage.connecting || stage = .running

def holding : Stage → Bool
  | .claimed _ | .written _ | .running => true
  | _ => false

end Stage

namespace Event

def ofLoop : Event → Bool
  | .tick _ | .evict _ => true
  | _ => false

def ofLocator (e : Event) : Bool := e.ofLoop || e = .expire

end Event

namespace World

variable (w : World)

def Free (pod : Nat) : Prop :=
  (∀ σ ∈ w.sessions, σ.pod = pod → σ.stage.leaving = false) ∧
    ∀ f ∈ w.forced, f.pod = pod → f.stage = .done
deriving Decidable

def home : Option Nat := w.newest.bind fun s => (w.sessions[s]?).map (·.pod)

/-- A session enters a hub only when no other session, on any pod, is between its hub
step and the end of its `loc.Set`, and none on its own pod is between leaving the hub and
the end of its `loc.Delete`. The entry expires only when no loop is live but that of the
newest connection's pod: the others tick, and stop, within the time to live. -/
def Apart : Event → Prop
  | .session s =>
    match w.sessions[s]? with
    | some σ =>
      σ.stage = .persisted → (∀ σ' ∈ w.sessions, σ'.stage.connecting = false) ∧ w.Free σ.pod
    | none => True
  | .expire => ∀ σ ∈ w.sessions, w.live σ.pod → w.home = some σ.pod
  | _ => True

instance : ∀ e, Decidable (w.Apart e)
  | .session s => decidable_of_iff (∀ σ ∈ w.sessions[s]?, σ.stage = .persisted →
      (∀ σ' ∈ w.sessions, σ'.stage.connecting = false) ∧ w.Free σ.pod)
    (by cases h : w.sessions[s]? <;> simp [Apart, h])
  | .expire => inferInstanceAs (Decidable (∀ σ ∈ w.sessions, _))
  | .accept _ | .drop _ | .force _ | .forced _ | .tick _ | .evict _ =>
    inferInstanceAs (Decidable True)

/-! ## The invariant -/

def Named (pod : Nat) : Prop :=
  w.entry = some pod ∨ (w.entry = none ∧ ∀ pod', w.live pod' → pod' = pod)

structure Held (s : Nat) (σ : Session) : Prop where
  claimed : ∀ gen, σ.stage = .claimed gen → (w.pods σ.pod).loop = some ⟨gen, s, false, false⟩
  written : ∀ gen, σ.stage = .written gen →
    (w.pods σ.pod).loop = some ⟨gen, s, false, false⟩ ∧ w.Named σ.pod
  running : σ.stage = .running →
    (∃ gen, (w.pods σ.pod).loop = some ⟨gen, s, true, false⟩) ∧ w.Named σ.pod

structure Directed : Prop where
  hub : ∀ pod s, (w.pods pod).agent = some s →
    ∃ σ, w.sessions[s]? = some σ ∧ σ.pod = pod ∧ σ.stage.joined
  loops : ∀ pod l, (w.pods pod).loop = some l →
    ∃ σ, w.sessions[l.session]? = some σ ∧ σ.pod = pod
  connecting : ∀ s σ, w.sessions[s]? = some σ → σ.stage.connecting → w.newest = some s
  newest : ∀ s, w.newest = some s → s < w.sessions.length
  free : ∀ s σ, w.newest = some s → w.sessions[s]? = some σ →
    (w.pods σ.pod).agent = some s → w.Free σ.pod
  held : ∀ s σ, w.newest = some s → w.sessions[s]? = some σ →
    (w.pods σ.pod).agent = some s → σ.cancelled = false → w.Held s σ

section

variable {w w' : World} {s i pod : Nat} {σ σ' : Session} {f : Forced}

/-! ### Changes of one session -/

theorem joined_of_connecting (h : σ.stage.connecting) : σ.stage.joined := by
  simp [Stage.joined, h]

theorem leaving_of_joined (h : σ.stage.joined) : σ.stage.leaving = false := by
  cases hsg : σ.stage with
  | removed _ | unlisted | stopped => simp [hsg, Stage.joined, Stage.connecting] at h
  | _ => rfl

theorem live_of_sessions (hlp : (w'.pods pod).loop = (w.pods pod).loop)
    (hs : ∀ (i : Nat) σ', w'.sessions[i]? = some σ' →
      ∃ σ, w.sessions[i]? = some σ ∧ (σ.cancelled → σ'.cancelled))
    (hlv : w'.live pod) : w.live pod := by
  unfold live at hlv ⊢
  rw [hlp] at hlv
  cases hl : (w.pods pod).loop with
  | none => simp [hl] at hlv
  | some l =>
    simp only [hl, Option.any_some, Loop.live, Bool.and_eq_true] at hlv ⊢
    refine ⟨hlv.1, ?_⟩
    cases hσ' : w'.sessions[l.session]? with
    | none => simp [hσ'] at hlv
    | some σ' =>
      obtain ⟨σ, hσ, he⟩ := hs _ _ hσ'
      simp only [hσ', Option.any_some, Bool.not_eq_true'] at hlv
      simp only [hσ, Option.any_some, Bool.not_eq_true']
      cases hc : σ.cancelled with
      | false => rfl
      | true => simp [he hc] at hlv

theorem live_of_set {τ : Session} (hσ : w.sessions[s]? = some σ)
    (hs : w'.sessions = w.sessions.set s τ)
    (hc : σ.cancelled → τ.cancelled)
    (hl : (w'.pods pod).loop = (w.pods pod).loop) :
    w'.live pod → w.live pod := by
  refine live_of_sessions hl fun i σ1 hσ1 => ?_
  rw [hs] at hσ1
  rcases lookup_setSession hσ hσ1 with ⟨rfl, rfl⟩ | ⟨-, hσ1⟩
  · exact ⟨σ, hσ, hc⟩
  · exact ⟨σ1, hσ1, id⟩

theorem Named.mono (h : w.Named pod) (hen : w'.entry = w.entry)
    (hlv : ∀ pod', w'.live pod' → w.live pod') : w'.Named pod := by
  unfold Named at h ⊢
  rw [hen]
  exact h.imp id fun ⟨hn, ho⟩ => ⟨hn, fun pod' hl => ho pod' (hlv pod' hl)⟩

theorem Held.mono (h : w.Held s σ) (hl : (w'.pods σ.pod).loop = (w.pods σ.pod).loop)
    (hnm : w.Named σ.pod → w'.Named σ.pod) : w'.Held s σ where
  claimed := fun gen hsg => hl ▸ h.claimed gen hsg
  written := fun gen hsg => ⟨hl ▸ (h.written gen hsg).1, hnm (h.written gen hsg).2⟩
  running := fun hsg => ⟨hl ▸ (h.running hsg).1, hnm (h.running hsg).2⟩

theorem Held.of_not_holding (h : σ.stage.holding = false) : w.Held s σ where
  claimed := fun gen hsg => by simp [hsg, Stage.holding] at h
  written := fun gen hsg => by simp [hsg, Stage.holding] at h
  running := fun hsg => by simp [hsg, Stage.holding] at h

theorem Held.congr (h : w.Held s σ) (hsg : σ'.stage = σ.stage) (hp : σ'.pod = σ.pod) :
    w.Held s σ' where
  claimed := fun gen hg => hp ▸ h.claimed gen (hsg ▸ hg)
  written := fun gen hg => hp ▸ h.written gen (hsg ▸ hg)
  running := fun hr => hp ▸ h.running (hsg ▸ hr)

/-- A step of session `s` from `σ` to `σ'` that keeps the invariant: either `s` is the newest
connection afterwards and nobody else is connecting, or only this session has changed. -/
structure Moved (w w' : World) (s : Nat) (σ σ' : Session) : Prop where
  before : w.sessions[s]? = some σ
  after : w'.sessions = w.sessions.set s σ'
  forced : w'.forced = w.forced
  pod : σ'.pod = σ.pod
  hub : ∀ pod i, (w'.pods pod).agent = some i →
    (i = s ∧ pod = σ.pod ∧ σ'.stage.joined) ∨ (i ≠ s ∧ (w.pods pod).agent = some i)
  loops : ∀ pod l, (w'.pods pod).loop = some l →
    (∃ l0, (w.pods pod).loop = some l0 ∧ l.session = l0.session) ∨ (pod = σ.pod ∧ l.session = s)
  connecting : σ'.stage.connecting → w'.newest = some s
  leaving : σ'.stage.leaving → σ.stage.leaving ∨ (w'.pods σ.pod).agent = none
  free : (w'.pods σ.pod).agent = some s → w'.newest = some s → w.Free σ.pod
  held : (w'.pods σ.pod).agent = some s → w'.newest = some s → σ'.cancelled = false → w'.Held s σ'
  others : (w'.newest = some s ∧
      ∀ i σ1, i ≠ s → w.sessions[i]? = some σ1 → σ1.stage.connecting = false) ∨
    (w'.newest = w.newest ∧ w'.entry = w.entry ∧ (∀ pod, (w'.pods pod).loop = (w.pods pod).loop) ∧
      (σ.cancelled → σ'.cancelled))

theorem Directed.hub_self (h : w.Directed) (hσ : w.sessions[s]? = some σ)
    (hag : (w.pods pod).agent = some s) : pod = σ.pod ∧ σ.stage.joined := by
  obtain ⟨σ0, hσ0, hp, hjn⟩ := h.hub pod s hag
  obtain rfl := Option.some.inj (hσ.symm.trans hσ0)
  exact ⟨hp.symm, hjn⟩

theorem Directed.hub_moved (h : w.Directed) (hσ : w.sessions[s]? = some σ)
    (ha : ∀ pod, (w'.pods pod).agent = (w.pods pod).agent)
    (hjn : (w.pods σ.pod).agent = some s → σ'.stage.joined) (pod i : Nat)
    (hag : (w'.pods pod).agent = some i) :
    (i = s ∧ pod = σ.pod ∧ σ'.stage.joined) ∨ (i ≠ s ∧ (w.pods pod).agent = some i) := by
  rw [ha] at hag
  by_cases hi : i = s
  · subst hi
    obtain ⟨rfl, -⟩ := h.hub_self hσ hag
    exact .inl ⟨rfl, rfl, hjn hag⟩
  · exact .inr ⟨hi, hag⟩

theorem Directed.move (h : w.Directed) (m : Moved w w' s σ σ') : w'.Directed := by
  have hlk : ∀ {i : Nat} {σ1 : Session}, w'.sessions[i]? = some σ1 →
      (i = s ∧ σ1 = σ') ∨ (i ≠ s ∧ w.sessions[i]? = some σ1) := by
    intro i σ1 hσ1
    rw [m.after] at hσ1
    exact lookup_setSession m.before hσ1
  have hsl : w'.sessions[s]? = some σ' := m.after ▸ getElem?_setSession_self m.before
  have hot : ∀ {i : Nat}, i ≠ s → w'.sessions[i]? = w.sessions[i]? := fun hi =>
    m.after ▸ getElem?_setSession_ne m.before hi
  have hf : ∀ {pod i : Nat}, (w'.pods pod).agent = some i → w.Free pod → w'.Free pod := by
    rintro pod i hag ⟨hlf, hdone⟩
    refine ⟨fun σ2 hσ2 hp2 => ?_, m.forced ▸ hdone⟩
    rw [m.after] at hσ2
    rcases mem_or_eq_of_mem_set hσ2 with hσ2 | rfl
    · exact hlf σ2 hσ2 hp2
    · obtain rfl := m.pod.symm.trans hp2
      refine Bool.eq_false_iff.mpr fun hle => ?_
      rcases m.leaving hle with hle | hn
      · simp [hlf σ (mem_of_getElem? m.before) rfl] at hle
      · simp [hn] at hag
  have hnw : ∀ {i pod : Nat}, i ≠ s → w'.newest = some i → (w'.pods pod).agent = some i →
      w.newest = some i ∧ (w.pods pod).agent = some i := by
    intro i pod hi hnw hag
    refine ⟨?_, (m.hub pod i hag).elim (fun hs => absurd hs.1 hi) And.right⟩
    rcases m.others with ⟨hs, -⟩ | ⟨hsm, -⟩
    · exact absurd (Option.some.inj (hnw.symm.trans hs)) hi
    · exact hsm ▸ hnw
  refine ⟨fun pod i hag => ?_, fun pod l hl => ?_, fun i σ1 hσ1 hc => ?_, fun i hi => ?_,
    fun i σ1 hi hσ1 hag => ?_, fun i σ1 hi hσ1 hag hlv => ?_⟩
  · rcases m.hub pod i hag with ⟨rfl, rfl, hjn⟩ | ⟨hi, hag⟩
    · exact ⟨σ', hsl, m.pod, hjn⟩
    · rw [hot hi]
      exact h.hub pod i hag
  · obtain ⟨σ0, hσ0, rfl⟩ : ∃ σ0, w.sessions[l.session]? = some σ0 ∧ σ0.pod = pod := by
      rcases m.loops pod l hl with ⟨l0, hl0, hsm⟩ | ⟨rfl, hsm⟩
      · exact hsm ▸ h.loops pod l0 hl0
      · exact ⟨σ, hsm ▸ m.before, rfl⟩
    by_cases hi : l.session = s
    · rw [hi] at hσ0 ⊢
      obtain rfl := Option.some.inj (m.before.symm.trans hσ0)
      exact ⟨σ', hsl, m.pod⟩
    · exact ⟨σ0, (hot hi).trans hσ0, rfl⟩
  · rcases hlk hσ1 with ⟨rfl, rfl⟩ | ⟨hi, hσ1⟩
    · exact m.connecting hc
    · rcases m.others with ⟨-, ho⟩ | ⟨hsm, -⟩
      · simp [ho i σ1 hi hσ1] at hc
      · exact hsm.trans (h.connecting i σ1 hσ1 hc)
  · rw [m.after, length_set]
    rcases m.others with ⟨hs, -⟩ | ⟨hsm, -⟩
    · obtain rfl : s = i := Option.some.inj (hs.symm.trans hi)
      exact (List.getElem?_eq_some_iff.mp m.before).1
    · exact h.newest i (hsm ▸ hi)
  · rcases hlk hσ1 with ⟨rfl, rfl⟩ | ⟨hne, hσ1⟩
    · rw [m.pod] at hag ⊢
      exact hf hag (m.free hag hi)
    · obtain ⟨hi0, hag0⟩ := hnw hne hi hag
      exact hf hag (h.free i σ1 hi0 hσ1 hag0)
  · rcases hlk hσ1 with ⟨rfl, rfl⟩ | ⟨hne, hσ1⟩
    · exact m.held (m.pod ▸ hag) hi hlv
    · obtain ⟨hi0, hag0⟩ := hnw hne hi hag
      rcases m.others with ⟨hs, -⟩ | ⟨-, hen, hlp, hcn⟩
      · exact absurd (Option.some.inj (hi.symm.trans hs)) hne
      · exact (h.held i σ1 hi0 hσ1 hag0 hlv).mono (hlp _) fun hnm =>
          hnm.mono hen fun pod => live_of_set m.before m.after hcn (hlp pod)

/-- A change of a session that matters to nothing here: its context ends, or it goes on
before `agents.Set` or after `removeAgent`. -/
structure Harmless (σ σ' : Session) : Prop where
  pod : σ'.pod = σ.pod
  cancelled : σ.cancelled → σ'.cancelled
  stage : σ'.stage = σ.stage ∨
    (σ.stage.joined = false ∧ σ'.stage.joined = false ∧
      (σ'.stage.leaving → σ.stage.leaving))

theorem Harmless.joined (h : Harmless σ σ') : σ'.stage.joined = σ.stage.joined := by
  rcases h.stage with hsg | ⟨hbf, haf, -⟩
  · rw [hsg]
  · rw [hbf, haf]

theorem Harmless.stage_of_joined (h : Harmless σ σ') (hjn : σ.stage.joined) :
    σ'.stage = σ.stage := by
  rcases h.stage with hsg | ⟨hbf, -, -⟩
  · exact hsg
  · rw [hbf] at hjn
    cases hjn

section

variable (h : w.Directed)

include h

theorem Directed.setSession (hσ : w.sessions[s]? = some σ)
    (hhr : Harmless σ σ') : (w.setSession s σ').Directed := by
  refine h.move ⟨hσ, rfl, rfl, hhr.pod, h.hub_moved hσ (fun _ => rfl) fun hag => ?_,
    fun _ l hl => .inl ⟨l, hl, rfl⟩, fun hc => ?_, fun hl => ?_,
    fun hag hs => h.free s σ hs hσ hag, fun hag hs hlv => ?_,
    .inr ⟨rfl, rfl, fun _ => rfl, hhr.cancelled⟩⟩
  · exact hhr.joined.trans (h.hub_self hσ hag).2
  · have hjn : σ.stage.joined := hhr.joined ▸ joined_of_connecting hc
    exact h.connecting s σ hσ (hhr.stage_of_joined hjn ▸ hc)
  · exact .inl (hhr.stage.elim (fun hsg => hsg ▸ hl) fun hsg => hsg.2.2 hl)
  · have hcn : σ.cancelled = false := by
      cases hc : σ.cancelled with
      | false => rfl
      | true => simp [hhr.cancelled hc] at hlv
    have hh : (w.setSession s σ').Held s σ := (h.held s σ hs hσ hag hcn).mono rfl fun hnm =>
        hnm.mono rfl fun _ => live_of_set hσ rfl hhr.cancelled rfl
    exact hh.congr (hhr.stage_of_joined (h.hub_self hσ hag).2) hhr.pod

theorem Directed.cancel : (w.cancel s).Directed := by
  unfold World.cancel
  split
  · exact h
  next σ hσ => exact h.setSession hσ ⟨rfl, fun _ => rfl, .inl rfl⟩

theorem Directed.rows {rows} : { w with rows }.Directed :=
  ⟨h.hub, h.loops, h.connecting, h.newest, h.free, fun s σ hs hσ ha hc =>
    (h.held s σ hs hσ ha hc).mono rfl fun hnm => hnm.mono rfl fun _ hl => hl⟩

theorem Directed.accept : (w.step (.accept pod)).Directed := by
  have hold : ∀ {i : Nat}, i < w.sessions.length →
      (w.step (.accept pod)).sessions[i]? = w.sessions[i]? := fun hi => getElem?_append_left hi
  have hmem : ∀ {i : Nat} {σ : Session}, w.sessions[i]? = some σ →
      (w.step (.accept pod)).sessions[i]? = some σ := fun hσ =>
    (hold (List.getElem?_eq_some_iff.mp hσ).1).trans hσ
  have hlv : ∀ pod', (w.step (.accept pod)).live pod' → w.live pod' := by
    intro pod' hlv
    unfold live at hlv ⊢
    cases hlp : (w.pods pod').loop with
    | none =>
      rw [show ((w.step (.accept pod)).pods pod').loop = none from hlp] at hlv
      cases hlv
    | some l =>
      obtain ⟨σ, hσ, -⟩ := h.loops pod' l hlp
      rw [show ((w.step (.accept pod)).pods pod').loop = some l from hlp] at hlv
      simpa only [Option.any_some, Loop.live, hmem hσ, hσ] using hlv
  refine ⟨fun pod' s hag => ?_, fun pod' l hl => ?_, fun s σ hσ hc => ?_,
    fun s hs => ?_, fun s σ hs hσ hag => ?_, fun s σ hs hσ hag hlv' => ?_⟩
  · obtain ⟨σ, hσ, hrest⟩ := h.hub pod' s hag
    exact ⟨σ, hmem hσ, hrest⟩
  · obtain ⟨σ, hσ, hp⟩ := h.loops pod' l hl
    exact ⟨σ, hmem hσ, hp⟩
  · by_cases hlt : s < w.sessions.length
    · exact h.connecting s σ (hold hlt ▸ hσ) hc
    · -- the new session is only accepted
      obtain ⟨-, rfl⟩ : s - w.sessions.length = 0 ∧ { pod } = σ := by
        simpa [World.step, getElem?_append, hlt, getElem?_singleton] using hσ
      cases hc
  · exact Nat.lt_of_lt_of_le (h.newest s hs) (by simp [World.step])
  · obtain ⟨hle, hdone⟩ := h.free s σ hs (hold (h.newest s hs) ▸ hσ) hag
    refine ⟨fun σ' hσ' hp => ?_, hdone⟩
    rcases mem_append.mp hσ' with hσ' | hσ'
    · exact hle σ' hσ' hp
    · rw [mem_singleton.mp hσ']
      rfl
  · exact (h.held s σ hs (hold (h.newest s hs) ▸ hσ) hag hlv').mono rfl fun hnm =>
      hnm.mono rfl hlv

/-! ### Changes of the locator -/

def Spared (w : World) (pod : Nat) : Prop :=
  ∀ s σ, w.newest = some s → w.sessions[s]? = some σ → (w.pods σ.pod).agent = some s →
    σ.cancelled = false → σ.pod = pod → σ.stage.holding = false

theorem Directed.spared (hf : ¬w.Free pod) : w.Spared pod := by
  intro s σ hs hσ hag _ hp
  exact absurd (hp ▸ h.free s σ hs hσ hag) hf

theorem Directed.setLoop {loop : Option Loop} (hsp : w.Spared pod)
    (hss : ∀ l, loop = some l → ∃ l0, (w.pods pod).loop = some l0 ∧ l.session = l0.session)
    (hlv : loop.any (Loop.live w.sessions) → w.live pod) :
    (w.setPod pod { w.pods pod with loop }).Directed := by
  have ha : ∀ pod', ((w.setPod pod { w.pods pod with loop }).pods pod').agent
      = (w.pods pod').agent := fun _ => agent_setPod rfl
  refine ⟨fun pod' s hag => h.hub pod' s (ha pod' ▸ hag), fun pod' l hl => ?_,
    h.connecting, h.newest, fun s σ hs hσ hag => h.free s σ hs hσ (ha _ ▸ hag),
    fun s σ hs hσ hag hc => ?_⟩
  · rw [loop_setPod] at hl
    split at hl
    next hp =>
      obtain ⟨l0, hl0, hsm⟩ := hss l hl
      exact hsm ▸ h.loops pod' l0 (hp ▸ hl0)
    · exact h.loops pod' l hl
  · rw [ha] at hag
    by_cases hpd : σ.pod = pod
    · exact .of_not_holding (hsp s σ hs hσ hag hc hpd)
    · refine (h.held s σ hs hσ hag hc).mono (loop_setPod.trans (if_neg hpd)) fun hnm =>
        hnm.mono rfl fun pod' hl => ?_
      unfold live at hl
      rw [loop_setPod] at hl
      split at hl
      next hp => exact hp ▸ hlv hl
      · exact hl

theorem Directed.stopLoop (hs : w.Spared pod) : (w.stopLoop pod).Directed :=
  h.setLoop hs (fun _ hl => nomatch hl) nofun

theorem Directed.setEntry {entry} (hnm : ∀ s σ, w.newest = some s → w.sessions[s]? = some σ →
      (w.pods σ.pod).agent = some s → w.Named σ.pod → { w with entry }.Named σ.pod) :
    { w with entry }.Directed :=
  ⟨h.hub, h.loops, h.connecting, h.newest, h.free, fun s σ hs hσ ha hc =>
    (h.held s σ hs hσ ha hc).mono rfl (hnm s σ hs hσ ha)⟩

theorem Directed.casDelete (hf : ¬w.Free pod) : (w.casDelete pod).Directed := by
  refine h.setEntry fun s σ hs hσ hag hnm => ?_
  have hp : σ.pod ≠ pod := by
    rintro rfl
    exact hf (h.free s σ hs hσ hag)
  have hsm : (if w.entry = some pod then none else w.entry) = w.entry := by
    rcases hnm with hen | ⟨hen, -⟩
    · rw [hen, if_neg fun heq => hp (Option.some.inj heq)]
    · simp [hen]
  exact Named.mono hnm hsm fun _ hl => hl

theorem Directed.setForced {forced} (hfr : ∀ pod s, (w.pods pod).agent = some s →
      (∀ f ∈ w.forced, f.pod = pod → f.stage = .done) → ∀ f ∈ forced, f.pod = pod → f.stage = .done)
    :
    { w with forced }.Directed :=
  ⟨h.hub, h.loops, h.connecting, h.newest,
    fun s σ hs hσ ha => (h.free s σ hs hσ ha).imp id (hfr σ.pod s ha),
    fun s σ hs hσ ha hc => (h.held s σ hs hσ ha hc).mono rfl fun hn => hn.mono rfl fun _ hl => hl⟩

theorem Directed.moveForced {f' : Forced} (hf : w.forced[id]? = some f)
    (hp : f'.pod = f.pod) (hdone : f.stage ≠ .done) :
    { w with forced := w.forced.set id f' }.Directed := by
  refine h.setForced fun pod _ _ hfr f1 hf1 hp1 => ?_
  rcases mem_or_eq_of_mem_set hf1 with hf1 | rfl
  · exact hfr f1 hf1 hp1
  · exact absurd (hfr f (mem_of_getElem? hf) (hp ▸ hp1)) hdone

/-! ### The steps of the session that is connecting -/

theorem Directed.connect (σ' : Session) (hσ : w.sessions[s]? = some σ)
    (hcn : σ.stage.connecting) (hp : σ'.pod = σ.pod)
    (hjn : σ'.stage.joined)
    (hs : w'.sessions = w.sessions.set s σ') (hfr : w'.forced = w.forced)
    (hn : w'.newest = w.newest)
    (hag : ∀ pod, (w'.pods pod).agent = (w.pods pod).agent)
    (hlo : ∀ pod l, (w'.pods pod).loop = some l →
      (∃ l0, (w.pods pod).loop = some l0 ∧ l.session = l0.session) ∨ (pod = σ.pod ∧ l.session = s))
    (hh : (w.pods σ.pod).agent = some s → σ'.cancelled = false → w'.Held s σ') :
    w'.Directed := by
  have hsl := h.connecting s σ hσ hcn
  refine h.move ⟨hσ, hs, hfr, hp, h.hub_moved hσ hag fun _ => hjn, hlo,
    fun _ => hn.trans hsl, fun hl => ?_, fun ha _ => h.free s σ hsl hσ (hag _ ▸ ha),
    fun ha _ => hh (hag _ ▸ ha), .inl ⟨hn.trans hsl, fun i σ1 hi hσ1 => ?_⟩⟩
  · simp [leaving_of_joined hjn] at hl
  · -- the newest session is the one that steps
    refine Bool.eq_false_iff.mpr fun hc => hi ?_
    exact Option.some.inj ((h.connecting i σ1 hσ1 hc).symm.trans hsl)

end

theorem loop_claim (pod' : Nat) : ((w.claim s σ).pods pod').loop =
    if pod' = σ.pod then some ⟨(w.pods σ.pod).nextGen + 1, s, false, false⟩
    else (w.pods pod').loop := loop_setPod

theorem Directed.claim (h : w.Directed) (hσ : w.sessions[s]? = some σ)
    (hsg : σ.stage = .registered) : (w.claim s σ).Directed := by
  refine h.connect { σ with stage := .claimed ((w.pods σ.pod).nextGen + 1) } hσ
    (by simp [hsg, Stage.connecting]) rfl rfl rfl rfl rfl (fun _ => agent_setPod rfl)
    (fun pod l hl => ?_)
    fun _ _ => ⟨fun gen hg => ?_, nofun, nofun⟩
  · rw [loop_claim] at hl
    split at hl
    next hp =>
      cases hl
      exact .inr ⟨hp, rfl⟩
    · exact .inl ⟨l, hl, rfl⟩
  · cases hg
    rw [loop_claim, if_pos rfl]

theorem Directed.write (h : w.Directed) (hσ : w.sessions[s]? = some σ)
    (hsg : σ.stage = .claimed gen) : (w.write s σ gen).Directed := by
  have hc : σ.stage.connecting := by simp [hsg, Stage.connecting]
  refine h.connect { σ with stage := .written gen } hσ hc rfl rfl rfl rfl rfl
    (fun _ => rfl) (fun _ l hl => .inl ⟨l, hl, rfl⟩) fun hag hlv => ?_
  have hlp := (h.held s σ (h.connecting s σ hσ hc) hσ hag hlv).claimed gen hsg
  refine ⟨nofun, fun gen' hg => ?_, nofun⟩
  cases hg
  refine ⟨hlp, .inl ?_⟩
  have ho : (!σ.cancelled && ((w.pods σ.pod).loop).any (·.gen = gen)) := by
    rw [hlp, show σ.cancelled = false from hlv]
    simp
  exact if_pos ho

theorem loop_start : ((w.start s σ gen).pods pod').loop = if pod' = σ.pod then
      (w.pods σ.pod).loop.map fun l => if l.gen = gen then { l with started := true } else l
    else (w.pods pod').loop := loop_setPod

section

variable (h : w.Directed)

include h

theorem Directed.start (hσ : w.sessions[s]? = some σ)
    (hsg : σ.stage = .written gen) : (w.start s σ gen).Directed := by
  have hc : σ.stage.connecting := by simp [hsg, Stage.connecting]
  refine h.connect { σ with stage := .running } hσ hc rfl rfl rfl rfl rfl
    (fun _ => agent_setPod rfl) (fun pod l hl => ?_) fun hag hlv => ?_
  · rw [loop_start] at hl
    split at hl
    next hp =>
      obtain ⟨l0, hl0, rfl⟩ := Option.map_eq_some_iff.mp hl
      refine .inl ⟨l0, hp ▸ hl0, ?_⟩
      split <;> rfl
    · exact .inl ⟨l, hl, rfl⟩
  · obtain ⟨hlp, hnm⟩ := (h.held s σ (h.connecting s σ hσ hc) hσ hag hlv).written gen hsg
    refine ⟨nofun, nofun, fun _ => ⟨⟨gen, ?_⟩, ?_⟩⟩
    · rw [loop_start, if_pos rfl, hlp]
      simp
    · refine hnm.imp id fun ⟨hn, ho⟩ => ⟨hn, fun pod' hl => ?_⟩
      by_contra hne
      exact hne (ho pod' (live_of_set (τ := { σ with stage := .running }) hσ rfl id
        (loop_start.trans (if_neg hne)) hl))

theorem Directed.register (hσ : w.sessions[s]? = some σ)
    (ho : ∀ σ' ∈ w.sessions, σ'.stage.connecting = false) (hf : w.Free σ.pod) :
    (w.register s σ).Directed := by
  obtain ⟨stage, hsg, hc, hh⟩ : ∃ stage : Stage,
      (w.register s σ).sessions = w.sessions.set s { σ with stage } ∧ stage.connecting ∧
        stage.holding = false := by
    refine ⟨_, rfl, ?_⟩
    cases (w.pods σ.pod).agent <;> exact ⟨rfl, rfl⟩
  refine h.move ⟨hσ, hsg, rfl, rfl, fun pod i hag => ?_, fun pod l hl => .inl ⟨l, ?_, rfl⟩,
    fun _ => rfl, fun hl => ?_, fun _ _ => hf, fun _ _ _ => .of_not_holding hh,
    .inl ⟨rfl, fun _ σ1 _ hσ1 => ho σ1 (mem_of_getElem? hσ1)⟩⟩
  · have hpd : (w.register s σ).pods pod =
        if pod = σ.pod then { w.pods σ.pod with agent := some s } else w.pods pod := pods_setPod
    rw [hpd] at hag
    split at hag
    next hp => exact .inl ⟨(Option.some.inj hag).symm, hp, joined_of_connecting hc⟩
    next hp =>
      refine .inr ⟨?_, hag⟩
      rintro rfl
      exact hp (h.hub_self hσ hag).1
  · have hlp : ((w.register s σ).pods pod).loop =
        if pod = σ.pod then (w.pods σ.pod).loop else (w.pods pod).loop := loop_setPod
    rw [hlp] at hl
    split at hl
    next hp => exact hp ▸ hl
    · exact hl
  · simp [leaving_of_joined (joined_of_connecting (σ := { σ with stage }) hc)] at hl

/-! ### Leaving the hub -/

theorem Directed.emptyHub :
    (w.setPod pod { w.pods pod with agent := none }).Directed := by
  have hag' : ∀ {pod' i : Nat},
      ((w.setPod pod { w.pods pod with agent := none }).pods pod').agent = some i →
        pod' ≠ pod ∧ (w.pods pod').agent = some i := by
    intro pod' i hag
    rw [pods_setPod] at hag
    split at hag
    · cases hag
    next hp => exact ⟨hp, hag⟩
  have hl' : ∀ pod', ((w.setPod pod { w.pods pod with agent := none }).pods pod').loop
      = (w.pods pod').loop := by
    intro pod'
    rw [loop_setPod]
    split
    next hp => rw [hp]
    · rfl
  have hlv' : ∀ pod', (w.setPod pod { w.pods pod with agent := none }).live pod' →
      w.live pod' = true := fun pod' =>
    live_of_sessions (hl' pod') fun _ σ' hσ' => ⟨σ', hσ', id⟩
  refine ⟨fun pod' i hag => h.hub pod' i (hag' hag).2,
    fun pod' l hl => h.loops pod' l (hl' pod' ▸ hl), h.connecting, h.newest,
    fun s σ hs hσ hag => h.free s σ hs hσ (hag' hag).2, fun s σ hs hσ hag hlv => ?_⟩
  exact (h.held s σ hs hσ (hag' hag).2 hlv).mono (hl' σ.pod) fun hnm => hnm.mono rfl hlv'

theorem Directed.leave (hσ : w.sessions[s]? = some σ)
    (hag : (w.pods σ.pod).agent ≠ some s) {stage : Stage}
    (hcn : stage.connecting = false)
    (hle : stage.leaving → ∀ i, (w.pods σ.pod).agent ≠ some i) :
    (w.setSession s { σ with stage }).Directed := by
  refine h.move ⟨hσ, rfl, rfl, rfl, h.hub_moved hσ (fun _ => rfl) fun ha => absurd ha hag,
    fun _ l hl => .inl ⟨l, hl, rfl⟩, fun hc => ?_, fun hl => ?_, fun ha => absurd ha hag,
    fun ha => absurd ha hag, .inr ⟨rfl, rfl, fun _ => rfl, id⟩⟩
  · simp [hcn] at hc
  · exact .inr (Option.eq_none_iff_forall_ne_some.mpr (hle hl))

theorem Directed.remove (hσ : w.sessions[s]? = some σ) :
    (w.remove s σ).Directed := by
  unfold World.remove
  dsimp only
  split
  · have hn : ((w.setPod σ.pod { w.pods σ.pod with agent := none }).pods σ.pod).agent = none := by
      rw [pods_setPod, if_pos rfl]
    exact h.emptyHub.leave hσ (by simp [hn]) rfl fun _ i => by simp [hn]
  next hag => exact h.leave hσ hag rfl nofun

theorem Directed.addForced (hag : (w.pods f.pod).agent = none) :
    { w with forced := w.forced ++ [f] }.Directed := by
  refine h.setForced fun pod s ha hdone f1 hf1 hp1 => ?_
  rcases mem_append.mp hf1 with hf1 | hf1
  · exact hdone f1 hf1 hp1
  · obtain rfl := mem_singleton.mp hf1
    rw [← hp1, hag] at ha
    cases ha

end

/-! ### Ticks and expiry -/

theorem Held.loop (h : w.Held s σ) (hh : σ.stage.holding) : ∃ gen started,
    (w.pods σ.pod).loop = some ⟨gen, s, started, false⟩ ∧ (started → w.Named σ.pod) := by
  cases hsg : σ.stage with
  | claimed gen => exact ⟨gen, false, h.claimed gen hsg, nofun⟩
  | written gen => exact ⟨gen, false, (h.written gen hsg).1, nofun⟩
  | running =>
    obtain ⟨⟨gen, hl⟩, hnm⟩ := h.running hsg
    exact ⟨gen, true, hl, fun _ => hnm⟩
  | _ => simp [hsg, Stage.holding] at hh

theorem Directed.supersede (h : w.Directed) (hs : w.Spared pod) : (w.setPod pod { w.pods pod with
      loop := (w.pods pod).loop.map ({ · with superseded := true }) }).Directed := by
  refine h.setLoop hs (fun l hl => ?_) fun hlv => ?_
  · obtain ⟨l0, hl0, rfl⟩ := Option.map_eq_some_iff.mp hl
    exact ⟨l0, hl0, rfl⟩
  · cases hl : (w.pods pod).loop with
    | none => simp [hl] at hlv
    | some l => simp [hl, Loop.live] at hlv

theorem Directed.tick (h : w.Directed) : (w.tick pod).Directed := by
  unfold World.tick
  split
  next hl =>
    split
    next hm =>
      refine h.setEntry fun s σ hs hσ hag hnm => .inl ?_
      -- only the newest connection's pod can be here: the entry is its own, or no other is live
      rcases hnm with hen | ⟨-, ho⟩
      · rcases hm with hnn | hsm
        · rw [hnn] at hen
          cases hen
        · rw [hsm] at hen
          exact hen
      · exact congrArg some (ho pod hl)
    next hot =>
      refine h.supersede fun s σ hs hσ hag hc hp => Bool.eq_false_iff.mpr fun hh => ?_
      subst hp
      obtain ⟨gen, started, hlp, hnm⟩ := (h.held s σ hs hσ hag hc).loop hh
      have hst : started := by
        simp only [live, hlp, Option.any_some, Loop.live, Bool.and_eq_true] at hl
        exact hl.1.1
      exact hot ((hnm hst).elim .inr fun hn => .inl hn.1)
  · exact h

theorem Directed.evict (h : w.Directed) : (w.evict pod).Directed := by
  unfold World.evict
  split
  next hsp =>
    refine h.stopLoop fun s σ hs hσ hag hc hp => Bool.eq_false_iff.mpr fun hh => ?_
    subst hp
    obtain ⟨gen, started, hl, -⟩ := (h.held s σ hs hσ hag hc).loop hh
    rw [hl] at hsp
    cases hsp
  · exact h

theorem Directed.expire (h : w.Directed) (ha : w.Apart .expire) :
    (w.step .expire).Directed := by
  refine h.setEntry fun s σ hs hσ hag hnm => .inr ⟨rfl, fun pod' hl => ?_⟩
  have hl0 : w.live pod' := hl
  cases hlp : (w.pods pod').loop with
  | none =>
    unfold live at hl0
    simp [hlp] at hl0
  | some l =>
    obtain ⟨σ0, hσ0, rfl⟩ := h.loops pod' l hlp
    have hh := ha σ0 (mem_of_getElem? hσ0) hl0
    simpa [home, hs, hσ] using hh.symm

/-! ### Every step -/

theorem not_free_of_leaving (hσ : w.sessions[s]? = some σ) (hl : σ.stage.leaving) :
    ¬w.Free σ.pod := by
  intro hf
  have hnot := hf.1 σ (mem_of_getElem? hσ) rfl
  rw [hl] at hnot
  cases hnot

theorem not_free_of_forced (hf : w.forced[id]? = some f) (hsg : f.stage ≠ .done) : ¬w.Free f.pod :=
  fun hfr => hsg (hfr.2 f (mem_of_getElem? hf) rfl)

theorem Directed.next (h : w.Directed) (hσ : w.sessions[s]? = some σ)
    (ha : w.Apart (.session s)) : (w.next s σ).Directed := by
  unfold World.next
  cases hsg : σ.stage with
  | accepted =>
    exact h.rows.setSession hσ ⟨rfl, id, .inr ⟨by simp [hsg, Stage.joined, Stage.connecting], rfl,
      by simp [Stage.leaving]⟩⟩
  | persisted =>
    simp only [Apart, hσ] at ha
    exact h.register hσ (ha hsg).1 (ha hsg).2
  | replacing existing =>
    refine Directed.cancel (h.connect { σ with stage := .registered } hσ
      (by simp [hsg, Stage.connecting]) rfl rfl rfl rfl rfl (fun _ => rfl)
      (fun _ l hl => .inl ⟨l, hl, rfl⟩) fun _ _ => .of_not_holding rfl)
  | registered => exact h.claim hσ hsg
  | claimed gen => exact h.write hσ hsg
  | written gen => exact h.start hσ hsg
  | running =>
    dsimp only
    split
    · exact h.remove hσ
    · exact h
  | removed stillOwner =>
    refine h.rows.setSession hσ
      ⟨rfl, id, .inr ⟨by simp [hsg, Stage.joined, Stage.connecting], ?_, ?_⟩⟩
    · cases stillOwner <;> rfl
    · cases stillOwner <;> simp [hsg, Stage.leaving]
  | unlisted =>
    have hnot := not_free_of_leaving hσ (by simp [hsg, Stage.leaving])
    exact (h.stopLoop (h.spared hnot)).setSession hσ ⟨rfl, id, .inr
      ⟨by simp [hsg, Stage.joined, Stage.connecting], rfl, by simp [hsg, Stage.leaving]⟩⟩
  | stopped =>
    have hnot := not_free_of_leaving hσ (by simp [hsg, Stage.leaving])
    exact (h.casDelete hnot).setSession hσ ⟨rfl, id, .inr
      ⟨by simp [hsg, Stage.joined, Stage.connecting], rfl, by simp [Stage.leaving]⟩⟩
  | done => exact h

theorem Directed.forcedNext (h : w.Directed) (hf : w.forced[id]? = some f) :
    (w.forcedNext id f).Directed := by
  unfold World.forcedNext
  cases hsg : f.stage with
  | cancelling =>
    dsimp only
    rw [← forced_cancel (w := w) (s := f.session)] at hf ⊢
    exact h.cancel.moveForced hf rfl (by simp [hsg])
  | stopping =>
    have hnot := not_free_of_forced hf (by simp [hsg])
    exact (h.stopLoop (h.spared hnot)).moveForced hf rfl (by simp [hsg])
  | erasing =>
    have hnot := not_free_of_forced hf (by simp [hsg])
    exact (h.casDelete hnot).moveForced hf rfl (by simp [hsg])
  | done => exact h

theorem Directed.step (h : w.Directed) (ha : w.Apart e) : (w.step e).Directed := by
  cases e with
  | accept pod => exact h.accept
  | session s =>
    simp only [World.step]
    split
    · exact h
    next hσ => exact h.next hσ ha
  | drop s => exact h.cancel
  | force pod =>
    simp only [World.step]
    split
    · exact h
    next s hag =>
      refine Directed.addForced (w := w.setPod pod { w.pods pod with agent := none }) h.emptyHub ?_
      rw [pods_setPod, if_pos rfl]
  | forced id =>
    simp only [World.step]
    split
    · exact h
    next f hf => exact h.forcedNext hf
  | tick pod => exact h.tick
  | evict pod => exact h.evict
  | expire => exact h.expire ha

theorem directed_initial : ({} : World).Directed := ⟨nofun, nofun, nofun, nofun, nofun, nofun⟩

theorem directed_run (h : w.Directed) (hm : RunMeets step Apart w es) : (run step w es).Directed :=
  hm.preserves (fun _ _ hw he => hw.step he) h

/-! ## Ticks after the connections have come to rest -/

structure Serves (w : World) (pod s : Nat) (σ : Session) : Prop where
  newest : w.newest = some s
  session : w.sessions[s]? = some σ
  home : σ.pod = pod
  agent : (w.pods pod).agent = some s
  running : σ.stage = .running
  uncancelled : σ.cancelled = false

theorem Serves.of_quiet (h : w.Directed) (hq : w.Quiet) (hn : w.newest = some s)
    (hag : (w.pods pod).agent = some s) : ∃ σ, Serves w pod s σ := by
  obtain ⟨σ, hσ, hp, hjn⟩ := h.hub pod s hag
  rcases hq.1 σ (mem_of_getElem? hσ) with hdone | ⟨hr, ho⟩
  · rw [hdone] at hjn
    cases hjn
  · exact ⟨σ, hn, hσ, hp, hag, hr, ho⟩

theorem Serves.running_loop (h : w.Directed) (hs : Serves w pod s σ) :
    (∃ gen, (w.pods pod).loop = some ⟨gen, s, true, false⟩) ∧ w.Named pod := by
  obtain ⟨hn, hσ, rfl, hag, hr, ho⟩ := hs
  exact (h.held s σ hn hσ hag ho).running hr

theorem Serves.live (h : w.Directed) (hs : Serves w pod s σ) : w.live pod := by
  obtain ⟨gen, hl⟩ := (hs.running_loop h).1
  simp [World.live, hl, Loop.live, hs.session, hs.uncancelled]

theorem Serves.keeps (hsr : Serves w pod s σ) (he : e.ofLocator) :
    Serves (w.step e) pod s σ := by
  have hs : ((w.step e).pods pod).agent = (w.pods pod).agent ∧
      (w.step e).sessions = w.sessions ∧ (w.step e).newest = w.newest := by
    cases e with
    | tick pod' =>
      show ((w.tick pod').pods pod).agent = _ ∧ (w.tick pod').sessions = _ ∧
        (w.tick pod').newest = _
      unfold World.tick
      split
      · split
        · exact ⟨rfl, rfl, rfl⟩
        · exact ⟨agent_setPod rfl, rfl, rfl⟩
      · exact ⟨rfl, rfl, rfl⟩
    | evict pod' =>
      show ((w.evict pod').pods pod).agent = _ ∧ (w.evict pod').sessions = _ ∧
        (w.evict pod').newest = _
      unfold World.evict
      split
      · exact ⟨agent_setPod rfl, rfl, rfl⟩
      · exact ⟨rfl, rfl, rfl⟩
    | expire => exact ⟨rfl, rfl, rfl⟩
    | _ => cases he
  exact ⟨hs.2.2 ▸ hsr.newest, hs.2.1 ▸ hsr.session, hsr.home,
    hs.1.trans hsr.agent, hsr.running, hsr.uncancelled⟩

theorem Serves.kept (hs : Serves w pod s σ)
    (hes : ∀ e ∈ es, e.ofLocator) : Serves (run step w es) pod s σ := by
  induction es generalizing w with
  | nil => exact hs
  | cons e es ih =>
    exact ih (hs.keeps (hes e mem_cons_self)) fun e' he' => hes e' (mem_cons_of_mem _ he')

theorem Serves.entry_tick (h : w.Directed) (hs : Serves w pod s σ) :
    (w.step (.tick pod)).entry = some pod := by
  have hm : w.entry = none ∨ w.entry = some pod :=
    (hs.running_loop h).2.elim .inr fun hn => .inl hn.1
  show (w.tick pod).entry = _
  rw [World.tick, if_pos (hs.live h), if_pos hm]

theorem entry_refresh (he : e.ofLoop) (hen : w.entry = some pod) :
    (w.step e).entry = some pod := by
  cases e with
  | tick pod' =>
    show (w.tick pod').entry = _
    unfold World.tick
    split
    · split
      next hm =>
        rcases hm with hn | hs
        · rw [hn] at hen
          cases hen
        · exact hs.symm.trans hen
      · exact hen
    · exact hen
  | evict pod' =>
    show (w.evict pod').entry = _
    unfold World.evict
    split <;> exact hen
  | _ => cases he

theorem entry_run_refresh (hes : ∀ e ∈ es, e.ofLoop)
    (hen : w.entry = some pod) : (Astronomer.run step w es).entry = some pod := by
  induction es generalizing w with
  | nil => exact hen
  | cons e es ih =>
    exact ih (fun e' he' => hes e' (mem_cons_of_mem _ he'))
      (entry_refresh (hes e mem_cons_self) hen)

end

/-- **The newest connection is listed**, in every run that keeps hub and locator steps
apart: once nothing is pending, the pod whose hub holds the newest connection has a live
refresh loop, whatever loops tick and entries expire in the meantime its next tick makes
the entry name it, and then the entry stays so. -/
theorem newest_listed_of_apart {es : List Event} {pod s : Nat}
    (hmeets : RunMeets step Apart {} es) (hquiet : (run step {} es).Quiet)
    (hnewest : (run step {} es).newest = some s)
    (hagent : ((run step {} es).pods pod).agent = some s) :
    (run step {} es).live pod ∧
      ∀ waits later : List Event, (∀ e ∈ waits, e.ofLocator) →
        RunMeets step Apart (run step {} es) waits → (∀ e ∈ later, e.ofLoop) →
        (run step {} (es ++ waits ++ .tick pod :: later)).live pod ∧
          (run step {} (es ++ waits ++ .tick pod :: later)).entry = some pod := by
  have hd := directed_run directed_initial hmeets
  obtain ⟨σ, hs⟩ := Serves.of_quiet hd hquiet hnewest hagent
  refine ⟨hs.live hd, fun waits later hw hwa hlt => ?_⟩
  have haf := directed_run hd hwa
  have hsr := hs.kept hw
  rw [run_append, run_append, run_cons]
  -- ticks and evictions meet the condition in any state
  have hrest : RunMeets step Apart (step (run step (run step {} es) waits) (.tick pod)) later := by
    refine RunMeets.of_invariant (P := fun _ => True) (fun _ _ _ _ => trivial)
      (fun w e _ he => ?_) (RunMeets.of_forall hlt) trivial
    cases e with
    | tick _ | evict _ => trivial
    | _ => cases he
  have ht : (step (run step (run step {} es) waits) (.tick pod)).Directed := haf.tick
  refine ⟨?_, entry_run_refresh hlt (hsr.entry_tick haf)⟩
  refine ((hsr.keeps rfl).kept fun e he => ?_).live (directed_run ht hrest)
  have hl := hlt e he
  cases e with
  | tick _ | evict _ => rfl
  | _ => cases hl

/-! ## Runs -/

def connects (s : Nat) : List Event := List.replicate 5 (.session s)

/-- An agent connects to pod 0 and its WebSocket breaks. Its session leaves the hub and
writes its row; before it comes to `loc.Delete` the agent has connected again. -/
def lateDelete : List Event :=
  [.accept 0] ++ connects 0 ++ [.drop 0, .session 0, .session 0] ++
    [.accept 0] ++ connects 1 ++ [.session 0, .session 0]

/-- **A live connection nobody finds**: the newest connection is registered, nothing is
pending, and there is neither an entry nor a loop that would write one. -/
theorem lateDelete_unlisted :
    (run step {} lateDelete).Quiet ∧ (run step {} lateDelete).newest = some 1 ∧
      ((run step {} lateDelete).pods 0).agent = some 1 ∧
      (run step {} lateDelete).live 0 = false ∧ (run step {} lateDelete).entry = none := by
  decide

def moved : List Event :=
  [.accept 0] ++ connects 0 ++ [.accept 1] ++ connects 1 ++
    [.tick 0, .evict 0, .drop 0, .session 0, .session 0, .session 0, .session 0]

theorem moved_listed : (run step {} moved).live 1 ∧
      ∀ waits later : List Event, (∀ e ∈ waits, e.ofLocator) →
        RunMeets step Apart (run step {} moved) waits → (∀ e ∈ later, e.ofLoop) →
        (run step {} (moved ++ waits ++ .tick 1 :: later)).live 1 ∧
          (run step {} (moved ++ waits ++ .tick 1 :: later)).entry = some 1 :=
  newest_listed_of_apart (s := 1) (by decide) (by decide) (by decide) (by decide)

end World

end Astronomer.Tunnel
