import Astronomer.Tunnel.Sessions

/-!
# The connection row and the hub

The row of a session is written before `agents.Set`, and two sessions that connect at once can
take the two steps in different orders. Then the session that stays in the hub is the one
whose row was superseded. Row and hub agree when a session writes its row only while no other
is between the two (`World.InOrder`).
-/

namespace Astronomer.Tunnel

open List

variable {rows : List ConnectionRow}

inductive Phase where
  | accepted
  | persisted
  | joined
  | removed
  | gone
deriving DecidableEq

def Stage.phase : Stage → Phase
  | .accepted => .accepted
  | .persisted => .persisted
  | .replacing _ | .registered | .claimed _ | .written _ | .running => .joined
  | .removed _ => .removed
  | .unlisted | .stopped | .done => .gone

@[simp] theorem Stage.phase_eq_accepted {t : Stage} : t.phase = .accepted ↔ t = .accepted := by
  cases t <;> simp [phase]

@[simp] theorem Stage.phase_eq_persisted {t : Stage} : t.phase = .persisted ↔ t = .persisted := by
  cases t <;> simp [phase]

def Phase.listed : Phase → Bool
  | .persisted | .joined | .removed => true
  | .accepted | .gone => false

def Event.acceptsOn (pod : Nat) : Event → Bool
  | .accept pod' => pod' = pod
  | _ => true

namespace World

variable (w : World)

def connectedSessions : List Nat := (w.rows.filter (·.connected)).map (·.sessionID)

def last : Option Nat := w.rows.getLast?.map (·.sessionID)

/-- A session writes its row only when no other has written its own and not yet entered
the hub. -/
def InOrder : Event → Prop
  | .session s =>
    match w.sessions[s]? with
    | some σ => σ.stage = .accepted → ∀ σ' ∈ w.sessions, σ'.stage ≠ .persisted
    | none => True
  | _ => True

instance : ∀ e, Decidable (w.InOrder e)
  | .session s => decidable_of_iff (∀ σ ∈ w.sessions[s]?, σ.stage = .accepted →
      ∀ σ' ∈ w.sessions, σ'.stage ≠ .persisted) (by cases h : w.sessions[s]? <;> simp [InOrder, h])
  | .accept _ | .drop _ | .force _ | .forced _ | .tick _ | .evict _ | .expire =>
    inferInstanceAs (Decidable True)

def Settled : Prop :=
  (∀ σ ∈ w.sessions,
    σ.stage.phase = .gone ∨ (σ.stage.phase = .joined ∧ σ.cancelled = false)) ∧
    ∀ f ∈ w.forced, f.stage ≠ .cancelling
deriving Decidable

/-! ## The invariant -/

/-- On the one pod: every row is some session's, and only the last one can say
`connected`, which it does until its session has disconnected it. -/
structure Recorded (pod : Nat) : Prop where
  onePod : ∀ σ ∈ w.sessions, σ.pod = pod
  unrecorded : ∀ (s : Nat) σ, w.sessions[s]? = some σ → σ.stage = .accepted → σ.dbid = none
  dbid : ∀ (s : Nat) σ k, w.sessions[s]? = some σ → σ.dbid = some k →
    ∃ row, w.rows[k]? = some row ∧ row.sessionID = s
  row : ∀ (k : Nat) row, w.rows[k]? = some row → ∃ σ, w.sessions[row.sessionID]? = some σ ∧
    σ.dbid = some k ∧ row.connected = (decide (k + 1 = w.rows.length) && σ.stage.phase.listed)
  persisted : ∀ (s : Nat) σ, w.sessions[s]? = some σ → σ.stage = .persisted → w.last = some s
  hub : ∀ s, (w.pods pod).agent = some s →
    (∃ σ, w.sessions[s]? = some σ ∧ σ.stage.phase = .joined) ∧
      (w.last = some s ∨
        ∃ s' σ', w.last = some s' ∧ w.sessions[s']? = some σ' ∧ σ'.stage = .persisted)
  lastHub : ∀ (s : Nat) σ, w.last = some s → w.sessions[s]? = some σ → σ.stage.phase = .joined →
    (w.pods pod).agent = some s ∨ σ.cancelled ∨
      ∃ f ∈ w.forced, f.session = s ∧ f.stage = .cancelling

def view (σ : Session) : Nat × Option Nat × Phase := (σ.pod, σ.dbid, σ.stage.phase)

/-- A step that the rows and the hub do not see. A forced disconnect may have cancelled
its session. -/
structure Alike (w w' : World) (pod : Nat) : Prop where
  rows : w'.rows = w.rows
  agent : (w'.pods pod).agent = (w.pods pod).agent
  sessions : ∀ s : Nat, (w'.sessions[s]?).map view = (w.sessions[s]?).map view
  cancelled : ∀ (s : Nat) σ σ', w.sessions[s]? = some σ → w'.sessions[s]? = some σ' →
    σ.cancelled → σ'.cancelled
  forced : ∀ f ∈ w.forced, f.stage = .cancelling →
    f ∈ w'.forced ∨ ∀ σ', w'.sessions[f.session]? = some σ' → σ'.cancelled

section

variable {w w' : World} {s pod : Nat} {σ σ' : Session}

theorem exists_of_map_view {xs ys : Option Session} (h : ys.map view = xs.map view)
    (hx : xs = some σ) : ∃ σ', ys = some σ' ∧ view σ' = view σ := by
  rw [hx, Option.map_some] at h
  exact Option.map_eq_some_iff.mp h

theorem alike_refl (pod : Nat) : Alike w w pod :=
  ⟨rfl, rfl, fun _ => rfl, fun _ _ _ hσ hσ' hc => Option.some.inj (hσ.symm.trans hσ') ▸ hc,
    fun _ hf _ => .inl hf⟩

theorem Recorded.alike (h : w.Recorded pod) (ha : Alike w w' pod) : w'.Recorded pod := by
  have hb : ∀ {s : Nat} {σ' : Session}, w'.sessions[s]? = some σ' →
      ∃ σ, w.sessions[s]? = some σ ∧ view σ = view σ' := fun hσ' =>
    exists_of_map_view (ha.sessions _).symm hσ'
  have hfr : ∀ {s : Nat} {σ : Session}, w.sessions[s]? = some σ →
      ∃ σ', w'.sessions[s]? = some σ' ∧ view σ' = view σ := fun hσ =>
    exists_of_map_view (ha.sessions _) hσ
  have hl : w'.last = w.last := by rw [last, last, ha.rows]
  have hph : ∀ {σ σ' : Session}, view σ = view σ' → σ.stage.phase = σ'.stage.phase :=
    fun hv => congrArg (·.2.2) hv
  refine ⟨fun σ' hσ' => ?_, fun s σ' hσ' hac => ?_, fun s σ' k hσ' hk => ?_,
    fun k row hr => ?_, fun s σ' hσ' hp => ?_, fun s hag => ?_, fun s σ' hs hσ' hjn => ?_⟩
  · obtain ⟨i, hi⟩ := mem_iff_getElem?.mp hσ'
    obtain ⟨σ, hσ, hv⟩ := hb hi
    exact (congrArg (·.1) hv).symm.trans (h.onePod σ (mem_of_getElem? hσ))
  · obtain ⟨σ, hσ, hv⟩ := hb hσ'
    rw [← Stage.phase_eq_accepted, ← hph hv, Stage.phase_eq_accepted] at hac
    exact (congrArg (·.2.1) hv).symm.trans (h.unrecorded s σ hσ hac)
  · obtain ⟨σ, hσ, hv⟩ := hb hσ'
    rw [ha.rows]
    exact h.dbid s σ k hσ ((congrArg (·.2.1) hv).trans hk)
  · rw [ha.rows] at hr ⊢
    obtain ⟨σ, hσ, hd, hcd⟩ := h.row k row hr
    obtain ⟨σ', hσ', hv⟩ := hfr hσ
    exact ⟨σ', hσ', (congrArg (·.2.1) hv).trans hd, by rw [hcd, hph hv]⟩
  · obtain ⟨σ, hσ, hv⟩ := hb hσ'
    rw [← Stage.phase_eq_persisted, ← hph hv, Stage.phase_eq_persisted] at hp
    rw [hl]
    exact h.persisted s σ hσ hp
  · rw [ha.agent] at hag
    obtain ⟨⟨σ, hσ, hjn⟩, ho⟩ := h.hub s hag
    obtain ⟨σ', hσ', hv⟩ := hfr hσ
    refine ⟨⟨σ', hσ', (hph hv).trans hjn⟩, ho.imp hl.trans ?_⟩
    rintro ⟨s1, σ1, hs1, hσ1, hp⟩
    obtain ⟨σ2, hσ2, hv2⟩ := hfr hσ1
    rw [← Stage.phase_eq_persisted, ← hph hv2, Stage.phase_eq_persisted] at hp
    exact ⟨s1, σ2, hl.trans hs1, hσ2, hp⟩
  · obtain ⟨σ, hσ, hv⟩ := hb hσ'
    rw [hl] at hs
    rw [ha.agent]
    rcases h.lastHub s σ hs hσ ((hph hv).trans hjn) with
      hag | hc | ⟨f, hf, hss, hsg⟩
    · exact .inl hag
    · exact .inr (.inl (ha.cancelled s σ σ' hσ hσ' hc))
    · rcases ha.forced f hf hsg with hf' | hcn
      · exact .inr (.inr ⟨f, hf', hss, hsg⟩)
      · exact .inr (.inl (hcn σ' (hss ▸ hσ')))

theorem alike_setSession (hσ : w.sessions[s]? = some σ) (hv : view σ' = view σ)
    (hc : σ.cancelled → σ'.cancelled) : Alike w (w.setSession s σ') pod := by
  refine ⟨rfl, rfl, fun i => ?_, fun i σ1 σ2 hσ1 hσ2 hcn => ?_, fun f hf _ => .inl hf⟩
  · rw [getElem?_setSession hσ]
    split
    next hi => rw [hi, hσ, Option.map_some, Option.map_some, hv]
    · rfl
  · rw [getElem?_setSession hσ] at hσ2
    split at hσ2
    next hi =>
      subst hi
      obtain rfl := Option.some.inj (hσ.symm.trans hσ1)
      cases hσ2
      exact hc hcn
    · exact Option.some.inj (hσ1.symm.trans hσ2) ▸ hcn

theorem alike_cancel : Alike w (w.cancel s) pod := by
  unfold World.cancel
  split
  · exact alike_refl pod
  next σ hσ => exact alike_setSession hσ rfl fun _ => rfl

theorem alike_locator (hrs : w'.rows = w.rows)
    (hag : (w'.pods pod).agent = (w.pods pod).agent) (hs : w'.sessions = w.sessions)
    (hfr : w'.forced = w.forced) : Alike w w' pod :=
  ⟨hrs, hag, fun _ => by rw [hs],
    fun _ _ _ hσ hσ' hc => Option.some.inj (hσ.symm.trans (hs ▸ hσ')) ▸ hc,
    fun _ hf _ => .inl (hfr ▸ hf)⟩

theorem onePod_setSession (h : ∀ σ ∈ w.sessions, σ.pod = pod) (hp : σ'.pod = pod) :
    ∀ σ ∈ (w.setSession s σ').sessions, σ.pod = pod := by
  intro τ hτ
  rcases mem_or_eq_of_mem_set hτ with hτ | rfl
  · exact h τ hτ
  · exact hp

/-! ## The steps that the rows and the hub see -/

theorem Recorded.accept (h : w.Recorded pod) : (w.step (.accept pod)).Recorded pod := by
  have hf : ∀ {i : Nat} {τ : Session}, w.sessions[i]? = some τ →
      (w.sessions ++ [({ pod := pod } : Session)])[i]? = some τ := fun hτ =>
    (getElem?_append_left (List.getElem?_eq_some_iff.mp hτ).1).trans hτ
  have hb : ∀ {i : Nat} {τ : Session}, (w.sessions ++ [({ pod := pod } : Session)])[i]? = some τ →
      w.sessions[i]? = some τ ∨ τ = { pod := pod } := by
    intro i τ hτ
    rw [getElem?_append] at hτ
    split at hτ
    · exact .inl hτ
    · exact .inr (mem_singleton.mp (mem_of_getElem? hτ))
  refine ⟨fun τ hτ => ?_, fun i τ hτ hsg => ?_, fun i τ k hτ hk => ?_, fun k row hr => ?_,
    fun i τ hτ hp => ?_, fun i hi => ?_, fun i τ hi hτ hjn => ?_⟩
  · rcases mem_append.mp hτ with hτ | hτ
    · exact h.onePod τ hτ
    · exact mem_singleton.mp hτ ▸ rfl
  · rcases hb hτ with hτ | rfl
    · exact h.unrecorded i τ hτ hsg
    · rfl
  · rcases hb hτ with hτ | rfl
    · exact h.dbid i τ k hτ hk
    · cases hk
  · obtain ⟨τ, hτ, hrest⟩ := h.row k row hr
    exact ⟨τ, hf hτ, hrest⟩
  · rcases hb hτ with hτ | rfl
    · exact h.persisted i τ hτ hp
    · cases hp
  · obtain ⟨⟨τ, hτ, hjn⟩, ho⟩ := h.hub i hi
    refine ⟨⟨τ, hf hτ, hjn⟩, ho.imp id ?_⟩
    rintro ⟨j, τ', hj, hτ', hp⟩
    exact ⟨j, τ', hj, hf hτ', hp⟩
  · rcases hb hτ with hτ | rfl
    · exact h.lastHub i τ hi hτ hjn
    · cases hjn

theorem Recorded.persist (h : w.Recorded pod) (hσ : w.sessions[s]? = some σ)
    (hsg : σ.stage = .accepted) (ho : ∀ σ' ∈ w.sessions, σ'.stage ≠ .persisted) :
    ({ w with rows := replaceActive w.rows s }.setSession s
      { σ with dbid := some w.rows.length, stage := .persisted }).Recorded pod := by
  have hn := h.unrecorded s σ hσ hsg
  have hold : ∀ {k : Nat} {row : ConnectionRow}, w.rows[k]? = some row →
      (replaceActive w.rows s)[k]? = some { row with connected := false } := by
    intro k row hr
    have hk := (List.getElem?_eq_some_iff.mp hr).1
    rw [replaceActive, getElem?_append_left (by simpa using hk), getElem?_map, hr]
    rfl
  have hnw : (replaceActive w.rows s)[w.rows.length]? = some ⟨s, true⟩ := by simp [replaceActive]
  have hl : ({ w with rows := replaceActive w.rows s }.setSession s
      { σ with dbid := some w.rows.length, stage := .persisted }).last = some s := by
    simp [last, setSession, replaceActive]
  refine ⟨onePod_setSession h.onePod (h.onePod σ (mem_of_getElem? hσ)),
    fun i τ hτ hi => ?_, fun i τ k hτ hk => ?_, fun k row hr => ?_, fun i τ hτ hp => ?_,
    fun i hi => ?_, fun i τ hi hτ hjn => ?_⟩
  · rcases lookup_setSession hσ hτ with ⟨-, rfl⟩ | ⟨-, hτ⟩
    · cases hi
    · exact h.unrecorded i τ hτ hi
  · rcases lookup_setSession hσ hτ with ⟨rfl, rfl⟩ | ⟨-, hτ⟩
    · cases hk
      exact ⟨_, hnw, rfl⟩
    · obtain ⟨row, hr, hid⟩ := h.dbid i τ k hτ hk
      exact ⟨_, hold hr, hid⟩
  · have hln : (replaceActive w.rows s).length = w.rows.length + 1 := by simp [replaceActive]
    show ∃ _, _ ∧ _ ∧ _ = (decide (k + 1 = (replaceActive w.rows s).length) && _)
    rcases Nat.lt_or_ge k w.rows.length with hk | hk
    · -- an earlier row is now superseded, and its session is another one
      obtain ⟨old, hold'⟩ : ∃ old, w.rows[k]? = some old := ⟨_, getElem?_eq_getElem hk⟩
      obtain rfl : _ = row := Option.some.inj ((hold hold').symm.trans hr)
      obtain ⟨τ, hτ, hd, -⟩ := h.row k old hold'
      have hne : old.sessionID ≠ s := by
        rintro rfl
        rw [Option.some.inj (hτ.symm.trans hσ), hn] at hd
        cases hd
      refine ⟨τ, ?_, hd, ?_⟩
      · exact (getElem?_setSession_ne hσ hne).trans hτ
      · rw [hln, decide_eq_false (by omega)]
        rfl
    · have hk' : k = w.rows.length := by
        have := (List.getElem?_eq_some_iff.mp hr).1
        rw [show (setSession _ _ _).rows = replaceActive w.rows s from rfl, hln] at this
        omega
      subst hk'
      obtain rfl : _ = row := Option.some.inj (hnw.symm.trans hr)
      refine ⟨_, getElem?_setSession_self hσ, rfl, ?_⟩
      rw [hln, decide_eq_true rfl]
      rfl
  · rcases lookup_setSession hσ hτ with ⟨rfl, -⟩ | ⟨-, hτ⟩
    · exact hl
    · exact absurd hp (ho τ (mem_of_getElem? hτ))
  · obtain ⟨⟨τ, hτ, hjn⟩, -⟩ := h.hub i hi
    have hne : i ≠ s := by
      rintro rfl
      rw [Option.some.inj (hτ.symm.trans hσ), hsg] at hjn
      cases hjn
    exact ⟨⟨τ, (getElem?_setSession_ne hσ hne).trans hτ, hjn⟩,
      .inr ⟨s, _, hl, getElem?_setSession_self hσ, rfl⟩⟩
  · obtain rfl : s = i := Option.some.inj (hl.symm.trans hi)
    rw [Option.some.inj (hτ.symm.trans (getElem?_setSession_self hσ))] at hjn
    cases hjn

/-- A step of a session that has written its row. It enters the hub, leaves it or stays
outside, and its row says `connected` until the session is gone. -/
structure Advanced (w w' : World) (s : Nat) (σ τ : Session) : Prop where
  sessions : w'.sessions = (w.setSession s τ).sessions
  pod : τ.pod = σ.pod
  dbid : τ.dbid = σ.dbid
  listed : σ.stage.phase.listed
  stage : τ.stage ≠ .accepted ∧ τ.stage ≠ .persisted
  rows : ∀ k, w'.rows[k]? = (w.rows[k]?).map fun row => if σ.dbid = some k then
    { row with connected := row.connected && τ.stage.phase.listed } else row
  forced : w'.forced = w.forced
  hub : ∀ i, (w'.pods σ.pod).agent = some i → (i = s ∧ σ.stage = .persisted) ∨
    (i ≠ s ∧ σ.stage ≠ .persisted ∧ (w.pods σ.pod).agent = some i)
  joined : (w'.pods σ.pod).agent = some s ↔ τ.stage.phase = .joined
  kept : ∀ i, i ≠ s → w.last = some i → (w.pods σ.pod).agent = some i →
    (w'.pods σ.pod).agent = some i

theorem Advanced.sessionIDs (hm : Advanced w w' s σ σ') :
    w'.rows.map (·.sessionID) = w.rows.map (·.sessionID) := by
  refine ext_getElem? fun k => ?_
  rw [getElem?_map, getElem?_map, hm.rows, Option.map_map]
  congr 1
  funext row
  rw [Function.comp_apply]
  split <;> rfl

theorem Advanced.row {k row} (hm : Advanced w w' s σ σ') (h : w.Recorded pod)
    (hσ : w.sessions[s]? = some σ) (hr : w'.rows[k]? = some row) :
    ∃ ρ, w'.sessions[row.sessionID]? = some ρ ∧ ρ.dbid = some k ∧
      row.connected = (decide (k + 1 = w'.rows.length) && ρ.stage.phase.listed) := by
  have hln : w'.rows.length = w.rows.length := by simpa using congrArg List.length hm.sessionIDs
  rw [hm.rows] at hr
  obtain ⟨old, hold, rfl⟩ := Option.map_eq_some_iff.mp hr
  obtain ⟨ρ, hρ, hk, hc⟩ := h.row k old hold
  rw [hm.sessions, hln]
  by_cases hi : old.sessionID = s
  · obtain rfl : ρ = σ := Option.some.inj ((hi ▸ hρ).symm.trans hσ)
    rw [if_pos hk]
    refine ⟨σ', ?_, hm.dbid.trans hk, ?_⟩
    · rw [hi]
      exact getElem?_setSession_self hσ
    · simp [hc, hm.listed]
  · -- the row under the session's own id is the session's
    have hne : σ.dbid ≠ some k := by
      intro hd
      obtain ⟨row, hr, hid⟩ := h.dbid s σ k hσ hd
      exact hi ((congrArg _ (Option.some.inj (hold.symm.trans hr))).trans hid)
    rw [if_neg hne]
    exact ⟨ρ, (getElem?_setSession_ne hσ hi).trans hρ, hk, hc⟩

theorem Recorded.advance (h : w.Recorded pod) (hσ : w.sessions[s]? = some σ)
    (hm : Advanced w w' s σ σ') : w'.Recorded pod := by
  obtain rfl := h.onePod σ (mem_of_getElem? hσ)
  have hl : w'.last = w.last := by rw [last, last, ← getLast?_map, ← getLast?_map, hm.sessionIDs]
  have hb : ∀ {i : Nat} {ρ : Session}, w'.sessions[i]? = some ρ →
      (i = s ∧ ρ = σ') ∨ (i ≠ s ∧ w.sessions[i]? = some ρ) := fun hρ =>
    lookup_setSession hσ (hm.sessions ▸ hρ)
  have hot : ∀ {i : Nat}, i ≠ s → w'.sessions[i]? = w.sessions[i]? := fun hi => by
    rw [hm.sessions, getElem?_setSession_ne hσ hi]
  refine ⟨hm.sessions ▸ onePod_setSession h.onePod hm.pod, fun i ρ hρ hi => ?_,
    fun i ρ k hρ hk => ?_, fun k row hr => hm.row h hσ hr, fun i ρ hρ hp => ?_, fun i hi => ?_,
    fun i ρ hi hρ hj => ?_⟩
  · rcases hb hρ with ⟨-, rfl⟩ | ⟨-, hρ⟩
    · exact absurd hi hm.stage.1
    · exact h.unrecorded i ρ hρ hi
  · obtain ⟨row, hr, hid⟩ : ∃ row, w.rows[k]? = some row ∧ row.sessionID = i := by
      rcases hb hρ with ⟨rfl, rfl⟩ | ⟨-, hρ⟩
      · exact h.dbid i σ k hσ (hm.dbid.symm.trans hk)
      · exact h.dbid i ρ k hρ hk
    refine ⟨_, (hm.rows k).trans (congrArg _ hr), ?_⟩
    split <;> exact hid
  · rcases hb hρ with ⟨-, rfl⟩ | ⟨-, hρ⟩
    · exact absurd hp hm.stage.2
    · exact hl.trans (h.persisted i ρ hρ hp)
  · rcases hm.hub i hi with ⟨rfl, hsg⟩ | ⟨hne, hsg, hi⟩
    · refine ⟨⟨σ', ?_, hm.joined.mp hi⟩, .inl (hl.trans (h.persisted i σ hσ hsg))⟩
      rw [hm.sessions]
      exact getElem?_setSession_self hσ
    · obtain ⟨⟨ρ, hρ, hj⟩, ho⟩ := h.hub i hi
      refine ⟨⟨ρ, (hot hne).trans hρ, hj⟩, ho.imp hl.trans ?_⟩
      rintro ⟨j, τ, hls, hτ, hp⟩
      have hjs : j ≠ s := by
        rintro rfl
        exact hsg (Option.some.inj (hτ.symm.trans hσ) ▸ hp)
      exact ⟨j, τ, hl.trans hls, (hot hjs).trans hτ, hp⟩
  · rcases hb hρ with ⟨rfl, rfl⟩ | ⟨hne, hρ⟩
    · exact .inl (hm.joined.mpr hj)
    · rw [hl] at hi
      rw [hm.forced]
      exact (h.lastHub i ρ hi hρ hj).imp (hm.kept i hne hi) id

theorem Recorded.register (h : w.Recorded pod) (hσ : w.sessions[s]? = some σ)
    (hsg : σ.stage = .persisted) : (w.register s σ).Recorded pod := by
  have hl : w.last = some s := h.persisted s σ hσ hsg
  obtain ⟨t, ht, hj⟩ : ∃ t : Stage, w.register s σ =
      { w.setPod σ.pod { w.pods σ.pod with agent := some s } with newest := some s }.setSession s
        { σ with stage := t } ∧ t.phase = .joined := by
    refine ⟨_, rfl, ?_⟩
    split <;> rfl
  rw [ht]
  refine h.advance hσ ⟨rfl, rfl, rfl, ?_, ?_, ?_, rfl, ?_, ?_, fun i hne hi _ => ?_⟩
  · simp [hsg, Stage.phase, Phase.listed]
  · constructor <;> rintro rfl <;> cases hj
  · simp [hj, Phase.listed, setSession, setPod]
  · simp [hsg, setSession, setPod, eq_comm]
  · simp [hj, setSession, setPod]
  · exact absurd (Option.some.inj (hi.symm.trans hl)) hne

theorem Recorded.remove (h : w.Recorded pod) (hσ : w.sessions[s]? = some σ)
    (hsg : σ.stage = .running) : (w.remove s σ).Recorded pod := by
  unfold World.remove
  dsimp only
  split
  next how =>
    refine h.advance hσ ⟨rfl, rfl, rfl, ?_, ?_, ?_, rfl, ?_, ?_, fun i hi _ ho => ?_⟩
    · simp [hsg, Stage.phase, Phase.listed]
    · simp
    · simp [Stage.phase, Phase.listed, setSession, setPod]
    · simp [setSession, setPod]
    · simp [Stage.phase, setSession, setPod]
    · exact absurd (Option.some.inj (ho.symm.trans how)) hi
  next how =>
    refine h.advance hσ ⟨rfl, rfl, rfl, ?_, ?_, ?_, rfl, fun i hi => .inr ⟨?_, ?_, hi⟩, ?_,
      fun _ _ _ => id⟩
    · simp [hsg, Stage.phase, Phase.listed]
    · simp
    · simp [Stage.phase, Phase.listed, setSession]
    · rintro rfl
      exact how hi
    · simp [hsg]
    · exact iff_of_false how (by simp [Stage.phase])

theorem getElem?_disconnect {k} {dbid : Option Nat} : (dbid.elim rows (disconnectRow rows))[k]? =
      (rows[k]?).map fun row => if dbid = some k then { row with connected := false } else row := by
  cases dbid with
  | none => simp
  | some id =>
    rw [Option.elim_some, disconnectRow, getElem?_modify]
    by_cases hid : id = k
    · simp [hid]
    · simp [hid]

theorem Recorded.disconnect {stillOwner} (h : w.Recorded pod) (hσ : w.sessions[s]? = some σ)
    (hsg : σ.stage = .removed stillOwner) :
    ({ w with rows := σ.dbid.elim w.rows (disconnectRow w.rows) }.setSession s
      { σ with stage := if stillOwner then .unlisted else .done }).Recorded pod := by
  have hg : (if stillOwner then Stage.unlisted else .done).phase = .gone := by
    cases stillOwner <;> rfl
  generalize (if stillOwner then Stage.unlisted else .done) = t at hg ⊢
  have hns : (w.pods σ.pod).agent ≠ some s := by
    intro hs
    obtain ⟨⟨ρ, hρ, hj⟩, -⟩ := h.hub s (h.onePod σ (mem_of_getElem? hσ) ▸ hs)
    rw [Option.some.inj (hρ.symm.trans hσ), hsg] at hj
    cases hj
  refine h.advance hσ ⟨rfl, rfl, rfl, by simp [hsg, Stage.phase, Phase.listed], ?_,
    fun k => ?_, rfl,
    fun i hi => ?_, iff_of_false hns (by simp [hg]), fun _ _ _ hi => hi⟩
  · constructor <;> rintro rfl <;> cases hg
  · simpa [hg, Phase.listed, setSession] using getElem?_disconnect
  · refine .inr ⟨?_, by simp [hsg], hi⟩
    rintro rfl
    exact hns hi

theorem Recorded.force {pod'} (h : w.Recorded pod) :
    (w.step (.force pod')).Recorded pod := by
  unfold step
  dsimp only
  split
  · exact h
  next s hag =>
    have hpd : ((w.setPod pod' { w.pods pod' with agent := none }).pods pod).agent =
        if pod = pod' then none else (w.pods pod).agent := by
      rw [pods_setPod]
      split <;> rfl
    refine ⟨h.onePod, h.unrecorded, h.dbid, h.row, h.persisted, fun i hi => ?_,
      fun i ρ hi hρ hj => ?_⟩
    · have hi' := hpd.symm.trans hi
      split at hi'
      · cases hi'
      · exact h.hub i hi'
    · rcases h.lastHub i ρ hi hρ hj with hi' | hc | ⟨f, hf, hrest⟩
      · by_cases hp : pod = pod'
        · subst hp
          obtain rfl : s = i := Option.some.inj (hag.symm.trans hi')
          exact .inr (.inr ⟨_, mem_append_right _ (mem_singleton_self _), rfl, rfl⟩)
        · exact .inl ((hpd.trans (if_neg hp)).trans hi')
      · exact .inr (.inl hc)
      · exact .inr (.inr ⟨f, mem_append_left _ hf, hrest⟩)

theorem cancelled_cancel (h : (w.cancel s).sessions[s]? = some σ') : σ'.cancelled := by
  unfold World.cancel at h
  split at h
  next hσ => exact nomatch hσ.symm.trans h
  next σ hσ =>
    rw [getElem?_setSession_self hσ] at h
    exact Option.some.inj h ▸ rfl

theorem alike_forcedNext {id f} (hf : w.forced[id]? = some f) :
    Alike w (w.forcedNext id f) pod := by
  -- a thread other than this one is where it was
  have hfr : ∀ {f' : Forced}, ∀ g ∈ w.forced, g ≠ f → g ∈ w.forced.set id f' := by
    intro f' g hg hne
    obtain ⟨i, hi⟩ := mem_iff_getElem?.mp hg
    have hid : id ≠ i := by
      rintro rfl
      exact hne (Option.some.inj (hi.symm.trans hf))
    exact mem_of_getElem? ((getElem?_set_ne hid).trans hi)
  unfold forcedNext
  split
  · have hc : Alike w (w.cancel f.session) pod := alike_cancel
    refine ⟨hc.rows, hc.agent, hc.sessions, hc.cancelled, fun g hg _ => ?_⟩
    by_cases hgf : g = f
    · exact .inr fun σ' hσ' => cancelled_cancel (hgf ▸ hσ')
    · exact .inl (hfr g hg hgf)
  next hsg =>
    refine ⟨rfl, (agent_setPod rfl), fun _ => rfl, (alike_refl pod).cancelled,
      fun g hg hg' => .inl ?_⟩
    exact hfr g hg fun hgf => nomatch (hgf ▸ hg').symm.trans hsg
  next hsg =>
    refine ⟨rfl, rfl, fun _ => rfl, (alike_refl pod).cancelled, fun g hg hg' => .inl ?_⟩
    exact hfr g hg fun hgf => nomatch (hgf ▸ hg').symm.trans hsg
  · exact alike_refl pod

theorem Recorded.locator (h : w.Recorded pod) (hσ : w.sessions[s]? = some σ)
    (hrs : w'.rows = w.rows) (hag : (w'.pods pod).agent = (w.pods pod).agent)
    (hs : w'.sessions = w.sessions) (hfr : w'.forced = w.forced)
    (hv : view σ' = view σ) (hc : σ'.cancelled = σ.cancelled) :
    (w'.setSession s σ').Recorded pod :=
  (h.alike (alike_locator hrs hag hs hfr)).alike (alike_setSession (hs ▸ hσ) hv hc.trans)

theorem Recorded.next (h : w.Recorded pod) (hσ : w.sessions[s]? = some σ)
    (ho : σ.stage = .accepted → ∀ σ' ∈ w.sessions, σ'.stage ≠ .persisted) :
    (w.next s σ).Recorded pod := by
  obtain ⟨p, cancelled, dbid, stage⟩ := σ
  cases stage with
  | accepted => exact h.persist hσ rfl (ho rfl)
  | persisted => exact h.register hσ rfl
  | replacing existing =>
    refine Recorded.alike (w := w.setSession s _) ?_ alike_cancel
    exact h.locator hσ rfl rfl rfl rfl rfl rfl
  | registered | written gen | unlisted => exact h.locator hσ rfl (agent_setPod rfl) rfl rfl rfl rfl
  | claimed gen | stopped => exact h.locator hσ rfl rfl rfl rfl rfl rfl
  | running =>
    unfold World.next
    dsimp only
    split
    · exact h.remove hσ rfl
    · exact h
  | removed stillOwner => exact h.disconnect hσ rfl
  | done => exact h

theorem Recorded.step {e : Event} (h : w.Recorded pod)
    (he : e.acceptsOn pod ∧ w.InOrder e) : (w.step e).Recorded pod := by
  obtain ⟨hp, ho⟩ := he
  cases e with
  | accept pod' =>
    obtain rfl : pod' = pod := of_decide_eq_true hp
    exact h.accept
  | session s =>
    unfold World.step
    unfold InOrder at ho
    dsimp only at ho ⊢
    split at ho
    next σ hσ =>
      rw [hσ]
      exact h.next hσ ho
    next hn =>
      rw [hn]
      exact h
  | drop s => exact h.alike alike_cancel
  | force pod' => exact h.force
  | forced id =>
    unfold World.step
    dsimp only
    split
    · exact h
    next f hf => exact h.alike (alike_forcedNext hf)
  | tick pod' =>
    unfold World.step World.tick
    dsimp only
    split
    · split
      · exact h.alike (alike_locator rfl rfl rfl rfl)
      · exact h.alike (alike_locator rfl (agent_setPod rfl) rfl rfl)
    · exact h
  | evict pod' =>
    unfold World.step World.evict
    dsimp only
    split
    · exact h.alike (alike_locator rfl (agent_setPod rfl) rfl rfl)
    · exact h
  | expire => exact h.alike (alike_locator rfl rfl rfl rfl)

theorem recorded_empty : ({} : World).Recorded pod :=
  ⟨by simp, by simp, by simp, by simp, by simp, by simp, by simp [last]⟩

/-! ## Rows and hub -/

theorem Recorded.connectedSessions_eq (h : w.Recorded pod)
    {row : ConnectionRow} (hrs : w.rows = rows ++ [row]) :
    w.connectedSessions = if row.connected then [row.sessionID] else [] := by
  have he : rows.filter (·.connected) = [] := by
    refine filter_eq_nil_iff.mpr fun r hr hc => ?_
    obtain ⟨k, hk⟩ := mem_iff_getElem?.mp hr
    have hlt : k < rows.length := (List.getElem?_eq_some_iff.mp hk).1
    obtain ⟨_, -, -, heq⟩ := h.row k r (by rw [hrs, getElem?_append_left hlt, hk])
    rw [hrs, length_append, decide_eq_false (by simp; omega), hc] at heq
    cases heq
  rw [connectedSessions, hrs, filter_append, he, nil_append]
  by_cases hrw : row.connected
  · simp [hrw]
  · simp [hrw]

theorem Recorded.agrees (h : w.Recorded pod) (hst : w.Settled) :
    w.connectedSessions = (w.pods pod).agent.toList := by
  obtain ⟨hss, hfr⟩ := hst
  rcases eq_nil_or_concat w.rows with hn | ⟨rows, row, hrs⟩
  · -- no session has written a row, so none has entered the hub
    have hl : w.last = none := by rw [last, hn]; rfl
    have hag : (w.pods pod).agent = none := by
      refine Option.eq_none_iff_forall_ne_some.mpr fun s hs => ?_
      rcases (h.hub s hs).2 with hs' | ⟨s', _, hs', -⟩
      · exact nomatch hl.symm.trans hs'
      · exact nomatch hl.symm.trans hs'
    rw [connectedSessions, hn, hag]
    rfl
  · rw [concat_eq_append] at hrs
    have hl : w.last = some row.sessionID := by simp [last, hrs]
    obtain ⟨σ, hσ, -, hcn⟩ := h.row rows.length row (by simp [hrs])
    rw [hrs, length_append, length_singleton, decide_eq_true rfl, Bool.true_and] at hcn
    rw [h.connectedSessions_eq hrs, hcn]
    -- the session in the hub, if any, wrote the last row
    have hh : ∀ s, (w.pods pod).agent = some s → s = row.sessionID := by
      intro s hs
      rcases (h.hub s hs).2 with hs' | ⟨s', σ', -, hσ', hp⟩
      · exact Option.some.inj (hs'.symm.trans hl)
      · rcases hss σ' (mem_of_getElem? hσ') with hg | ⟨hjn, -⟩
        · rw [hp] at hg
          cases hg
        · rw [hp] at hjn
          cases hjn
    rcases hss σ (mem_of_getElem? hσ) with hg | ⟨hjn, hc⟩
    · have hag : (w.pods pod).agent = none := by
        refine Option.eq_none_iff_forall_ne_some.mpr fun s hs => ?_
        obtain ⟨⟨τ, hτ, hτjoined⟩, -⟩ := h.hub s hs
        rw [hh s hs] at hτ
        rw [Option.some.inj (hτ.symm.trans hσ), hg] at hτjoined
        cases hτjoined
      rw [hg, hag]
      rfl
    · have hag : (w.pods pod).agent = some row.sessionID := by
        rcases h.lastHub _ σ hl hσ hjn with hs | hc' | ⟨f, hf, -, hsg⟩
        · exact hs
        · exact nomatch hc.symm.trans hc'
        · exact absurd hsg (hfr f hf)
      rw [hjn, hag]
      rfl

/-- **Row and hub agree**: in every run on one pod in which the sessions write their rows in
the order they enter the hub, the rows that say `connected` are exactly the one of the
session in the hub, whenever no step that writes either is pending. -/
theorem connected_row_of_inOrder (pod : Nat) (es : List Event)
    (hpod : ∀ e ∈ es, e.acceptsOn pod)
    (horder : RunMeets World.step InOrder {} es)
    (hsettled : (run World.step {} es).Settled) :
    (run World.step {} es).connectedSessions =
      ((run World.step {} es).pods pod).agent.toList := by
  have hr : (run World.step {} es).Recorded pod :=
    RunMeets.preserves (P := (Recorded · pod)) (fun _ _ h he => Recorded.step h he)
      (horder.and_mem hpod) recorded_empty
  exact hr.agrees hsettled

end

def reconnected : List Event :=
  [.accept 0] ++ List.replicate 5 (.session 0) ++ [.accept 0] ++ List.replicate 6 (.session 1) ++
    List.replicate 2 (.session 0)

theorem reconnected_agrees : (run World.step {} reconnected).connectedSessions = [1] :=
  connected_row_of_inOrder 0 reconnected (by decide) (by decide) (by decide)

def crossed : List Event :=
  [.accept 0, .accept 0, .session 0, .session 1, .session 1, .session 0] ++
    List.replicate 4 (.session 0) ++ List.replicate 5 (.session 1)

/-- Session 0 is in the hub and nothing is pending, but no row says `connected`. -/
theorem crossed_disagree : (run World.step {} crossed).Settled ∧ (run World.step {} crossed).Quiet ∧
      ((run World.step {} crossed).pods 0).agent = some 0 ∧
      (run World.step {} crossed).connectedSessions = [] := by
  decide

end World

end Astronomer.Tunnel
