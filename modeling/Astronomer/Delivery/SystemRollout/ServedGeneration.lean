import Astronomer.Delivery.SystemRollout.ReleaseTable

/-!
# The generation a cluster is served

A released assignment is served with its generation, anything else with the sequence number
of the released release. The answers never go back as long as assignments start above that
number and do not drop out of the served phases because of a failure.
-/

namespace Astronomer.Delivery.SystemRollout

variable {t : Releases} {id : UUID}

variable {env : Env} {clock : Clock} {db db' : DB} {e : Event} {es fs : List Event} {c : UUID}
  {row row' : RolloutRow} {a a' : AssignmentRow} {r : ReleaseRow}

/-! ## Answers -/

def Advances (before after : Option ServedRelease) : Prop :=
  ∀ s ∈ before, ∃ s' ∈ after, s.assignmentGeneration < s'.assignmentGeneration ∨
    s.assignmentGeneration = s'.assignmentGeneration ∧ s.release.id = s'.release.id

theorem Advances.refl (x : Option ServedRelease) : Advances x x :=
  fun s hs => ⟨s, hs, .inr ⟨rfl, rfl⟩⟩

theorem Advances.trans {x y z} (hxy : Advances x y) (hyz : Advances y z) :
    Advances x z := by
  intro s hs
  obtain ⟨s1, hs1, h1⟩ := hxy s hs
  obtain ⟨s2, hs2, h2⟩ := hyz s1 hs1
  refine ⟨s2, hs2, ?_⟩
  rcases h1 with h1 | ⟨h1, hid1⟩ <;> rcases h2 with h2 | ⟨h2, hid2⟩
  · exact .inl (h1.trans h2)
  · exact .inl (h1.trans_eq h2)
  · exact .inl (h1.trans_lt h2)
  · exact .inr ⟨h1.trans h2, hid1.trans hid2⟩

theorem answer_served (ha : db.assignments.get c = some a) (hsr : a.phase.served)
    (hr : db.releases.get a.desiredReleaseID = some r) :
    db.getClusterDeliverySystemRelease c = some ⟨r, a.generation, a.phase⟩ := by
  have hs : (db.assignments.get c).filter (·.phase.served) = some a :=
    Option.filter_eq_some_iff.mpr ⟨ha, hsr⟩
  simp [DB.getClusterDeliverySystemRelease, hs, hr]

theorem answer_fallback (h : ∀ a, db.assignments.get c = some a → a.phase.served = false) :
    db.getClusterDeliverySystemRelease c =
      db.releases.current.map fun r => ⟨r, r.releaseSequence, .released⟩ := by
  have hn : (db.assignments.get c).filter (·.phase.served) = none := by
    cases ha : db.assignments.get c with
    | none => rfl
    | some a => simp [h a ha]
  simp [DB.getClusterDeliverySystemRelease, hn]

/-! ## The condition -/

/-- What a step may do about the cluster: a rollout is started only for a newer release, and
only when the assignment of an eligible cluster has caught up with the released release; no
report of the cluster makes its assignment fail; and finished rollouts are brought back only
while nothing is active and their previous release is the released one. -/
def Paced (c : UUID) (db : DB) (e : Event) : Prop :=
  ReleaseUnmoved db e ∧
    match e with
    | .start _ _ request =>
      (∀ r ∈ db.releases.current, ∀ n ∈ db.releases.sequenceOf request.releaseID,
        r.releaseSequence < n) ∧
      (c ∈ db.listSystemRolloutEligibleClusters → ∀ r ∈ db.releases.current,
        ∃ a ∈ db.assignments.get c, r.releaseSequence ≤ a.generation ∧
          (a.phase.served → a.generation = r.releaseSequence ∧ a.desiredReleaseID = r.id))
    | .observe _ c' o => c' = c → o.compatibility = .incompatible →
      ∀ a ∈ db.assignments.get c, a.phase = .pending ∨ a.phase = .aborted ∨
        ∀ r ∈ db.releases.get a.desiredReleaseID, o.runs r
    | _ => True

instance : Decidable (Paced c db e) := by
  apply @Event.casesOn (fun e => Decidable (Paced c db e)) e <;> intros <;>
    dsimp only [Paced] <;> infer_instance

structure DB.Serves (db : DB) (c : UUID) : Prop where
  inStep : db.InStep
  ordered : ∀ i row, db.rollouts.get i = some row → ∃ p m n, row.previousReleaseID = some p ∧
    db.releases.sequenceOf p = some m ∧ db.releases.sequenceOf row.releaseID = some n ∧ m < n
  sound : ∀ a, db.assignments.get c = some a → a.phase ≠ .failed ∧ a.phase ≠ .rollbackFailed
  wanted : ∀ a, db.assignments.get c = some a → (db.releases.get a.desiredReleaseID).isSome
  ahead : ∀ a i row, db.assignments.get c = some a → a.rolloutID = some i →
    db.rollouts.get i = some row → a.phase = .pending →
      ∃ p m, row.previousReleaseID = some p ∧ db.releases.sequenceOf p = some m ∧ m < a.generation

/-! ## Releases -/

theorem Stepped.keeps (h : Stepped db e db') : db.releases.Keeps db'.releases := by
  cases h with
  | refused | registered => exact fun _ _ hn => hn
  | started hs => exact hs.releases ▸ fun _ _ hn => hn
  | acted _ hat => exact hat.releases ▸ fun _ _ hn => hn
  | reconciled _ hrc =>
    cases hrc with
    | back _ _ hrw _ => exact hrw.releases ▸ fun _ _ hn => hn
    | forward row' t _ hf =>
      by_cases hsc : row'.state = .succeeded
      · exact (hf.promoted hsc).keeps
      · exact hf.releases hsc ▸ fun _ _ hn => hn
  | observed _ _ hrl => exact hrl ▸ fun _ _ hn => hn
  | configured hc => exact hc.keeps

theorem Releases.sequenceOf_isSome :
    (t.sequenceOf id).isSome = (t.get id).isSome := Option.isSome_map

theorem Releases.sequenceOf_of_get (h : t.get id = some r) :
    t.sequenceOf id = some r.releaseSequence := by
  rw [Releases.sequenceOf, h, Option.map_some]

theorem Releases.sequenceOf_current (h : t.current = some r) :
    t.sequenceOf r.id = some r.releaseSequence :=
  sequenceOf_of_get (Keyed.get_of_mem (Releases.current_eq_some.mp h).1)

theorem Stepped.release_isSome (h : Stepped db e db')
    (hid : (db.releases.get id).isSome) : (db'.releases.get id).isSome := by
  rw [← Releases.sequenceOf_isSome] at hid ⊢
  obtain ⟨n, hn⟩ := Option.isSome_iff_exists.mp hid
  exact Option.isSome_of_eq_some (h.keeps id n hn)

theorem DB.Serves.fallback_advances (h : db.Serves c) (hsp : Stepped db e db') :
    Advances (db.releases.current.map fun r => ⟨r, r.releaseSequence, .released⟩)
      (db'.releases.current.map fun r => ⟨r, r.releaseSequence, .released⟩) := by
  intro s hs
  obtain ⟨r, hr, rfl⟩ := Option.map_eq_some_iff.mp hs
  rcases hsp.current hr with hsm | ⟨row, -, hrw, ha, -, -, r', hr', hid⟩
  · exact ⟨_, Option.map_eq_some_iff.mpr ⟨r, hsm, rfl⟩, .inr ⟨rfl, rfl⟩⟩
  · refine ⟨_, Option.map_eq_some_iff.mpr ⟨r', hr', rfl⟩, .inl ?_⟩
    obtain ⟨p, m, n, hp, hm, hn, hlt⟩ := h.ordered _ row hrw
    obtain ⟨r1, hr1, hpr⟩ := h.inStep.previous _ row hrw ha
    obtain rfl : r = r1 := Option.some.inj (hr.symm.trans hr1)
    obtain rfl : p = r.id := Option.some.inj (hp.symm.trans hpr)
    have hbf : m = r.releaseSequence :=
      Option.some.inj (hm.symm.trans (Releases.sequenceOf_current hr))
    have haf : n = r'.releaseSequence := by
      have hk := hsp.keeps _ n hn
      rw [← hid, Releases.sequenceOf_current hr'] at hk
      exact (Option.some.inj hk).symm
    show r.releaseSequence < r'.releaseSequence
    omega

/-! ## One step -/

theorem DB.Serves.current_lt (h : db.Serves c) (ha : db.assignments.get c = some a)
    (hof : a.rolloutID = some row.id) (hrw : db.rollouts.get row.id = some row)
    (hac : row.state.active) (hpd : a.phase = .pending)
    (hr : db.releases.current = some r) : r.releaseSequence < a.generation := by
  obtain ⟨p, m, hp, hm, hlt⟩ := h.ahead a _ row ha hof hrw hpd
  obtain ⟨r1, hr1, hpr⟩ := h.inStep.previous _ row hrw hac
  obtain rfl : r = r1 := Option.some.inj (hr.symm.trans hr1)
  obtain rfl : p = r.id := Option.some.inj (hp.symm.trans hpr)
  have hsq : m = r.releaseSequence :=
    Option.some.inj (hm.symm.trans (Releases.sequenceOf_current hr))
  omega

theorem advances_of_fallback (hfl : ∀ a, db.assignments.get c = some a → a.phase.served = false)
    (hlt : ∀ r, db.releases.current = some r → r.releaseSequence < a'.generation)
    (ha' : db'.assignments.get c = some a') (hsr : a'.phase.served)
    (hr' : db'.releases.get a'.desiredReleaseID = some r) :
    Advances (db.getClusterDeliverySystemRelease c) (db'.getClusterDeliverySystemRelease c) := by
  rw [answer_fallback hfl, answer_served ha' hsr hr']
  intro s hs
  obtain ⟨r0, hr0, rfl⟩ := Option.map_eq_some_iff.mp hs
  exact ⟨_, rfl, .inl (hlt r0 hr0)⟩

theorem advances_of_served {r'} (ha : db.assignments.get c = some a)
    (hsr : a.phase.served) (hr : db.releases.get a.desiredReleaseID = some r)
    (ha' : db'.assignments.get c = some a') (hsr' : a'.phase.served)
    (hr' : db'.releases.get a'.desiredReleaseID = some r') (hl : a.generation < a'.generation ∨
      a.generation = a'.generation ∧ a.desiredReleaseID = a'.desiredReleaseID) :
    Advances (db.getClusterDeliverySystemRelease c) (db'.getClusterDeliverySystemRelease c) := by
  rw [answer_served ha hsr hr, answer_served ha' hsr' hr']
  intro s hs
  obtain rfl := Option.mem_some_iff.mp hs
  refine ⟨_, rfl, hl.imp_right fun ⟨hsm, hd⟩ => ⟨hsm, ?_⟩⟩
  have hid := Keyed.key_of_get hr
  have hid' := Keyed.key_of_get hr'
  exact hid.trans (hd.trans hid'.symm)

theorem Phase.served_of_sound {phase : Phase} (hfl : phase ≠ .failed)
    (hrl : phase ≠ .rollbackFailed) (hpd : phase ≠ .pending)
    (ha : phase ≠ .aborted) : phase.served := by
  cases phase <;> simp_all [Phase.served]

theorem observedPhase_sound {o : Inventory} {phase : Phase}
    (h : o.compatibility = .incompatible → phase = .pending ∨ phase = .aborted ∨ o.runs r)
    (hfl : phase ≠ .failed) (hrl : phase ≠ .rollbackFailed) :
    observedPhase o r phase ≠ .failed ∧ observedPhase o r phase ≠ .rollbackFailed := by
  unfold observedPhase
  by_cases hi : phase = .pending ∨ phase = .aborted
  · rw [if_pos hi]
    exact ⟨hfl, hrl⟩
  · rw [if_neg hi]
    by_cases hr : o.runs r
    · by_cases hb : phase = .rollingBack ∨ phase = .rolledBack <;> simp [hr, hb]
    · have hc : o.compatibility ≠ .incompatible := by
        intro hin
        rcases h hin with hp | hp | hp
        · exact hi (.inl hp)
        · exact hi (.inr hp)
        · exact hr hp
      by_cases hrd : phase = .rolledBack <;> simp [hr, hc, hrd]

theorem served_observedPhase {o : Inventory} {phase : Phase} (hfl : phase ≠ .failed)
    (hrl : phase ≠ .rollbackFailed)
    (hs : observedPhase o r phase ≠ .failed ∧ observedPhase o r phase ≠ .rollbackFailed) :
    (observedPhase o r phase).served = phase.served := by
  by_cases hi : phase = .pending ∨ phase = .aborted
  · rw [observedPhase, if_pos hi]
  · have hpd : observedPhase o r phase ≠ .pending ∧ observedPhase o r phase ≠ .aborted := by
      unfold observedPhase
      rw [if_neg hi]
      split_ifs <;> simp_all
    rw [Phase.served_of_sound hs.1 hs.2 hpd.1 hpd.2,
      Phase.served_of_sound hfl hrl (fun h => hi (.inl h)) fun h => hi (.inr h)]

inductive Turn (db db' : DB) (e : Event) (a a' : AssignmentRow) : Prop
  | stays (hgeneration : a'.generation = a.generation)
      (hdesired : a'.desiredReleaseID = a.desiredReleaseID) (hof : a'.rolloutID = a.rolloutID)
      (hserved : a'.phase.served = a.phase.served)
      (hsound : a'.phase ≠ .failed ∧ a'.phase ≠ .rollbackFailed)
      (hpending : a'.phase = .pending → a.phase = .pending)
  | ensured (clock : Clock) (id : UUID) (request : StartRequest)
      (hevent : e = .start clock id request)
      (hfresh : db.rollouts.get id = none) (hstarted : (db'.rollouts.get id).isSome)
      (heligible : a.clusterID ∈ db.listSystemRolloutEligibleClusters)
      (h : Ensured request.releaseID id (some a) a')
  | released (row : RolloutRow) (hrow : db.rollouts.get row.id = some row)
      (hactive : row.state.active) (hof : a.rolloutID = some row.id)
      (hpending : a.phase = .pending) (hphase : a'.phase = .released)
      (hgeneration : a'.generation = a.generation)
      (hdesired : a'.desiredReleaseID = a.desiredReleaseID)
  | back (row : RolloutRow) (hrow : db.rollouts.get row.id = some row)
      (hprevious : row.previousReleaseID = some a'.desiredReleaseID)
      (hgeneration : a'.generation = a.generation + 1) (hphase : a'.phase = .rollingBack)
      (hfrom : a.phase.served ∨
        a.phase = .pending ∧ a.rolloutID = some row.id ∧ row.state.active)

theorem RowMoves.turn (hm : RowMoves db db' e a a') (h : db.Serves c) (hok : Paced c db e)
    (ha : db.assignments.get c = some a) : Turn db db' e a a' := by
  obtain ⟨hfl, hrl⟩ := h.sound a ha
  have hsr : ∀ {i}, a.goesBack i → a.phase.served = true := fun hg =>
    Phase.served_of_sound hfl hrl hg.2.1 hg.2.2
  have hac : ∀ {row : RolloutRow}, (row.state = .queued ∨ row.state = .progressing) →
      row.state.active := by
    rintro row (hs | hs) <;> rw [hs] <;> rfl
  cases hm with
  | kept => exact .stays rfl rfl rfl rfl ⟨hfl, hrl⟩ fun hp => hp
  | ensured _ _ hf hsd hel he => exact .ensured _ _ _ rfl hf hsd hel he
  | @observed _ o _ r hr =>
    have hsn := @observedPhase_sound r o a.phase (fun hi =>
      (hok.2 (Keyed.key_of_get ha) hi a ha).imp_right (·.imp_right fun hrn =>
        hrn r hr)) hfl hrl
    exact .stays rfl rfl rfl (served_observedPhase hfl hrl hsn) hsn observedPhase_eq_pending.mp
  | retried _ _ _ hph => exact absurd hph hfl
  | aborted _ _ _ hpd =>
    refine .stays rfl rfl rfl ?_ ⟨nofun, nofun⟩ nofun
    rw [hpd]
    rfl
  | rolledBack hrw _ hpr hg =>
    exact .back _ (Keyed.key_of_get hrw ▸ hrw) hpr rfl rfl (.inl (hsr hg))
  | released hrw hfr ho =>
    exact .released _ (Keyed.key_of_get hrw ▸ hrw) (hac (ho.imp_right (·.1))) hfr.of
      hfr.pending rfl rfl rfl
  | sentBack hrw _ hpr hg => exact .back _ (Keyed.key_of_get hrw ▸ hrw) hpr rfl rfl (.inl (hsr hg))
  | releasedAndSentBack hrw hfr ho hpr =>
    exact .back _ (Keyed.key_of_get hrw ▸ hrw) hpr rfl rfl
      (.inr ⟨hfr.pending, hfr.of, hac (ho.imp_right (·.1))⟩)

theorem Stepped.starts {request} (h : Stepped db e db') (hev : e = .start clock id request)
    (hf : db.rollouts.get id = none) (hsd : (db'.rollouts.get id).isSome) :
    ∃ row' previous deadline planned, db'.rollouts.get id = some row' ∧
      Starts db id request db' row' previous deadline planned := by
  obtain ⟨row', hr'⟩ := Option.isSome_iff_exists.mp hsd
  rcases h.rollouts hr' with ⟨row, hr, -⟩ | ⟨-, _, _, previous, deadline, planned, hsr, hs⟩
  · rw [hf] at hr
    cases hr
  · rw [hev] at hsr
    cases hsr
    exact ⟨row', previous, deadline, planned, hr', hs⟩

section

variable (h : db.Serves c)

include h

theorem DB.Serves.row_cases (hok : Paced c db e) (hsp : Stepped db e db')
    (ha' : db'.assignments.get c = some a') :
    (∃ a, db.assignments.get c = some a ∧ Turn db db' e a a') ∨
      db.assignments.get c = none ∧ ∃ r, db.releases.current = some r ∧
        a'.generation = r.releaseSequence ∧ a'.desiredReleaseID = r.id ∧
        a'.phase = .released ∧ a'.rolloutID = none := by
  rcases hsp.rows ha' with ⟨a, ha, hm⟩ | ⟨hn, hnw⟩
  · exact .inl ⟨a, ha, hm.turn h hok ha⟩
  · cases hnw with
    | @seeded _ _ _ r hc => exact .inr ⟨hn, r, hc, rfl, rfl, rfl, rfl⟩
    | ensured _ hc _ _ hel _ =>
      -- an eligible cluster has an assignment when a rollout starts
      obtain ⟨r, hr, -⟩ := Option.map_eq_some_iff.mp hc
      rw [Keyed.key_of_get ha'] at hel
      obtain ⟨a, ha, -⟩ := hok.2.2 hel r hr
      rw [hn] at ha
      cases ha

theorem DB.Serves.ordered_step (hok : Paced c db e) (hsp : Stepped db e db')
    {i} (hrw' : db'.rollouts.get i = some row') :
    ∃ p m n, row'.previousReleaseID = some p ∧ db'.releases.sequenceOf p = some m ∧
      db'.releases.sequenceOf row'.releaseID = some n ∧ m < n := by
  rcases hsp.rollouts hrw' with ⟨row, hrw, hmv⟩ | ⟨-, _, _, _, _, _, rfl, hs⟩
  · obtain ⟨p, m, n, hp, hm, hn, hlt⟩ := h.ordered i row hrw
    have hc := hmv.continues
    exact ⟨p, m, n, hc.previousReleaseID.trans hp, hsp.keeps p m hm,
      by rw [hc.releaseID]; exact hsp.keeps _ n hn, hlt⟩
  · obtain ⟨r, hr, hid⟩ := Option.map_eq_some_iff.mp hs.current
    obtain ⟨release, hrl, -⟩ := hs.draft
    have hsq := Releases.sequenceOf_of_get hrl
    refine ⟨r.id, r.releaseSequence, release.releaseSequence,
      hs.previousReleaseID.trans (congrArg some hid.symm), ?_, ?_, hok.2.1 r hr _ hsq⟩
    · rw [hs.releases]
      exact Releases.sequenceOf_current hr
    · rw [hs.releases, hs.releaseID]
      exact hsq

theorem DB.Serves.sound_step (hok : Paced c db e) (hsp : Stepped db e db')
    (ha' : db'.assignments.get c = some a') :
    a'.phase ≠ .failed ∧ a'.phase ≠ .rollbackFailed := by
  rcases h.row_cases hok hsp ha' with ⟨a, ha, htr⟩ | ⟨-, r, -, -, -, hph, -⟩
  · cases htr with
    | stays _ _ _ _ hs _ => exact hs
    | ensured _ _ _ _ _ _ _ he => simp [he.pending]
    | released _ _ _ _ _ hph _ _ | back _ _ _ _ hph _ => simp [hph]
  · simp [hph]

theorem DB.Serves.wanted_step (hok : Paced c db e) (hsp : Stepped db e db')
    (ha' : db'.assignments.get c = some a') : (db'.releases.get a'.desiredReleaseID).isSome := by
  refine hsp.release_isSome ?_
  rcases h.row_cases hok hsp ha' with ⟨a, ha, htr⟩ | ⟨-, r, hr, -, hd, -⟩
  · cases htr with
    | stays _ hd | released _ _ _ _ _ _ _ hd => exact hd ▸ h.wanted a ha
    | ensured clock id request hev hf hsd _ he =>
      obtain ⟨_, _, _, _, -, hs⟩ := hsp.starts hev hf hsd
      obtain ⟨release, hrl, -⟩ := hs.draft
      rw [he.desired]
      exact Option.isSome_of_eq_some hrl
    | back row hrw hpr =>
      obtain ⟨p, m, n, hp, hm, -⟩ := h.ordered _ row hrw
      rw [Option.some.inj (hpr.symm.trans hp), ← Releases.sequenceOf_isSome, hm]
      rfl
  · rw [hd, ← Releases.sequenceOf_isSome, Releases.sequenceOf_current hr]
    rfl

theorem DB.Serves.ahead_step (hok : Paced c db e) (hsp : Stepped db e db')
    (ha' : db'.assignments.get c = some a') {i} (hof : a'.rolloutID = some i)
    (hrw' : db'.rollouts.get i = some row') (hpd : a'.phase = .pending) :
    ∃ p m, row'.previousReleaseID = some p ∧ db'.releases.sequenceOf p = some m ∧
      m < a'.generation := by
  rcases h.row_cases hok hsp ha' with ⟨a, ha, htr⟩ | ⟨-, r, -, -, -, hph, -⟩
  · cases htr with
    | stays hg _ hs _ _ hbf =>
      have hof0 : a.rolloutID = some i := hs ▸ hof
      obtain ⟨row, hrw⟩ := Option.isSome_iff_exists.mp (h.inStep.linked c a i ha hof0)
      obtain ⟨p, m, hp, hm, hlt⟩ := h.ahead a i row ha hof0 hrw (hbf hpd)
      exact ⟨p, m, (hsp.continues hrw hrw').previousReleaseID.trans hp, hsp.keeps p m hm, hg ▸ hlt⟩
    | ensured clock id request hev hf hsd hel he =>
      obtain ⟨row1, previous, _, _, hrw1, hst⟩ := hsp.starts hev hf hsd
      obtain rfl : id = i := Option.some.inj (he.of.symm.trans hof)
      obtain rfl : row1 = row' := Option.some.inj (hrw1.symm.trans hrw')
      obtain ⟨r, hr, hid⟩ := Option.map_eq_some_iff.mp hst.current
      refine ⟨r.id, r.releaseSequence, hst.previousReleaseID.trans (congrArg some hid.symm), ?_, ?_⟩
      · rw [hst.releases]
        exact Releases.sequenceOf_current hr
      · subst hev
        rw [Keyed.key_of_get ha] at hel
        obtain ⟨a1, ha1, hc, -⟩ := hok.2.2 hel r hr
        obtain rfl : a = a1 := Option.some.inj (ha.symm.trans ha1)
        exact hc.trans_lt (he.generation a rfl)
    | released _ _ _ _ _ hph _ _ | back _ _ _ _ hph _ =>
      rw [hph] at hpd
      cases hpd
  · rw [hph] at hpd
    cases hpd

theorem DB.Serves.step (hok : Paced c db e) : (SystemRollout.step env db e).Serves c where
  inStep := h.inStep.step hok.1
  ordered _ _ hr' := h.ordered_step hok (step_cases db e) hr'
  sound _ ha' := h.sound_step hok (step_cases db e) ha'
  wanted _ ha' := h.wanted_step hok (step_cases db e) ha'
  ahead _ _ _ ha' hof hr' hpd := h.ahead_step hok (step_cases db e) ha' hof hr' hpd

theorem DB.Serves.advances (hok : Paced c db e) (hsp : Stepped db e db') :
    Advances (db.getClusterDeliverySystemRelease c) (db'.getClusterDeliverySystemRelease c) := by
  have hfl : (∀ a, db.assignments.get c = some a → a.phase.served = false) →
      (∀ a', db'.assignments.get c = some a' → a'.phase.served = false) →
      Advances (db.getClusterDeliverySystemRelease c) (db'.getClusterDeliverySystemRelease c) := by
    intro hbf haf
    rw [answer_fallback hbf, answer_fallback haf]
    exact h.fallback_advances hsp
  cases hgt' : db'.assignments.get c with
  | none =>
    have hn : db.assignments.get c = none := by
      cases hgt : db.assignments.get c with
      | none => rfl
      | some a =>
        have hso := hsp.row_isSome (Option.isSome_of_eq_some hgt)
        rw [hgt'] at hso
        cases hso
    exact hfl (by simp [hn]) (by simp [hgt'])
  | some a' =>
    obtain ⟨r', hr'⟩ := Option.isSome_iff_exists.mp (h.wanted_step hok hsp hgt')
    rcases h.row_cases hok hsp hgt' with
      ⟨a, ha, htr⟩ | ⟨hn, r, hr, hg, hd, hph, -⟩
    · obtain ⟨r, hr⟩ := Option.isSome_iff_exists.mp (h.wanted a ha)
      have hrd : ∀ a1, db.assignments.get c = some a1 → a1 = a := fun a1 ha1 =>
        Option.some.inj (ha1.symm.trans ha)
      have hrd' : ∀ a1, db'.assignments.get c = some a1 → a1 = a' := fun a1 ha1 =>
        Option.some.inj (ha1.symm.trans hgt')
      have hi : ∀ {phase : Phase}, phase = .pending → phase.served = false := by
        rintro phase rfl
        rfl
      cases htr with
      | stays hg hd _ hsm _ _ =>
        by_cases hsr : a.phase.served
        · exact advances_of_served ha hsr hr hgt' (hsm.trans hsr) hr' (.inr ⟨hg.symm, hd.symm⟩)
        · have hsr : a.phase.served = false := by simpa using hsr
          exact hfl (fun a1 ha1 => hrd a1 ha1 ▸ hsr) fun a1 ha1 => hrd' a1 ha1 ▸ hsm.trans hsr
      | ensured clock id request hev hf hsd hel he =>
        have haf : ∀ a1, db'.assignments.get c = some a1 → a1.phase.served = false :=
          fun a1 ha1 => hrd' a1 ha1 ▸ hi he.pending
        by_cases hsr : a.phase.served
        · -- the assignment had caught up: the released release is the same answer
          obtain ⟨_, _, _, _, -, hst⟩ := hsp.starts hev hf hsd
          obtain ⟨current, hc, -⟩ := Option.map_eq_some_iff.mp hst.current
          subst hev
          rw [Keyed.key_of_get ha] at hel
          obtain ⟨a1, ha1, -, hca⟩ := hok.2.2 hel current hc
          obtain rfl := hrd a1 ha1
          obtain ⟨hg, hd⟩ := hca hsr
          rw [answer_served ha hsr hr, answer_fallback haf, hst.releases, hc]
          intro s hs
          obtain rfl := Option.mem_some_iff.mp hs
          exact ⟨_, rfl, .inr ⟨hg, (Keyed.key_of_get hr).trans hd⟩⟩
        · have hsr : a.phase.served = false := by simpa using hsr
          exact hfl (fun a1 ha1 => hrd a1 ha1 ▸ hsr) haf
      | released row hrw hac hof hpd hph hg hd =>
        refine advances_of_fallback (fun a1 ha1 => hrd a1 ha1 ▸ hi hpd)
          (fun r1 hr1 => ?_) hgt' (by rw [hph]; rfl) hr'
        rw [hg]
        exact h.current_lt ha hof hrw hac hpd hr1
      | back row hrw hp hg hph hfr =>
        have hsr' : a'.phase.served := by
          rw [hph]
          rfl
        rcases hfr with hsr | ⟨hpd, hof, hac⟩
        · exact advances_of_served ha hsr hr hgt' hsr' hr' (.inl (by omega))
        · refine advances_of_fallback (fun a1 ha1 => hrd a1 ha1 ▸ hi hpd)
            (fun r1 hr1 => ?_) hgt' hsr' hr'
          have hlt := h.current_lt ha hof hrw hac hpd hr1
          omega
    · rw [answer_fallback (by simp [hn]), hr, answer_served hgt' (by rw [hph]; rfl) hr']
      intro s hs
      obtain rfl := Option.mem_some_iff.mp hs
      exact ⟨_, rfl, .inr ⟨hg.symm, hd.symm.trans (Keyed.key_of_get hr').symm⟩⟩

end

/-- **The generation served to a cluster never goes back**, and one generation names one
release, in every run whose steps are paced. -/
theorem served_never_back (env : Env) (h0 : db.Serves c)
    (hmeets : RunMeets (step env) (Paced c) db (es ++ fs)) {s s' : ServedRelease}
    (hs : (run (step env) db es).getClusterDeliverySystemRelease c = some s)
    (hs' : (run (step env) db (es ++ fs)).getClusterDeliverySystemRelease c = some s') :
    s.assignmentGeneration ≤ s'.assignmentGeneration ∧
      (s.assignmentGeneration = s'.assignmentGeneration → s.release.id = s'.release.id) := by
  obtain ⟨hf, hsc⟩ := runMeets_append.mp hmeets
  have hsr : (run (step env) db es).Serves c :=
    hf.preserves (P := fun db => db.Serves c) (fun _ _ h hok => h.step hok) h0
  have ha : Advances ((run (step env) db es).getClusterDeliverySystemRelease c)
      ((run (step env) db (es ++ fs)).getClusterDeliverySystemRelease c) := by
    rw [run_append]
    generalize run (step env) db es = db at *
    refine (hsc.preserves (P := fun db' => db'.Serves c ∧
      Advances (db.getClusterDeliverySystemRelease c) (db'.getClusterDeliverySystemRelease c))
      ?_ ⟨hsr, .refl _⟩).2
    rintro db' e ⟨h, ha⟩ hok
    exact ⟨h.step hok, ha.trans (h.advances hok (step_cases db' e))⟩
  obtain ⟨s1, hs1, hl⟩ := ha s hs
  obtain rfl : s1 = s' := Option.some.inj (hs1.symm.trans hs')
  rcases hl with hlt | ⟨heq, hid⟩
  · exact ⟨hlt.le, fun heq => absurd heq hlt.ne⟩
  · exact ⟨heq.le, fun _ => hid⟩

namespace Fleet

theorem db_serves (c : UUID) : Fleet.db.Serves c where
  inStep := db_inStep
  ordered _ _ hr := by cases hr
  sound _ ha := by cases ha
  wanted _ ha := by cases ha
  ahead _ _ _ ha := by cases ha

def enrolled : List Event := [runs 11 1 'a', runs 12 1 'a', runs 13 1 'a']

def upgraded : List Event :=
  [start 1 2 strategy, act 1 1 .approve, pass 1, runs 11 2 'b', runs 12 2 'b', runs 13 2 'b',
    pass 1]

def told (db : DB) (c : UUID) : Option (Nat × UUID) :=
  (db.getClusterDeliverySystemRelease c).map fun s => (s.assignmentGeneration, s.release.id)

end Fleet

open Fleet in
theorem upgraded_never_back : ∃ s s',
    (run (step Fleet.env) Fleet.db enrolled).getClusterDeliverySystemRelease 11 = some s ∧
      (run (step Fleet.env) Fleet.db (enrolled ++ upgraded)).getClusterDeliverySystemRelease 11 =
        some s' ∧ s.assignmentGeneration ≤ s'.assignmentGeneration := by
  obtain ⟨s, hs⟩ : ∃ s, (run (step Fleet.env) Fleet.db
      enrolled).getClusterDeliverySystemRelease 11 = some s :=
    Option.isSome_iff_exists.mp (by decide +kernel)
  obtain ⟨s', hs'⟩ : ∃ s', (run (step Fleet.env) Fleet.db
      (enrolled ++ upgraded)).getClusterDeliverySystemRelease 11 = some s' :=
    Option.isSome_iff_exists.mp (by decide +kernel)
  exact ⟨s, s', hs, hs', (served_never_back Fleet.env (db_serves 11) (by decide +kernel) hs hs').1⟩

open Fleet in
/-- **Answers that go back**: a cluster that has never reported is told generation `1` for two
releases, and one whose assignment fails is told generation `1` after generation `2`. -/
theorem answers_go_back : told Fleet.db 11 = some (1, 1) ∧
      told (run (step Fleet.env) Fleet.db (upgraded.take 3)) 11 = some (1, 2) ∧
      told (run (step Fleet.env) Fleet.db (enrolled ++ upgraded.take 3)) 11 = some (2, 2) ∧
      told (run (step Fleet.env) Fleet.db (enrolled ++ upgraded.take 3 ++ [incompatible 11])) 11 =
        some (1, 1) := by
  decide +kernel

end Astronomer.Delivery.SystemRollout
