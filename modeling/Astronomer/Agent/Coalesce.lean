import Mathlib.Data.List.Dedup
import Mathlib.Data.Prod.Lex
import Mathlib.Data.String.Basic
import Astronomer.Agent.Runtime
import Astronomer.Base.Keyed

/-!
# Coalescing status observations

`CoalesceStatuses` keeps the newest observation of each deployment, by time and then by
generation. It compares an observation with the newest one so far, so a conflict between older
ones is an error only if it comes before the newer one.
-/

namespace Astronomer.Agent

open List
open Delivery (Time)

namespace DeploymentStatus

def newer (s current : DeploymentStatus) : Bool :=
  decide (current.observedAt < s.observedAt) ||
    (s.observedAt == current.observedAt && decide (current.generation < s.generation))

def conflicts (s current : DeploymentStatus) : Bool :=
  s.observedAt == current.observedAt && s.generation == current.generation &&
    (s.specDigest != current.specDigest || s.phase != current.phase)

end DeploymentStatus

open DeploymentStatus

def maxDeliveryStatusDeployments : Nat := 10000

abbrev StatusMap := Keyed deploymentID

def StatusMap.empty : StatusMap := ⟨[], nodup_nil⟩

def StatusMap.sorted (latest : StatusMap) : List DeploymentStatus :=
  latest.rows.insertionSort fun a b => a.deploymentID ≤ b.deploymentID

/-- One turn of the loop over the statuses. -/
def addStatus (latest : StatusMap) (s : DeploymentStatus) : Except String StatusMap :=
  match latest.get s.deploymentID with
  | none => .ok (latest.put s)
  | some current =>
    if s.newer current then .ok (latest.put s)
    else if s.conflicts current then
      .error ("conflicting equal-time observations for deployment " ++ s.deploymentID.quote)
    else .ok latest

def coalesceStatuses (statuses : List DeploymentStatus) :
    Except String (List DeploymentStatus) := do
  require (decide (statuses.length ≤ maxDeliveryStatusDeployments * 4))
    "status coalescing input exceeds bounded event window"
  let latest ← statuses.foldlM addStatus .empty
  require (decide (latest.rows.length ≤ maxDeliveryStatusDeployments))
    "coalesced status exceeds protocol deployment limit"
  pure latest.sorted

/-! ## The newest observations -/

variable {s x y : DeploymentStatus} {statuses other seen result : List DeploymentStatus}
  {latest latest' : StatusMap}

def DeploymentStatus.stamp (s : DeploymentStatus) : Int ×ₗ Int :=
  toLex (s.observedAt, s.generation)

def Agrees (x y : DeploymentStatus) : Prop := x.specDigest = y.specDigest ∧ x.phase = y.phase

def Newest (statuses : List DeploymentStatus) (x : DeploymentStatus) : Prop :=
  x ∈ statuses ∧ ∀ y ∈ statuses, y.deploymentID = x.deploymentID → y.stamp ≤ x.stamp

/-- Some deployment's newest observations disagree. -/
def Conflicted (statuses : List DeploymentStatus) : Prop :=
  ∃ x y, Newest statuses x ∧ Newest statuses y ∧ x.deploymentID = y.deploymentID ∧ ¬ Agrees x y

/-- Observations of a deployment at one time and generation agree, also the older ones, and are
the same one if they are the newest. -/
def Settled (statuses : List DeploymentStatus) : Prop :=
  ∀ x ∈ statuses, ∀ y ∈ statuses, x.deploymentID = y.deploymentID → x.stamp = y.stamp →
    Agrees x y ∧ (Newest statuses x → x = y)

structure Coalesced (statuses result : List DeploymentStatus) : Prop where
  sorted : result.Pairwise fun a b => a.deploymentID < b.deploymentID
  covers : ∀ s ∈ statuses, ∃ x ∈ result, x.deploymentID = s.deploymentID
  newest : ∀ x ∈ result, Newest statuses x

theorem newer_iff : s.newer x ↔ x.stamp < s.stamp := by
  simp only [newer, stamp, Prod.Lex.toLex_lt_toLex, Bool.or_eq_true, Bool.and_eq_true,
    decide_eq_true_eq, beq_iff_eq]
  grind

theorem conflicts_iff : s.conflicts x ↔ s.stamp = x.stamp ∧ ¬ Agrees s x := by
  simp [conflicts, stamp, Agrees, imp_iff_not_or]

/-- What the map holds of a deployment after the observations `seen` of it. -/
def Holds (seen : List DeploymentStatus) : Option DeploymentStatus → Prop
  | none => seen = []
  | some x => x ∈ seen ∧ ∀ y ∈ seen, y.stamp < x.stamp ∨ y.stamp = x.stamp ∧ Agrees y x

def Latest (seen : List DeploymentStatus) (latest : StatusMap) : Prop :=
  ∀ k, Holds (seen.filter (·.deploymentID == k)) (latest.get k)

theorem Holds.newer (h : Holds seen (some x)) (hlt : x.stamp < s.stamp) :
    Holds (seen ++ [s]) (some s) := by
  refine ⟨by simp, forall_mem_append.mpr ⟨fun y hy => .inl ?_, by simp [Agrees]⟩⟩
  rcases h.2 y hy with h | h
  · exact h.trans hlt
  · exact h.1 ▸ hlt

theorem Holds.older (h : Holds seen (some x)) (hle : s.stamp ≤ x.stamp)
    (hsame : s.stamp = x.stamp → Agrees s x) : Holds (seen ++ [s]) (some x) := by
  refine ⟨mem_append_left _ h.1, forall_mem_append.mpr ⟨h.2, ?_⟩⟩
  simpa using hle.lt_or_eq.imp_right fun heq => ⟨heq, hsame heq⟩

theorem Latest.add (h : Latest seen latest) (hok : addStatus latest s = .ok latest') :
    Latest (seen ++ [s]) latest' := by
  intro k
  have hk := h k
  have hput : (latest.put s).get k = if s.deploymentID = k then some s else latest.get k :=
    Keyed.get_put
  unfold addStatus at hok
  by_cases hs : s.deploymentID = k
  · subst hs
    rw [if_pos rfl] at hput
    simp only [filter_append, filter_cons, beq_self_eq_true, if_true, filter_nil]
    split at hok
    next hnone =>
      cases hok
      rw [hnone] at hk
      rw [hk, hput]
      simp [Holds, Agrees]
    next x hx =>
      rw [hx] at hk
      split at hok
      next hnew =>
        cases hok
        rw [hput]
        exact hk.newer (newer_iff.mp hnew)
      next hnew =>
        rw [newer_iff, not_lt] at hnew
        split at hok
        · cases hok
        next hsame =>
          cases hok
          rw [conflicts_iff, not_and, not_not] at hsame
          rw [hx]
          exact hk.older hnew hsame
  · rw [if_neg hs] at hput
    have hget : latest'.get k = latest.get k := by grind
    simpa [hget, hs] using hk

theorem latest_of_fold (hok : statuses.foldlM addStatus .empty = .ok latest) :
    Latest statuses latest := by
  induction statuses using reverseRecOn generalizing latest with
  | nil =>
    cases hok
    exact fun _ => rfl
  | append_singleton rest s ih =>
    rw [foldlM_append, bind_eq_ok] at hok
    obtain ⟨mid, hrest, hadd⟩ := hok
    exact (ih hrest).add (by simpa using hadd)

theorem Latest.covers (h : Latest seen latest) (hs : s ∈ seen) :
    ∃ x ∈ latest.rows, x.deploymentID = s.deploymentID := by
  have hk := h s.deploymentID
  cases hx : latest.get s.deploymentID with
  | none =>
    rw [hx] at hk
    exact absurd (beq_self_eq_true _) (filter_eq_nil_iff.mp hk s hs)
  | some x => exact ⟨x, Keyed.mem_of_get hx, Keyed.key_of_get hx⟩

theorem Latest.of_mem (h : Latest seen latest) (hx : x ∈ latest.rows) : Newest seen x ∧
    ∀ y ∈ seen, y.deploymentID = x.deploymentID → y.stamp = x.stamp → Agrees y x := by
  have hk := h x.deploymentID
  rw [Keyed.get_of_mem hx] at hk
  obtain ⟨hmem, hmax⟩ := hk
  have hy : ∀ y ∈ seen, y.deploymentID = x.deploymentID → y.stamp < x.stamp ∨
      y.stamp = x.stamp ∧ Agrees y x :=
    fun y hy hid => hmax y (mem_filter.mpr ⟨hy, by simpa using hid⟩)
  refine ⟨⟨(mem_filter.mp hmem).1, ?_⟩, ?_⟩
  · exact fun y hs hid => (hy y hs hid).elim le_of_lt fun h => h.1.le
  · exact fun y hs hid hst => (hy y hs hid).elim (fun h => absurd hst h.ne) And.right

theorem Latest.not_conflicted (h : Latest seen latest) : ¬ Conflicted seen := by
  rintro ⟨u, v, hu, hv, hid, hne⟩
  obtain ⟨x, hx, hxu⟩ := h.covers hu.1
  obtain ⟨hxn, hxa⟩ := h.of_mem hx
  have hagrees : ∀ w, Newest seen w → w.deploymentID = x.deploymentID → Agrees w x := by
    intro w hw hwx
    exact hxa w hw.1 hwx (le_antisymm (hxn.2 w hw.1 hwx) (hw.2 x hxn.1 hwx.symm))
  obtain ⟨hud, hup⟩ := hagrees u hu hxu.symm
  obtain ⟨hvd, hvp⟩ := hagrees v hv (hid.symm.trans hxu.symm)
  exact hne ⟨hud.trans hvd.symm, hup.trans hvp.symm⟩

theorem fold_of_settled (hs : Settled statuses) (hsub : other ⊆ statuses) :
    ∃ latest, other.foldlM addStatus .empty = .ok latest := by
  induction other using reverseRecOn with
  | nil => exact ⟨_, rfl⟩
  | append_singleton rest s ih =>
    obtain ⟨mid, hrest⟩ := ih fun x hx => hsub (mem_append_left _ hx)
    obtain ⟨latest, hadd⟩ : ∃ latest, addStatus mid s = .ok latest := by
      cases hx : mid.get s.deploymentID with
      | none => simp [addStatus, hx]
      | some x =>
        have hno : ¬ s.conflicts x := by
          rw [conflicts_iff]
          rintro ⟨heq, hne⟩
          have hmem := ((latest_of_fold hrest).of_mem (Keyed.mem_of_get hx)).1.1
          exact hne (hs s (hsub (by simp)) x (hsub (mem_append_left _ hmem))
            (Keyed.key_of_get hx).symm heq).1
        simp only [addStatus, hx, if_neg hno]
        split <;> simp
    exact ⟨latest, by simpa [foldlM_append, hrest] using hadd⟩

theorem Newest.perm (h : Newest other x) (hp : other.Perm statuses) : Newest statuses x :=
  ⟨hp.mem_iff.mp h.1, fun y hy => h.2 y (hp.mem_iff.mpr hy)⟩

/-- Two orders of settled observations leave the same rows. -/
theorem Latest.rows_subset (h : Latest statuses latest) (h' : Latest other latest')
    (hp : other.Perm statuses) (hs : Settled statuses) : latest.rows ⊆ latest'.rows := by
  intro x hx
  have hxn := (h.of_mem hx).1
  obtain ⟨y, hy, hyx⟩ := h'.covers (hp.mem_iff.mpr hxn.1)
  have hyn := (h'.of_mem hy).1.perm hp
  have hst := le_antisymm (hyn.2 x hxn.1 hyx.symm) (hxn.2 y hyn.1 hyx)
  rwa [(hs x hxn.1 y hyn.1 hyx.symm hst).2 hxn]

theorem Settled.perm (hs : Settled statuses) (hp : other.Perm statuses) : Settled other := by
  intro x hx y hy hid hst
  obtain ⟨ha, he⟩ := hs x (hp.mem_iff.mp hx) y (hp.mem_iff.mp hy) hid hst
  exact ⟨ha, fun hn => he (hn.perm hp)⟩

/-! ## The sorted result -/

theorem sorted_rows (latest : StatusMap) :
    latest.sorted.Pairwise fun a b => a.deploymentID < b.deploymentID := by
  have hnd := latest.nodup
  rw [List.Nodup, pairwise_map] at hnd
  have hne := hnd.perm (perm_insertionSort (fun a b => a.deploymentID ≤ b.deploymentID) _).symm
    Ne.symm
  have : Std.Total fun a b : DeploymentStatus => a.deploymentID ≤ b.deploymentID :=
    ⟨fun a b => le_total _ _⟩
  have : IsTrans DeploymentStatus fun a b => a.deploymentID ≤ b.deploymentID :=
    ⟨fun a b c => le_trans⟩
  exact ((pairwise_insertionSort _ latest.rows).and hne).imp fun h => lt_of_le_of_ne h.1 h.2

theorem coalesceStatuses_eq_ok : coalesceStatuses statuses = .ok result ↔
    statuses.length ≤ maxDeliveryStatusDeployments * 4 ∧ ∃ latest,
      statuses.foldlM addStatus .empty = .ok latest ∧
      latest.rows.length ≤ maxDeliveryStatusDeployments ∧
      latest.sorted = result := by
  simp [coalesceStatuses]

theorem coalesced (hok : coalesceStatuses statuses = .ok result) :
    Coalesced statuses result ∧ ¬ Conflicted statuses ∧
      (statuses.map deploymentID).dedup.length ≤ maxDeliveryStatusDeployments := by
  obtain ⟨-, latest, hf, hlen, rfl⟩ := coalesceStatuses_eq_ok.mp hok
  have h := latest_of_fold hf
  refine ⟨⟨sorted_rows latest, ?_, ?_⟩, h.not_conflicted, ?_⟩
  · intro s hs
    simpa [StatusMap.sorted] using h.covers hs
  · intro x hx
    exact (h.of_mem ((mem_insertionSort _).mp hx)).1
  · refine le_trans ?_ hlen
    rw [← length_map deploymentID]
    refine (subperm_of_subset (nodup_dedup _) fun k hk => ?_).length_le
    obtain ⟨s, hs, rfl⟩ := mem_map.mp (mem_dedup.mp hk)
    obtain ⟨x, hx, hid⟩ := h.covers hs
    exact mem_map.mpr ⟨x, hx, hid⟩

/-- Settled observations in two orders: the two maps have the same rows. -/
theorem fold_perm (hs : Settled statuses) (hp : other.Perm statuses) :
    ∃ latest latest', statuses.foldlM addStatus .empty = .ok latest ∧
      other.foldlM addStatus .empty = .ok latest' ∧ Latest statuses latest ∧
      latest'.rows.Perm latest.rows := by
  obtain ⟨latest, hf⟩ := fold_of_settled hs (Subset.refl statuses)
  obtain ⟨latest', hf'⟩ := fold_of_settled hs hp.subset
  have h := latest_of_fold hf
  have h' := latest_of_fold hf'
  refine ⟨latest, latest', hf, hf', h, ?_⟩
  refine (perm_ext_iff_of_nodup (latest'.nodup.of_map _) (latest.nodup.of_map _)).mpr
    fun x => ⟨?_, ?_⟩
  · exact fun hx => h'.rows_subset h hp.symm (hs.perm hp) hx
  · exact fun hx => h.rows_subset h' hp hs hx

theorem coalesceStatuses_perm (hs : Settled statuses) (hp : other.Perm statuses) :
    coalesceStatuses other = coalesceStatuses statuses := by
  obtain ⟨latest, latest', hf, hf', -, hrows⟩ := fold_perm hs hp
  have hsort : latest'.sorted = latest.sorted := by
    refine List.Perm.eq_of_pairwise (fun a b _ _ hab hba => absurd hab hba.asymm)
      (sorted_rows latest') (sorted_rows latest) ?_
    exact (perm_insertionSort _ _).trans (hrows.trans (perm_insertionSort _ _).symm)
  simp only [coalesceStatuses, hf, hf', hp.length_eq]
  cases require (decide (statuses.length ≤ maxDeliveryStatusDeployments * 4))
    "status coalescing input exceeds bounded event window" with
  | error e => rfl
  | ok u =>
    show (do require (decide (latest'.rows.length ≤ _)) _; pure _) = _
    rw [hrows.length_eq, hsort]
    rfl

theorem coalesceStatuses_of_settled (hs : Settled statuses)
    (hinput : statuses.length ≤ maxDeliveryStatusDeployments * 4)
    (hbound : (statuses.map deploymentID).dedup.length ≤ maxDeliveryStatusDeployments) :
    ∃ result, coalesceStatuses statuses = .ok result := by
  obtain ⟨latest, -, hf, -, h, -⟩ := fold_perm hs (List.Perm.refl statuses)
  have hsize : latest.rows.length ≤ (statuses.map deploymentID).dedup.length := by
    rw [← length_map deploymentID]
    refine (subperm_of_subset latest.nodup fun k hk => ?_).length_le
    obtain ⟨x, hx, rfl⟩ := mem_map.mp hk
    exact mem_dedup.mpr (mem_map_of_mem (h.of_mem hx).1.1)
  exact ⟨_, coalesceStatuses_eq_ok.mpr ⟨hinput, latest, hf, hsize.trans hbound, rfl⟩⟩

/-! ## Observations that are not settled -/

/-- Two observations that disagree and come first are an error. -/
theorem conflict_first (hid : x.deploymentID = y.deploymentID) (hst : x.stamp = y.stamp)
    (hne : ¬ Agrees x y) : coalesceStatuses (x :: y :: other) ≠ .ok result := by
  intro hok
  obtain ⟨-, latest, hf, -, -⟩ := coalesceStatuses_eq_ok.mp hok
  rw [show x :: y :: other = [x, y] ++ other from rfl, foldlM_append, bind_eq_ok] at hf
  obtain ⟨mid, hmid, -⟩ := hf
  have h := latest_of_fold hmid
  have hnewest : ∀ s ∈ [x, y], Newest [x, y] s := by
    simp [Newest, hst]
  exact h.not_conflicted ⟨x, y, hnewest x (by simp), hnewest y (by simp), hid, hne⟩

/-- A newest observation that comes first is kept. -/
theorem newest_first (hn : Newest (x :: other) x)
    (hok : coalesceStatuses (x :: other) = .ok result) : x ∈ result := by
  obtain ⟨-, latest, hf, -, rfl⟩ := coalesceStatuses_eq_ok.mp hok
  rw [foldlM_cons, bind_eq_ok] at hf
  obtain ⟨mid, hx, hf⟩ := hf
  cases hx
  have hget : latest.get x.deploymentID = some x := by
    refine foldlM_invariant (P := fun m : StatusMap => m.get x.deploymentID = some x)
      (fun m m' s hs hm hadd => ?_) hf (by simp [Keyed.get_put])
    unfold addStatus at hadd
    by_cases hid : s.deploymentID = x.deploymentID
    · have hnew : ¬ s.newer x := by
        rw [newer_iff, not_lt]
        exact hn.2 s (mem_cons_of_mem _ hs) hid
      rw [hid, hm] at hadd
      simp only [if_neg hnew] at hadd
      split at hadd
      · cases hadd
      · cases hadd
        exact hm
    · have hput : (m.put s).get x.deploymentID = some x := by
        rw [Keyed.get_put, if_neg hid, hm]
      grind
  exact (mem_insertionSort _).mpr (Keyed.mem_of_get hget)

/-- What delivery in another order should do: fail as well or give the same list, which has a
newest observation of each deployment; within the output bound, fail exactly on newest
observations that disagree. -/
structure OrderFree (statuses other : List DeploymentStatus) : Prop where
  same : (∃ e e', coalesceStatuses statuses = .error e ∧ coalesceStatuses other = .error e') ∨
    ∃ result, coalesceStatuses statuses = .ok result ∧ coalesceStatuses other = .ok result ∧
      Coalesced statuses result
  fails : (statuses.map deploymentID).dedup.length ≤ maxDeliveryStatusDeployments →
    ((∃ e, coalesceStatuses other = .error e) ↔ Conflicted statuses)

theorem orderFree_of_settled (hs : Settled statuses) (hperm : other.Perm statuses)
    (hinput : statuses.length ≤ maxDeliveryStatusDeployments * 4) : OrderFree statuses other := by
  refine ⟨?_, fun hbound => ?_⟩ <;> rw [coalesceStatuses_perm hs hperm]
  · cases hres : coalesceStatuses statuses with
    | error e => exact .inl ⟨e, e, rfl, rfl⟩
    | ok result => exact .inr ⟨result, rfl, rfl, (coalesced hres).1⟩
  · obtain ⟨result, hok⟩ := coalesceStatuses_of_settled hs hinput hbound
    simp [hok, (coalesced hok).2]

theorem orderFree_of_fails
    (hfail : ∀ l result, l.Perm statuses → coalesceStatuses l ≠ .ok result)
    (hp : other.Perm statuses)
    (hc : (statuses.map deploymentID).dedup.length ≤ maxDeliveryStatusDeployments →
      Conflicted statuses) : OrderFree statuses other := by
  have herror : ∀ l, l.Perm statuses → ∃ e, coalesceStatuses l = .error e := fun l hl => by
    cases hres : coalesceStatuses l with
    | error e => exact ⟨e, rfl⟩
    | ok result => exact absurd hres (hfail l result hl)
  obtain ⟨e, he⟩ := herror statuses (.refl _)
  obtain ⟨e', he'⟩ := herror other hp
  exact ⟨.inl ⟨e, e', he, he'⟩, fun hbound => iff_of_true ⟨e', he'⟩ (hc hbound)⟩

theorem Conflicted.perm (hc : Conflicted statuses) (hp : other.Perm statuses) :
    Conflicted other := by
  obtain ⟨x, y, hx, hy, hxy⟩ := hc
  exact ⟨x, y, hx.perm hp.symm, hy.perm hp.symm, hxy⟩

/-- **Coalescing does not depend on the order of delivery** exactly if all observations of a
deployment at one time and generation agree and the newest of them are one and the same, or
some newest ones disagree, or there are too many deployments in every order. -/
theorem coalesceStatuses_orderFree (statuses : List DeploymentStatus)
    (hinput : statuses.length ≤ maxDeliveryStatusDeployments * 4) :
    (∀ other, other.Perm statuses → OrderFree statuses other) ↔
      Settled statuses ∨ Conflicted statuses ∨
        maxDeliveryStatusDeployments < (statuses.map deploymentID).dedup.length := by
  constructor
  · intro h
    by_contra hno
    obtain ⟨hns, hnc, hbound⟩ : ¬ Settled statuses ∧ ¬ Conflicted statuses ∧
        (statuses.map deploymentID).dedup.length ≤ maxDeliveryStatusDeployments := by
      simpa only [not_or, not_lt] using hno
    -- every order gives the same list
    obtain ⟨result, hres⟩ : ∃ result, ∀ other, other.Perm statuses →
        coalesceStatuses other = .ok result := by
      cases hres : coalesceStatuses statuses with
      | error e => exact absurd ((h statuses (.refl _)).fails hbound |>.mp ⟨e, hres⟩) hnc
      | ok result =>
        refine ⟨result, fun other hp => ?_⟩
        rcases (h other hp).same with ⟨e, -, he, -⟩ | ⟨r, hr, hr', -⟩
        · cases hres.symm.trans he
        · cases hres.symm.trans hr
          exact hr'
    refine hns fun x hx y hy hid hst => ?_
    by_cases hxy : x = y
    · exact ⟨hxy ▸ ⟨rfl, rfl⟩, fun _ => hxy⟩
    have hy' : y ∈ statuses.erase x := (mem_erase_of_ne (Ne.symm hxy)).mpr hy
    have hperm : (x :: y :: (statuses.erase x).erase y).Perm statuses :=
      ((perm_cons_erase hy').symm.cons x).trans (perm_cons_erase hx).symm
    refine ⟨by_contra fun hna => conflict_first hid hst hna (hres _ hperm), fun hn => ?_⟩
    have hny : Newest statuses y :=
      ⟨hy, fun z hz hzy => hst ▸ hn.2 z hz (hzy.trans hid.symm)⟩
    have hmem : ∀ z, Newest statuses z → z ∈ result := fun z hz =>
      newest_first (hz.perm (perm_cons_erase hz.1)) (hres _ (perm_cons_erase hz.1).symm)
    have hnd : (result.map deploymentID).Nodup :=
      pairwise_map.mpr ((coalesced (hres _ (.refl _))).1.sorted.imp fun hlt => hlt.ne)
    exact inj_on_of_nodup_map hnd (hmem x hn) (hmem y hny) hid
  · rintro (hs | hc | hlim) other hp
    · exact orderFree_of_settled hs hp hinput
    · exact orderFree_of_fails (fun l result hl hok => (coalesced hok).2.1 (hc.perm hl)) hp
        fun _ => hc
    · refine orderFree_of_fails (fun l result hl hok => ?_) hp
        fun hbound => absurd hlim (not_lt.mpr hbound)
      have hbound := (coalesced hok).2.2
      rw [(hl.map deploymentID).dedup.length_eq] at hbound
      exact absurd hlim (not_lt.mpr hbound)

/-! ## An older conflict -/

namespace Coalesce

def seenAt (observedAt : Time) (phase : String) : DeploymentStatus :=
  { deploymentID := "d", generation := 1, specDigest := "sha256", phase, observedAt }

end Coalesce

open Coalesce

theorem settled_orderFree : coalesceStatuses [seenAt 2 "ready", seenAt 1 "pending"] =
    coalesceStatuses [seenAt 1 "pending", seenAt 2 "ready"] := by
  have hs : Settled [seenAt 1 "pending", seenAt 2 "ready"] := by
    intro x hx y hy hid hst
    simp at hx hy
    rcases hx with rfl | rfl <;> rcases hy with rfl | rfl <;> simp_all [seenAt, stamp, Agrees]
  have hok : coalesceStatuses [seenAt 1 "pending", seenAt 2 "ready"] = .ok [seenAt 2 "ready"] := by
    decide
  rcases ((coalesceStatuses_orderFree _ (by decide)).mpr (.inl hs) _ (List.Perm.swap _ _ _)).same
    with ⟨e, -, he, -⟩ | ⟨result, hr, hr', -⟩
  · rw [hok] at he
    cases he
  · rw [hr, hr']

/-- The two observations of time 1 disagree, which is an error unless the newer one came first. -/
theorem older_conflict_depends_on_order :
    coalesceStatuses [seenAt 1 "pending", seenAt 1 "failed", seenAt 2 "ready"] =
      .error ("conflicting equal-time observations for deployment " ++ "d".quote) ∧
    coalesceStatuses [seenAt 2 "ready", seenAt 1 "pending", seenAt 1 "failed"] =
      .ok [seenAt 2 "ready"] :=
  ⟨rfl, by decide⟩

end Astronomer.Agent
