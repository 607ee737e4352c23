import Astronomer.Base.Table
import Astronomer.Delivery.Selection

/-!
# What a placement says about other projects

Candidates of projects outside `AllowedProjectIDs` pass through `Evaluate` with the rest, and
leaving them out gives the same result. The step that carries it is `addCandidate`:
projections of one cluster must agree on the project.
-/

namespace Astronomer.Delivery.Selection

open List

section

variable {lib : Library} {input cs byID byID' : List Candidate} {raw c left right : Candidate}

instance : IsTrans Candidate byIdentity := ⟨fun _ _ _ => Nat.le_trans⟩

instance : Std.Total byIdentity := ⟨fun _ _ => Nat.le_total _ _⟩

/-! ## Canonical candidates -/

theorem canonicalCandidate_keeps (h : canonicalCandidate lib raw = .ok c) :
    c.id = raw.id ∧ c.projectID = raw.projectID := by
  simp only [canonicalCandidate, bind_eq_ok, pure_eq_ok] at h
  obtain ⟨_, -, _, -, _, -, _, -, _, -, _, -, _, -, _, -, rfl⟩ := h
  exact ⟨rfl, rfl⟩

theorem mergeCandidates_keeps (h : mergeCandidates left right = .ok c) :
    c.id = left.id ∧ c.projectID = left.projectID ∧ right.projectID = left.projectID := by
  simp only [mergeCandidates, bind_eq_ok, pure_eq_ok, require_eq_ok, beq_iff_eq] at h
  obtain ⟨_, hs, _, -, rfl⟩ := h
  exact ⟨rfl, rfl, (congrArg Candidate.projectID hs).symm⟩

/-- What one projection does to the map: it joins an entry of the same cluster and project,
or is a new entry. -/
inductive Added (lib : Library) (byID : List Candidate) (c : Candidate) : List Candidate → Prop
  | merged {existing merged : Candidate} (hfind : byID.find? (·.id == c.id) = some existing)
      (hmerge : mergeCandidates existing c = .ok merged) :
      Added lib byID c (byID.map fun e => if e.id = c.id then merged else e)
  | new (hfind : byID.find? (·.id == c.id) = none) : Added lib byID c (byID ++ [c])

theorem addCandidate_eq_ok (h : addCandidate lib byID raw = .ok byID') :
    ∃ c, canonicalCandidate lib raw = .ok c ∧ Added lib byID c byID' := by
  simp only [addCandidate, bind_eq_ok, mapError_eq_ok] at h
  obtain ⟨c, hc, h⟩ := h
  refine ⟨c, hc, ?_⟩
  split at h
  next existing hf =>
    simp only [bind_eq_ok, mapError_eq_ok, pure_eq_ok] at h
    obtain ⟨merged, hm, rfl⟩ := h
    exact .merged hf hm
  next hf =>
    simp only [pure_eq_ok] at h
    subst h
    exact .new hf

def Candidate.key (c : Candidate) : UUID × UUID := (c.id, c.projectID)

theorem canonicalCandidate_key (h : canonicalCandidate lib raw = .ok c) : c.key = raw.key :=
  Prod.ext (canonicalCandidate_keeps h).1 (canonicalCandidate_keeps h).2

theorem eq_of_find?_of_nodup {existing id} {e : Candidate} (hnd : (byID.map Candidate.id).Nodup)
    (hf : byID.find? (·.id == id) = some existing) (he : e ∈ byID) (hid : e.id = id) :
    e = existing := by
  have hex := find?_some hf
  exact inj_on_of_nodup_map hnd he (mem_of_find?_eq_some hf)
    (hid.trans (beq_iff_eq.mp hex).symm)

theorem Added.keys (h : Added lib byID c byID') (hnd : (byID.map Candidate.id).Nodup) :
    (byID'.map Candidate.key = byID.map Candidate.key ∧ c.key ∈ byID.map Candidate.key) ∨
      (c.id ∉ byID.map Candidate.id ∧
        byID'.map Candidate.key = byID.map Candidate.key ++ [c.key]) := by
  cases h with
  | @merged existing merged hf hm =>
    obtain ⟨hid, hpj, hs⟩ := mergeCandidates_keeps hm
    have hex : existing.id = c.id := by simpa using find?_some hf
    refine .inl ⟨?_, mem_map.mpr ⟨existing, mem_of_find?_eq_some hf, ?_⟩⟩
    · rw [map_map]
      refine map_congr_left fun e he => ?_
      rw [Function.comp_apply]
      split
      next hed =>
        rw [eq_of_find?_of_nodup hnd hf he hed]
        exact Prod.ext hid hpj
      · rfl
    · exact Prod.ext hex hs.symm
  | new hf => grind

theorem map_fst_key {xs : List Candidate} :
    (xs.map Candidate.key).map Prod.fst = xs.map Candidate.id := by
  rw [map_map]
  rfl

theorem nodup_ids_nil : (([] : List Candidate).map Candidate.id).Nodup := nodup_nil

theorem Added.nodup (h : Added lib byID c byID') (hnd : (byID.map Candidate.id).Nodup) :
    (byID'.map Candidate.id).Nodup := by
  rw [← map_fst_key]
  rcases h.keys hnd with ⟨hky, -⟩ | ⟨hn, hky⟩
  · rwa [hky, map_fst_key]
  · have hi := nodup_map_insert hnd hn
    rw [map_append] at hi
    rw [hky, map_append, map_fst_key]
    exact hi

theorem mem_keys_foldlM_addCandidate {key} (hnd : (byID.map Candidate.id).Nodup)
    (h : input.foldlM (addCandidate lib) byID = .ok byID') :
    key ∈ byID'.map Candidate.key ↔
      key ∈ byID.map Candidate.key ∨ key ∈ input.map Candidate.key := by
  induction input generalizing byID with
  | nil =>
    rw [foldlM_nil, pure_eq_ok] at h
    simp [h]
  | cons raw input ih =>
    rw [foldlM_cons, bind_eq_ok] at h
    obtain ⟨byID1, hr, hrest⟩ := h
    obtain ⟨c, hc, ha⟩ := addCandidate_eq_ok hr
    have hk := canonicalCandidate_key hc
    rw [ih (ha.nodup hnd) hrest, map_cons, mem_cons, ← hk, ← or_assoc]
    refine or_congr_left ?_
    rcases ha.keys hnd with ⟨hky, hmem⟩ | ⟨-, hky⟩
    · rw [hky]
      exact ⟨.inl, fun h => h.elim id fun h => h ▸ hmem⟩
    · rw [hky, mem_append, mem_singleton]

section

variable (p : UUID → Bool)

section

variable (hnd : (byID.map Candidate.id).Nodup)

include hnd

theorem find?_filter_of_nodup {id} {e : Candidate}
    (hf : byID.find? (·.id == id) = some e) (he : p e.projectID) :
    (byID.filter fun c => p c.projectID).find? (·.id == id) = some e := by
  have hs := (filter_sublist (l := byID) (p := fun c => p c.projectID)).map Candidate.id
  have hid := find?_some hf
  refine find?_of_nodup_map (hnd.sublist hs) ?_ hid ?_
  · exact mem_filter.mpr ⟨mem_of_find?_eq_some hf, he⟩
  · intro c hc
    rw [beq_iff_eq.mp hid, beq_iff_eq.mp hc]

theorem addCandidate_filter (h : addCandidate lib byID raw = .ok byID') :
    (if p raw.projectID then addCandidate lib (byID.filter fun c => p c.projectID) raw
      else .ok (byID.filter fun c => p c.projectID)) =
      .ok (byID'.filter fun c => p c.projectID) := by
  obtain ⟨c, hc, ha⟩ := addCandidate_eq_ok h
  have hpj := (canonicalCandidate_keeps hc).2
  cases ha with
  | @merged existing merged hf hm =>
    obtain ⟨-, hmr, hs⟩ := mergeCandidates_keeps hm
    -- the entry that is replaced and the merged one are of the same project
    have hfl : (byID.map fun e => if e.id = c.id then merged else e).filter
          (fun c => p c.projectID) =
        (byID.filter fun c => p c.projectID).map fun e => if e.id = c.id then merged else e := by
      rw [filter_map]
      refine congrArg _ (filter_congr fun e he => ?_)
      rw [Function.comp_apply]
      split
      next hed => rw [eq_of_find?_of_nodup hnd hf he hed, hmr]
      · rfl
    rw [hfl, ← hpj, hs]
    by_cases hp : p existing.projectID
    · rw [if_pos hp, addCandidate, hc]
      have hf' := find?_filter_of_nodup p hnd hf hp
      simp [Except.mapError, bind, Except.bind, pure, Except.pure, hf', hm]
    · rw [if_neg hp]
      have hst : ∀ e ∈ byID.filter fun c => p c.projectID,
          (if e.id = c.id then merged else e) = e := by
        intro e he
        obtain ⟨he, hpe⟩ := mem_filter.mp he
        exact if_neg fun hed => hp (eq_of_find?_of_nodup hnd hf he hed ▸ hpe)
      rw [map_congr_left hst, map_id']
  | new hf =>
    have hn : (byID.filter fun c => p c.projectID).find? (·.id == c.id) = none := by
      refine find?_eq_none.mpr fun e he => ?_
      exact find?_eq_none.mp hf e (mem_of_mem_filter he)
    rw [filter_append, ← hpj]
    by_cases hp : p c.projectID
    · rw [if_pos hp, addCandidate, hc]
      simp [Except.mapError, bind, Except.bind, pure, Except.pure, hn, hp]
    · rw [if_neg hp]
      simp [hp]

theorem foldlM_addCandidate_filter (h : input.foldlM (addCandidate lib) byID = .ok byID') :
    (input.filter fun c => p c.projectID).foldlM (addCandidate lib)
      (byID.filter fun c => p c.projectID) = .ok (byID'.filter fun c => p c.projectID) := by
  induction input generalizing byID with
  | nil =>
    rw [foldlM_nil, pure_eq_ok] at h
    rw [h]
    rfl
  | cons raw input ih =>
    rw [foldlM_cons, bind_eq_ok] at h
    obtain ⟨byID1, hr, hrest⟩ := h
    have hf := addCandidate_filter p hnd hr
    obtain ⟨c, -, ha⟩ := addCandidate_eq_ok hr
    have ht := ih (ha.nodup hnd) hrest
    rw [filter_cons]
    by_cases hp : p raw.projectID
    · rw [if_pos hp] at hf ⊢
      rw [foldlM_cons, hf]
      exact ht
    · rw [if_neg hp] at hf ⊢
      rw [Except.ok.inj hf]
      exact ht

end

theorem canonicalCandidates_filter (h : canonicalCandidates lib input = .ok cs) :
    canonicalCandidates lib (input.filter fun c => p c.projectID) =
      .ok (cs.filter fun c => p c.projectID) := by
  simp only [canonicalCandidates, bind_eq_ok, pure_eq_ok] at h ⊢
  obtain ⟨byID, hf, rfl⟩ := h
  refine ⟨_, ?_, (filter_insertionSort byIdentity _ byID).symm⟩
  rw [← filter_insertionSort byIdentity]
  exact foldlM_addCandidate_filter p nodup_ids_nil hf

end

theorem canonicalCandidates_sorted (h : canonicalCandidates lib input = .ok cs) :
    cs.Pairwise fun a b => a.id < b.id := by
  simp only [canonicalCandidates, bind_eq_ok, pure_eq_ok] at h
  obtain ⟨byID, hf, rfl⟩ := h
  have hnd : (byID.map Candidate.id).Nodup := by
    refine foldlM_invariant (P := fun byID => (byID.map Candidate.id).Nodup) ?_ hf nodup_ids_nil
    intro _ _ _ _ hn ha
    obtain ⟨_, -, had⟩ := addCandidate_eq_ok ha
    exact had.nodup hn
  have hne : (byID.insertionSort byIdentity).Pairwise fun a b => a.id ≠ b.id :=
    pairwise_map.mp (((perm_insertionSort byIdentity byID).map _).nodup_iff.mpr hnd)
  exact ((pairwise_insertionSort byIdentity byID).and hne).imp fun h =>
    Nat.lt_of_le_of_ne h.1 h.2

theorem canonicalCandidates_keys {key} (h : canonicalCandidates lib input = .ok cs) :
    key ∈ cs.map Candidate.key ↔ key ∈ input.map Candidate.key := by
  simp only [canonicalCandidates, bind_eq_ok, pure_eq_ok] at h
  obtain ⟨byID, hf, rfl⟩ := h
  have hky : key ∈ byID.map Candidate.key ↔ _ := mem_keys_foldlM_addCandidate nodup_ids_nil hf
  rw [((perm_insertionSort byIdentity byID).map _).mem_iff, hky,
    ((perm_insertionSort byIdentity input).map _).mem_iff]
  simp

/-! ## The decisions -/

variable {k : Criteria} {d : Decision} {id : UUID}

@[simp] theorem disposition_clusterID {selector capabilities} :
    (disposition lib selector capabilities c).clusterID = c.id := by
  unfold disposition
  dsimp only
  split
  · rfl
  · split
    · rfl
    · split
      · rfl
      · split
        · rfl
        · split
          · rfl
          · split <;> rfl

namespace Criteria

theorem clusterID_decisionFor (h : k.decisionFor lib c = some d) : d.clusterID = c.id := by
  unfold decisionFor at h
  split at h
  · cases h
    exact disposition_clusterID
  · split at h
    · cases h
      rfl
    · cases h

theorem mem_decisions (hcs : cs.Pairwise fun a b => a.id < b.id) : d ∈ k.decisions lib cs ↔
      (∃ c ∈ cs, k.authorized c ∧ disposition lib k.placement k.capabilities c = d) ∨
        ∃ id ∈ k.placement.clusterIDs, (∀ c ∈ cs, k.authorized c → c.id ≠ id) ∧
          .unauthorized id = d := by
  have hu : ∀ a ∈ cs, ∀ b ∈ cs, a.id = b.id → a = b := fun a ha b hb => inj_on_of_nodup_map
      (pairwise_map.mpr (hcs.imp fun h => Nat.ne_of_lt h)) ha hb
  simp only [decisions, mem_insertionSort, mem_append, mem_filterMap, mem_map,
    mem_filter]
  constructor
  · rintro (⟨c, hc, hd⟩ | ⟨id, ⟨hid, hab⟩, rfl⟩)
    · unfold decisionFor at hd
      split at hd
      next hat => exact .inl ⟨c, hc, hat, Option.some.inj hd⟩
      next hat =>
        split at hd
        next he =>
          refine .inr ⟨c.id, contains_iff_mem.mp he, ?_, Option.some.inj hd⟩
          intro c' hc' hat' hid
          exact hat (hu c' hc' c hc hid ▸ hat')
        · cases hd
    · refine .inr ⟨id, hid, fun c hc _ hcd => ?_, rfl⟩
      simp only [Bool.not_eq_true', any_eq_false, beq_iff_eq] at hab
      exact hab c hc hcd
  · rintro (⟨c, hc, hat, rfl⟩ | ⟨id, hid, hnot, rfl⟩)
    · exact .inl ⟨c, hc, if_pos hat⟩
    · by_cases hab : cs.any (·.id == id)
      · obtain ⟨c, hc, hcd⟩ := any_eq_true.mp hab
        obtain rfl : c.id = id := beq_iff_eq.mp hcd
        refine .inl ⟨c, hc, ?_⟩
        unfold decisionFor
        rw [if_neg fun hat => hnot c hc hat rfl, if_pos (contains_iff_mem.mpr hid)]
      · exact .inr ⟨id, ⟨hid, by simpa using hab⟩, rfl⟩

theorem decisions_sorted (hcs : cs.Pairwise fun a b => a.id < b.id)
    (hp : k.placement.clusterIDs.Nodup) :
    (k.decisions lib cs).Pairwise fun a b => a.clusterID < b.clusterID := by
  -- one decision for each candidate, and one for each named cluster that is no candidate
  have hcd : ((cs.filterMap (k.decisionFor lib)).map Decision.clusterID).Nodup := by
    refine pairwise_map.mpr (pairwise_filterMap.mpr (hcs.imp ?_))
    intro a b hab d hd d' hd'
    rw [clusterID_decisionFor hd, clusterID_decisionFor hd']
    exact Nat.ne_of_lt hab
  have habs : (((k.placement.clusterIDs.filter fun id => !cs.any (·.id == id)).map
      Decision.unauthorized).map Decision.clusterID).Nodup := by
    rw [map_map]
    exact (hp.filter _).map fun _ _ h => h
  have hnd : ((cs.filterMap (k.decisionFor lib) ++
      (k.placement.clusterIDs.filter fun id => !cs.any (·.id == id)).map
        Decision.unauthorized).map Decision.clusterID).Nodup := by
    rw [map_append, nodup_append]
    refine ⟨hcd, habs, ?_⟩
    rintro a ha b hb rfl
    simp only [mem_map, mem_filterMap, mem_filter] at ha hb
    obtain ⟨d, ⟨c, hc, hd⟩, rfl⟩ := ha
    obtain ⟨_, ⟨id, ⟨-, hid⟩, rfl⟩, heq⟩ := hb
    simp only [Bool.not_eq_true', any_eq_false, beq_iff_eq] at hid
    exact hid c hc ((clusterID_decisionFor hd).symm.trans heq.symm)
  have hne := pairwise_map.mp
    (((perm_insertionSort (fun a b => a.clusterID ≤ b.clusterID) _).map _).nodup_iff.mpr hnd)
  have hle := pairwise_insertionSort (fun a b : Decision => a.clusterID ≤ b.clusterID)
    (cs.filterMap (k.decisionFor lib) ++
      (k.placement.clusterIDs.filter fun id => !cs.any (·.id == id)).map Decision.unauthorized)
  exact (hle.and hne).imp fun h => Nat.lt_of_le_of_ne h.1 h.2

theorem decisions_authorized (hcs : cs.Pairwise fun a b => a.id < b.id)
    (hp : k.placement.clusterIDs.Nodup) :
    k.decisions lib (cs.filter k.authorized) = k.decisions lib cs := by
  have hcs' : (cs.filter k.authorized).Pairwise fun a b => a.id < b.id := hcs.filter _
  have hi : Std.Irrefl fun a b : Decision => a.clusterID < b.clusterID := ⟨fun _ => Nat.lt_irrefl _⟩
  have ha : Std.Antisymm fun a b : Decision => a.clusterID < b.clusterID :=
    ⟨fun _ _ h h' => absurd h' (Nat.lt_asymm h)⟩
  refine (decisions_sorted hcs' hp).eq_of_mem_iff (decisions_sorted hcs hp) ?_
  intro d
  rw [mem_decisions hcs', mem_decisions hcs]
  refine or_congr (exists_congr fun c => ?_) (exists_congr fun id => and_congr_right fun _ =>
    and_congr_left fun _ => forall_congr' fun c => ?_)
  · rw [mem_filter]
    tauto
  · rw [mem_filter]
    tauto

theorem selected_authorized : k.selected lib (cs.filter k.authorized) = k.selected lib cs := by
  rw [selected, selected, filter_filter]
  refine filter_congr fun c _ => ?_
  cases k.authorized c <;> simp

end Criteria

/-! ## The result -/

variable {request : Request} {result : Result}

def Request.authorized (request : Request) : List Candidate :=
  request.candidates.filter fun c => request.allowedProjectIDs.contains c.projectID

theorem criteria_eq_ok (h : request.criteria lib = .ok k) :
    k.allowedProjects = request.allowedProjectIDs ∧ k.placement.clusterIDs.Nodup ∧
      ∀ id, id ∈ k.placement.clusterIDs ↔ id ∈ request.placement.clusterIDs := by
  simp only [Request.criteria, bind_eq_ok, mapError_eq_ok, pure_eq_ok] at h
  obtain ⟨placement, hp, _, -, _, -, allowed, ha, rfl⟩ := h
  simp only [canonicalPlacement, bind_eq_ok, pure_eq_ok, require_eq_ok, List.isEmpty_iff] at hp
  obtain ⟨_, hv, rfl⟩ := hp
  simp only [Placement.validate, append_eq_nil_iff, and_assoc] at hv
  simp only [canonicalUUIDSet, bind_eq_ok, pure_eq_ok] at ha
  obtain ⟨_, -, _, -, rfl⟩ := ha
  refine ⟨rfl, ?_, fun id => mem_insertionSort _⟩
  exact (perm_insertionSort _ _).nodup_iff.mpr (nodup_of_validateUUIDSet hv.2.1)

theorem evaluate_authorized (h : evaluate lib request = .ok result) :
    evaluate lib { request with candidates := request.authorized } = .ok result := by
  simp only [evaluate, bind_eq_ok, mapError_eq_ok, pure_eq_ok] at h ⊢
  obtain ⟨k, hk, cs, hcs, digest, hdg, rfl⟩ := h
  obtain ⟨ha, hnd, -⟩ := criteria_eq_ok hk
  have hs := canonicalCandidates_sorted hcs
  have hf : canonicalCandidates lib request.authorized = .ok (cs.filter k.authorized) := by
    unfold Request.authorized Criteria.authorized
    rw [ha]
    exact canonicalCandidates_filter request.allowedProjectIDs.contains hcs
  refine ⟨k, hk, _, hf, digest, ?_, ?_⟩
  · rw [k.decisions_authorized hs hnd]
    exact hdg
  · rw [k.decisions_authorized hs hnd, k.selected_authorized]

theorem decisions_unauthorized (h : evaluate lib request = .ok result)
    (hid : id ∈ request.placement.clusterIDs)
    (hn : ∀ c ∈ request.authorized, c.id ≠ id) :
    result.decisions.filter (·.clusterID == id) = [.unauthorized id] := by
  simp only [evaluate, bind_eq_ok, mapError_eq_ok, pure_eq_ok] at h
  obtain ⟨k, hk, cs, hcs, _, -, rfl⟩ := h
  obtain ⟨ha, hnd, hnm⟩ := criteria_eq_ok hk
  have hs := canonicalCandidates_sorted hcs
  have hn' : ∀ c ∈ cs, k.authorized c → c.id ≠ id := by
    intro c hc hat hcd
    obtain ⟨raw, hr, hky⟩ := mem_map.mp
      ((canonicalCandidates_keys hcs).mp (mem_map_of_mem hc))
    obtain ⟨hrw, hpj⟩ := Prod.mk.inj hky
    rw [Criteria.authorized, ha, ← hpj] at hat
    exact hn raw (mem_filter.mpr ⟨hr, hat⟩) (hrw.trans hcd)
  have hmem : ∀ d, d ∈ (k.decisions lib cs).filter (·.clusterID == id) ↔ d = .unauthorized id := by
    intro d
    rw [mem_filter, k.mem_decisions hs, beq_iff_eq]
    constructor
    · rintro ⟨⟨c, hc, hat, rfl⟩ | ⟨id', -, -, rfl⟩, hd⟩
      · exact absurd (disposition_clusterID.symm.trans hd) (hn' c hc hat)
      · exact congrArg _ hd
    · rintro rfl
      exact ⟨.inr ⟨id, (hnm id).mpr hid, hn', rfl⟩, rfl⟩
  have ho : ((k.decisions lib cs).filter (·.clusterID == id)).Nodup :=
    ((k.decisions_sorted hs hnd).filter _).imp fun h heq =>
      Nat.ne_of_lt h (congrArg _ heq)
  exact (perm_singleton.mp ((perm_ext_iff_of_nodup ho (nodup_singleton _)).mpr
    fun d => (hmem d).trans mem_singleton.symm))

theorem project_unique {a b : Candidate} (h : evaluate lib request = .ok result)
    (ha : a ∈ request.candidates) (hb : b ∈ request.candidates) (hid : a.id = b.id) :
    a.projectID = b.projectID := by
  simp only [evaluate, bind_eq_ok, mapError_eq_ok, pure_eq_ok] at h
  obtain ⟨_, -, cs, hcs, -⟩ := h
  have hnd : (cs.map Candidate.id).Nodup :=
    pairwise_map.mpr ((canonicalCandidates_sorted hcs).imp fun h => Nat.ne_of_lt h)
  obtain ⟨a', ha', hak⟩ :=
    mem_map.mp ((canonicalCandidates_keys hcs).mpr (mem_map_of_mem ha))
  obtain ⟨b', hb', hbk⟩ :=
    mem_map.mp ((canonicalCandidates_keys hcs).mpr (mem_map_of_mem hb))
  obtain ⟨had, hap⟩ := Prod.mk.inj hak
  obtain ⟨hbd, hbp⟩ := Prod.mk.inj hbk
  obtain rfl : a' = b' := inj_on_of_nodup_map hnd ha' hb' ((had.trans hid).trans hbd.symm)
  exact hap.symm.trans hbp

/-- **Concealment.** Two requests that differ only in candidates of projects that are not
allowed get the same result when both succeed; and a named cluster gets the same single
decision whether it is a candidate of such a project or no candidate at all. -/
theorem evaluate_conceals (lib : Library) (request1 request2 : Request) (result1 result2 : Result)
    (hrest : { request1 with candidates := [] } = { request2 with candidates := [] })
    (hat : request1.authorized = request2.authorized)
    (h1 : evaluate lib request1 = .ok result1) (h2 : evaluate lib request2 = .ok result2) :
    result1 = result2 ∧ ∀ id ∈ request1.placement.clusterIDs,
        ((∃ c ∈ request1.candidates, c.id = id ∧ c.projectID ∉ request1.allowedProjectIDs) ∨
          ∀ c ∈ request1.candidates, c.id ≠ id) →
        result1.decisions.filter (·.clusterID == id) = [.unauthorized id] := by
  have hs : { request1 with candidates := request1.authorized } =
      { request2 with candidates := request2.authorized } := by
    rw [hat]
    exact congrArg ({ · with candidates := request2.authorized }) hrest
  refine ⟨?_, fun id hid hcl => decisions_unauthorized h1 hid fun c hc hcd => ?_⟩
  · have := (evaluate_authorized h1).symm.trans
      ((congrArg (evaluate lib) hs).trans (evaluate_authorized h2))
    exact Except.ok.inj this
  · obtain ⟨hc, ha⟩ := mem_filter.mp hc
    rcases hcl with ⟨c', hc', hcd', hpj⟩ | hab
    · have hu := project_unique h1 hc hc' (hcd.trans hcd'.symm)
      exact hpj (hu ▸ contains_iff_mem.mp ha)
    · exact hab c hc hcd

end

/-! ## A named cluster of another project -/

namespace Stranger

def library : Library where
  env :=
    { strategyDigest := fun _ => "", approvalDigest := fun _ => "", planDigest := fun _ => ""
      releaseDigest := fun _ => "", decisionDigest := fun _ _ => ""
      isQualifiedName := fun _ => true, isValidLabelValue := fun _ => true
      sourceValid := fun _ => true, overridesValid := fun _ => true, rendererValid := fun _ => true
      columnSize := fun _ => 0 }
  validVersion := fun _ => true
  validConstraint := fun _ => true
  satisfies := fun _ _ => true
  previewDigest := fun subject => .ok (toString subject.decisions.length)

def own (group : UUID) : Candidate :=
  { id := 5, projectID := 1, name := "own", groupIDs := [group], connected := true
    compatibility := .compatible }

def stranger : Candidate :=
  { id := 7, projectID := 2, name := "stranger", connected := true, compatibility := .compatible }

def request (candidates : List Candidate) : Request where
  placement := { clusterIDs := [7, 5] }
  allowedProjectIDs := [1]
  candidates := candidates
  requiredCapabilities := []
  identity :=
    { targetGeneration := 1, bundleVersionID := 9
      bundleSpecDigest := "sha256:" ++ String.ofList (List.replicate 64 'a')
      resolvedRevision :=
        { kind := .gitCommit, value := String.ofList (List.replicate 40 'b')
          artifactDigest := "sha256:" ++ String.ofList (List.replicate 64 'c') } }

def result : Result where
  decisions :=
    [{ clusterID := 5, projectID := 1, clusterName := "own", reason := .selected
       matchReasons := [.explicitCluster] }, .unauthorized 7]
  selected := [{ own 3 with groupIDs := [3, 4] }]
  selectedCount := 1
  excludedCount := 1
  requiresAllConfirmation := false
  previewDigest := "2"

end Stranger

/-- With the stranger among the candidates and without it, cluster 7 is unauthorized. -/
theorem stranger_concealed :
    Stranger.result.decisions.filter (·.clusterID == 7) = [.unauthorized 7] :=
  (evaluate_conceals Stranger.library
    (Stranger.request [Stranger.own 4, Stranger.stranger, Stranger.own 3])
    (Stranger.request [Stranger.own 4, Stranger.own 3]) Stranger.result Stranger.result rfl
    (by decide) (by decide +kernel) (by decide +kernel)).2 7 (by decide)
    (.inl ⟨Stranger.stranger, by decide, rfl, by decide⟩)

end Astronomer.Delivery.Selection
