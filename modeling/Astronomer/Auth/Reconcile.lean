import Mathlib.Data.List.Nodup
import Astronomer.Auth.GroupSync

/-!
# What a sync does to one binding table

`reconcile` in closed form: the deletes take exactly the stale rows out, and the inserts do
not get in each other's way, so each can be judged against the table as the call found it.
-/

namespace Astronomer.Auth

open List Rbac

variable {t : Scope} {db : Database} {rows : List (Binding t)} {b : Binding t} {w x : Want t}
  {ws : List (Want t)} {userID : UUID} {connectorID : Option UUID} {newID : Want t → UUID}

/-! ## Wanted keys -/

def Want.sameKey (w x : Want t) : Bool := x.roleID == w.roleID && x.scopeID == w.scopeID

def KeysDistinct (ws : List (Want t)) : Prop := ws.Pairwise fun w x => w.sameKey x = false

theorem Want.sameKey_comm : w.sameKey x = x.sameKey w := by
  simp only [sameKey, Bool.beq_comm]

theorem Want.isOf_of_sameKey (h : w.sameKey x) : x.isOf b = w.isOf b := by
  simp only [sameKey, Bool.and_eq_true, beq_iff_eq] at h
  simp only [isOf, h.1, h.2]

theorem KeysDistinct.perm (h : KeysDistinct ws) {vs : List (Want t)} (hp : vs.Perm ws) :
    KeysDistinct vs :=
  (hp.pairwise_iff fun h => Want.sameKey_comm.trans h).mpr h

theorem keysDistinct_wanted (db : Database) (call : SyncCall) (t : Scope) :
    KeysDistinct (wanted db call t) := by
  refine List.foldlRecOn _ _ List.Pairwise.nil fun ws h w _ => ?_
  split
  · exact h
  next hn =>
    simp only [any_eq_true, not_exists, not_and, Bool.not_eq_true] at hn
    refine pairwise_append.mpr ⟨h, pairwise_singleton _ _, fun x hx y hy => ?_⟩
    obtain rfl := mem_singleton.mp hy
    rw [Want.sameKey_comm]
    exact hn x hx

/-! ## Deletes -/

theorem foldl_deleteGroupSyncBinding {removed : List (Binding t)} :
    removed.foldl (fun rows b => deleteGroupSyncBinding rows b.id) rows =
      rows.filter fun b => !removed.any fun s => b.id == s.id && b.source == .groupSync := by
  induction removed generalizing rows with
  | nil => simp
  | cons s removed ih =>
    rw [foldl_cons, ih, deleteGroupSyncBinding, filter_filter]
    refine filter_congr fun b _ => ?_
    simp only [any_cons, Bool.not_or, Bool.and_comm]

theorem mem_groupSyncBindings : b ∈ groupSyncBindings userID connectorID rows ↔
      b ∈ rows ∧ b.userID = some userID ∧ b.source = .groupSync ∧
        (b.groupSyncConnectorID = connectorID ∨ b.groupSyncConnectorID = none) := by
  simp only [groupSyncBindings, mem_filter, Bool.and_eq_true, Bool.or_eq_true, beq_iff_eq,
    and_assoc]

theorem mem_stale : b ∈ stale userID connectorID ws rows ↔
      b ∈ groupSyncBindings userID connectorID rows ∧ ∀ w ∈ ws, w.isOf b = false := by
  simp only [stale, mem_filter, Bool.not_eq_true', any_eq_false, Bool.not_eq_true]

theorem foldl_delete_stale (hi : (rows.map (·.id)).Nodup) :
    (stale userID connectorID ws rows).foldl (fun rows b => deleteGroupSyncBinding rows b.id) rows =
      rows.filter fun b => !(stale userID connectorID ws rows).contains b := by
  rw [foldl_deleteGroupSyncBinding]
  refine filter_congr fun b hb => ?_
  congr 1
  rw [Bool.eq_iff_iff]
  simp only [any_eq_true, Bool.and_eq_true, beq_iff_eq, contains_iff_mem]
  constructor
  · rintro ⟨s, hs, hid, -⟩
    have hmem := (mem_groupSyncBindings.mp (mem_stale.mp hs).1).1
    exact inj_on_of_nodup_map hi hb hmem hid ▸ hs
  · exact fun hb => ⟨b, hb, rfl, (mem_groupSyncBindings.mp (mem_stale.mp hb).1).2.2.1⟩

/-! ## Inserts -/

def Insertable (db : Database) (userID : UUID) (rows : List (Binding t)) (w : Want t) : Prop :=
  holds userID rows w ∨
    (taken rows w = false ∧ references db (groupSyncRow userID UUID.nil w))

theorem references_groupSyncRow {id} :
    references db (groupSyncRow userID id w) = references db (groupSyncRow userID UUID.nil w) := rfl

theorem isOf_groupSyncRow {id} : x.isOf (groupSyncRow userID id w) = w.sameKey x := by
  simp only [Want.isOf, Want.sameKey, groupSyncRow, Bool.beq_comm]

theorem holds_append (h : w.sameKey x = false) {id} :
    holds userID (rows ++ [groupSyncRow userID id w]) x = holds userID rows x := by
  simp only [holds, any_append, any_cons, isOf_groupSyncRow, h, Bool.and_false,
    any_nil, Bool.or_false]

theorem taken_append (h : w.sameKey x = false) {id} :
    taken (rows ++ [groupSyncRow userID id w]) x = taken rows x := by
  simp only [taken, any_append, any_cons, isOf_groupSyncRow, h, Bool.and_false,
    any_nil, Bool.or_false]

def newRows (userID : UUID) (newID : Want t → UUID) (rows : List (Binding t)) (ws : List (Want t)) :
    List (Binding t × Want t) :=
  (ws.filter fun w => !holds userID rows w).map fun w => (groupSyncRow userID (newID w) w, w)

structure FreshIDs (newID : Want t → UUID) (ws : List (Want t))
    (rows : List (Binding t)) : Prop where
  distinct : ws.Pairwise fun w x => newID w ≠ newID x
  unused : ∀ w ∈ ws, ∀ b ∈ rows, b.id ≠ newID w

def inserted (userID : UUID) (newID : Want t → UUID) (rows : List (Binding t))
    (added : List (Binding t × Want t)) (w : Want t) :
    List (Binding t) × List (Binding t × Want t) :=
  if holds userID rows w then (rows, added)
  else (rows ++ [groupSyncRow userID (newID w) w], added ++ [(groupSyncRow userID (newID w) w, w)])

theorem insertWanted_eq_ok {added st'} (hu : ∀ b ∈ rows, b.id ≠ newID w) :
    insertWanted db userID newID (rows, added) w = .ok st' ↔
      Insertable db userID rows w ∧ st' = inserted userID newID rows added w := by
  have hid : (rows.any fun b => b.id == (groupSyncRow userID (newID w) w).id) = false := by
    simp only [any_eq_false, beq_iff_eq]
    exact hu
  unfold insertWanted createGroupSyncBinding Insertable inserted
  rw [hid, references_groupSyncRow]
  cases holds userID rows w <;> cases taken rows w <;>
    cases references db (groupSyncRow userID UUID.nil w) <;> simp [eq_comm]

theorem foldlM_insertWanted {added st'} (hky : KeysDistinct ws) (hf : FreshIDs newID ws rows) :
    ws.foldlM (insertWanted db userID newID) (rows, added) = .ok st' ↔
      (∀ w ∈ ws, Insertable db userID rows w) ∧
        st' = (rows ++ (newRows userID newID rows ws).map Prod.fst,
          added ++ newRows userID newID rows ws) := by
  induction ws generalizing rows added with
  | nil =>
    rw [foldlM_nil, pure_eq_ok, eq_comm]
    simp [newRows]
  | cons w ws ih =>
    obtain ⟨hk, hky⟩ := pairwise_cons.mp hky
    obtain ⟨hid, hds⟩ := pairwise_cons.mp hf.distinct
    have hrest : ∀ x ∈ ws, ∀ b ∈ rows, b.id ≠ newID x := fun x hx =>
      hf.unused x (mem_cons_of_mem _ hx)
    simp only [foldlM_cons, bind_eq_ok,
      insertWanted_eq_ok (hf.unused w mem_cons_self), and_assoc, exists_and_left,
      exists_eq_left, forall_mem_cons]
    refine and_congr_right fun _ => ?_
    unfold inserted
    cases hh : holds userID rows w with
    | true =>
      have hn : newRows userID newID rows (w :: ws) = newRows userID newID rows ws := by
        simp [newRows, hh]
      rw [if_pos rfl, hn]
      exact ih hky ⟨hds, hrest⟩
    | false =>
      -- the new row has another key than the rest, which therefore sees the old table
      have hf' : FreshIDs newID ws (rows ++ [groupSyncRow userID (newID w) w]) := by
        refine ⟨hds, fun x hx b hb => ?_⟩
        rcases mem_append.mp hb with hb | hb
        · exact hrest x hx b hb
        · obtain rfl := mem_singleton.mp hb
          exact hid x hx
      have hs : ∀ x ∈ ws, (Insertable db userID (rows ++ [groupSyncRow userID (newID w) w]) x ↔
          Insertable db userID rows x) := fun x hx => by
        rw [Insertable, Insertable, holds_append (hk x hx), taken_append (hk x hx)]
      have hn : newRows userID newID rows (w :: ws) = (groupSyncRow userID (newID w) w, w) ::
            newRows userID newID (rows ++ [groupSyncRow userID (newID w) w]) ws := by
        have hfl : (ws.filter fun x =>
            !holds userID (rows ++ [groupSyncRow userID (newID w) w]) x) =
              ws.filter fun x => !holds userID rows x :=
          filter_congr fun x hx => by rw [holds_append (hk x hx)]
        simp only [newRows, hfl, filter_cons, hh, Bool.not_false, if_true, map_cons]
      rw [if_neg Bool.false_ne_true, ih hky hf', hn, forall₂_congr hs]
      simp only [map_cons, append_assoc, singleton_append]

/-! ## The block of one table -/

def keptRows (db : Database) (call : SyncCall) (t : Scope) : List (Binding t) :=
  (db.bindings t).filter fun b =>
    !(stale call.userID call.connectorID (wanted db call t) (db.bindings t)).contains b

def reconciled (db : Database) (call : SyncCall) (chance : Chance) (t : Scope) : Diff t :=
  let added := newRows call.userID (chance.newID t) (db.bindings t)
    (chance.order t (wanted db call t))
  { rows := keptRows db call t ++ added.map Prod.fst
    removed := stale call.userID call.connectorID (wanted db call t) (db.bindings t)
    added := added }

variable {call : SyncCall} {chance : Chance}

theorem any_keptRows (hw : w ∈ wanted db call t) {p : Binding t → Bool} :
    ((keptRows db call t).any fun b => p b && w.isOf b) =
      (db.bindings t).any fun b => p b && w.isOf b := by
  rw [Bool.eq_iff_iff]
  simp only [keptRows, any_eq_true, mem_filter, Bool.not_eq_true', Bool.and_eq_true,
    contains_eq_mem, decide_eq_false_iff_not]
  constructor
  · rintro ⟨b, ⟨hb, -⟩, hp⟩
    exact ⟨b, hb, hp⟩
  · rintro ⟨b, hb, hp, hof⟩
    refine ⟨b, ⟨hb, fun hs => ?_⟩, hp, hof⟩
    rw [(mem_stale.mp hs).2 w hw] at hof
    cases hof

theorem insertable_keptRows (hw : w ∈ wanted db call t) :
    Insertable db userID (keptRows db call t) w ↔ Insertable db userID (db.bindings t) w := by
  rw [Insertable, Insertable, holds, holds, taken, taken, any_keptRows hw, any_keptRows hw]

theorem holds_of_seen (h : seen userID connectorID rows w) : holds userID rows w := by
  simp only [seen, holds, any_eq_true] at h ⊢
  obtain ⟨b, hb, hof⟩ := h
  obtain ⟨hmem, hus, -⟩ := mem_groupSyncBindings.mp hb
  exact ⟨b, hmem, by rw [hus, hof, beq_self_eq_true, Bool.and_self]⟩

theorem reconcile_eq_ok {d : Diff t} (hi : ((db.bindings t).map (·.id)).Nodup)
    (hf : FreshIDs (chance.newID t) (wanted db call t) (db.bindings t)) :
    reconcile db call chance t = .ok d ↔
      (∀ w ∈ wanted db call t, Insertable db call.userID (db.bindings t) w) ∧
        d = reconciled db call chance t := by
  have hp := chance.order_perm t (wanted db call t)
  set missing := (chance.order t (wanted db call t)).filter fun w =>
    !seen call.userID call.connectorID (db.bindings t) w with hm
  have hwn : ∀ w ∈ missing, w ∈ wanted db call t := fun w hw =>
    hp.subset (mem_of_mem_filter hw)
  have hs : missing.Sublist (chance.order t (wanted db call t)) := filter_sublist
  have hky : KeysDistinct missing := ((keysDistinct_wanted db call t).perm hp).sublist hs
  have hf' : FreshIDs (chance.newID t) missing (keptRows db call t) :=
    ⟨((hp.pairwise_iff fun h => Ne.symm h).mpr hf.distinct).sublist hs,
      fun w hw b hb => hf.unused w (hwn w hw) b (mem_of_mem_filter hb)⟩
  have hn : newRows call.userID (chance.newID t) (keptRows db call t) missing =
      newRows call.userID (chance.newID t) (db.bindings t) (chance.order t (wanted db call t)) := by
    rw [newRows, newRows, hm, filter_filter]
    refine congrArg _ (filter_congr fun w hw => ?_)
    rw [holds, any_keptRows (hp.subset hw), ← holds]
    cases hsn : seen call.userID call.connectorID (db.bindings t) w with
    | false => simp
    | true => simp [holds_of_seen hsn]
  have ha : (∀ w ∈ missing, Insertable db call.userID (keptRows db call t) w) ↔
      ∀ w ∈ wanted db call t, Insertable db call.userID (db.bindings t) w := by
    constructor
    · intro h w hw
      cases hsn : seen call.userID call.connectorID (db.bindings t) w with
      | false =>
        refine (insertable_keptRows hw).mp (h w ?_)
        exact mem_filter.mpr ⟨hp.symm.subset hw, by rw [hsn]; rfl⟩
      | true => exact .inl (holds_of_seen hsn)
    · exact fun h w hw => (insertable_keptRows (hwn w hw)).mpr (h w (hwn w hw))
  have hd : (stale call.userID call.connectorID (wanted db call t) (db.bindings t)).foldl
      (fun rows b => deleteGroupSyncBinding rows b.id) (db.bindings t) = keptRows db call t :=
    foldl_delete_stale hi
  simp only [reconcile, bind_eq_ok, pure_eq_ok, hd, ← hm,
    foldlM_insertWanted hky hf', ha, hn, and_assoc, exists_and_left, exists_eq_left,
    nil_append]
  exact and_congr_right fun _ => eq_comm

end Astronomer.Auth
