import Astronomer.Auth.Connectors

/-!
# What one sync has done

A sync that succeeds leaves the user with what the claims grant, has touched no row but its
own, reports the rows it wrote, and has nothing left to do.
-/

namespace Astronomer.Auth

open List Rbac

variable {t : Scope} {db : Database} {call : SyncCall} {chance : Chance} {b : Binding t}
  {d : Diff t}

/-- The sync may delete the row: its user's, granted by its connector or by none. -/
def SyncCall.Owns (call : SyncCall) (b : Binding t) : Prop :=
  b.userID = some call.userID ∧ b.source = .groupSync ∧
    (b.groupSyncConnectorID = call.connectorID ∨ b.groupSyncConnectorID = none)

def SyncCall.Matches (call : SyncCall) (m : GroupMapping) : Prop :=
  (m.connectorID = call.connectorID ∨ m.connectorID = none) ∧ m.groupName ≠ "" ∧
    m.groupName ∈ call.groups

def SyncedBinding.of (b : Binding t) : SyncedBinding := ⟨t, b.id, b.roleID, b.scopeID, ""⟩

/-- The rows of `db'` that `db` does not have. -/
def newBindings (db db' : Database) : List SyncedBinding :=
  let new := fun t => ((db'.bindings t).filter (· ∉ db.bindings t)).map SyncedBinding.of
  new .global ++ new .cluster ++ new .project

/-! ## One table -/

theorem connectorID_of_mem_wanted {w : Want t} (h : w ∈ wanted db call t) :
    w.connectorID = call.connectorID ∨ w.connectorID = none := by
  refine List.foldlRecOn (motive := fun ws => ∀ w ∈ ws, w.connectorID = call.connectorID ∨
    w.connectorID = none) _ _ nofun (fun ws hws x hx w hw => ?_) w h
  obtain ⟨m, hm, hx⟩ := mem_filterMap.mp hx
  simp only [mappingsForConnector, mem_filter, Bool.or_eq_true, beq_iff_eq] at hm
  grind [wantOf]

section

variable (hi : ((db.bindings t).map (·.id)).Nodup) (h : reconcile db call chance t = .ok d)

include hi h

theorem mem_rows_iff : b ∈ d.rows ↔ b ∈ keptRows db call t ∨ b ∈ d.added.map Prod.fst := by
  rw [show d.rows = _ from (reconcile_ok hi h).2.1.rows, mem_append]

theorem mem_added (hb : b ∈ d.added.map Prod.fst) :
    ∃ w ∈ wanted db call t, w.isOf b ∧ call.Owns b := by
  obtain ⟨x, hx, rfl⟩ := mem_map.mp hb
  obtain ⟨hw, id, heq⟩ := (reconcile_ok hi h).2.1.added x hx
  refine ⟨x.2, hw, ?_, ?_⟩
  · simp [heq, isOf_groupSyncRow, Want.sameKey]
  · rw [heq]
    exact ⟨rfl, rfl, connectorID_of_mem_wanted hw⟩

theorem added_notMem (hb : b ∈ d.added.map Prod.fst) : b ∉ db.bindings t := by
  intro hmem
  obtain ⟨-, hin, -⟩ := reconcile_ok hi h
  obtain ⟨w, hw, hof, -⟩ := mem_added hi h hb
  have hk : b ∈ keptRows db call t := by
    refine mem_keptRows.mpr ⟨hmem, fun hst => ?_⟩
    rw [(mem_stale.mp hst).2 w hw] at hof
    cases hof
  -- the row would be in the table twice
  have hn := hin.ids
  rw [hin.rows, map_append, nodup_append] at hn
  exact hn.2.2 _ (mem_map_of_mem hk) _ (mem_map_of_mem hb) rfl

theorem notMem_rows_iff (hb : b ∈ db.bindings t) : b ∉ d.rows ↔ b ∈ d.removed := by
  rw [mem_rows_iff hi h, (reconcile_ok hi h).1, mem_keptRows]
  have := fun ha => added_notMem hi h (b := b) ha hb
  tauto

theorem removed_entries :
    d.result.removed = ((db.bindings t).filter (· ∉ d.rows)).map .of := by
  have hst := (reconcile_ok hi h).1
  have heq : d.removed = (db.bindings t).filter (· ∉ d.rows) := by
    conv_lhs => rw [hst, stale, groupSyncBindings, filter_filter]
    refine filter_congr fun b hb => ?_
    rw [Bool.eq_iff_iff, decide_eq_true_iff, notMem_rows_iff hi h hb, hst, stale,
      groupSyncBindings, filter_filter, mem_filter, and_iff_right hb]
  rw [← heq]
  rfl

theorem added_entries : d.result.added.map (fun x => { x with groupName := "" }) =
    (d.rows.filter (· ∉ db.bindings t)).map .of := by
  obtain ⟨-, hin, -⟩ := reconcile_ok hi h
  have heq : d.added.map Prod.fst = d.rows.filter (· ∉ db.bindings t) := by
    rw [show d.rows = _ from hin.rows, filter_append, filter_eq_nil_iff.mpr,
      filter_eq_self.mpr, nil_append]
    · intro b hb
      simpa using added_notMem hi h hb
    · intro b hb
      simpa using (mem_keptRows.mp hb).1
  rw [← heq, Diff.result, map_map, map_map]
  refine map_congr_left fun x hx => ?_
  obtain ⟨-, id, hx⟩ := hin.added x hx
  simp [SyncedBinding.of, hx, groupSyncRow]

theorem mem_rows_of_not_owns (hb : ¬call.Owns b) : b ∈ d.rows ↔ b ∈ db.bindings t := by
  rw [mem_rows_iff hi h, mem_keptRows]
  constructor
  · rintro (⟨hmem, -⟩ | ha)
    · exact hmem
    · obtain ⟨_, -, -, ho⟩ := mem_added hi h ha
      exact absurd ho hb
  · intro hmem
    refine .inl ⟨hmem, fun hst => hb ?_⟩
    exact (mem_groupSyncBindings.mp (mem_stale.mp hst).1).2

theorem wanted_of_owns (hb : b ∈ d.rows) (ho : call.Owns b) :
    ∃ w ∈ wanted db call t, w.isOf b := by
  rcases (mem_rows_iff hi h).mp hb with hk | ha
  · obtain ⟨hmem, hst⟩ := mem_keptRows.mp hk
    by_contra hn
    refine hst (mem_stale.mpr ⟨mem_groupSyncBindings.mpr ⟨hmem, ho⟩, fun w hw => ?_⟩)
    simpa using fun hof => hn ⟨w, hw, hof⟩
  · obtain ⟨w, hw, hof, -⟩ := mem_added hi h ha
    exact ⟨w, hw, hof⟩

end

/-- There is nothing to do where no row is stale and every wanted key is held. -/
theorem reconcile_settled
    (hs : stale call.userID call.connectorID (wanted db call t) (db.bindings t) = [])
    (hh : ∀ w ∈ wanted db call t, holds call.userID (db.bindings t) w) :
    reconcile db call chance t = .ok ⟨db.bindings t, [], []⟩ := by
  have hl : ∀ ws : List (Want t), (∀ w ∈ ws, w ∈ wanted db call t) →
      ws.foldlM (insertWanted db call.userID (chance.newID t)) (db.bindings t, []) =
        .ok (db.bindings t, []) := by
    intro ws hws
    induction ws with
    | nil => rfl
    | cons w ws ih =>
      obtain ⟨hw, hws⟩ := forall_mem_cons.mp hws
      rw [foldlM_cons, insertWanted, createGroupSyncBinding, if_pos (hh w hw)]
      exact ih hws
  simp only [reconcile, hs, foldl_nil]
  rw [hl _ fun w hw => (chance.order_perm t _).subset (mem_of_mem_filter hw)]
  rfl

/-! ## The three tables -/

theorem withSnapshot_of_sync {g c p} : withSnapshot (withDiffs (withSnapshot db call) g c p) call =
    withDiffs (withSnapshot db call) g c p := by
  simp [withSnapshot, withDiffs]

/-- **A sync is exact.** After a sync that succeeds every row it owns is of a mapping the
claims match, every such mapping is held by some row, and no other row has changed. It reports
the rows it deleted and inserted, and the same sync again does nothing. -/
theorem syncUserGroups_exact (chance again : Chance) (call : SyncCall) (db db' : Database)
    (result : SyncResult) (hids : ∀ t, ((db.bindings t).map (·.id)).Nodup)
    (hclaims : call.claimsAvailable)
    (h : syncUserGroups chance call db = .ok (result, db')) :
    (∀ t, ∀ b ∈ db'.bindings t, call.Owns b →
      ∃ m ∈ db.mappings, call.Matches m ∧ isRoleOf m b) ∧
    (∀ m ∈ db.mappings, call.Matches m → HoldsRole call.userID db' m) ∧
    (∀ t (b : Binding t), ¬call.Owns b → (b ∈ db'.bindings t ↔ b ∈ db.bindings t)) ∧
    result.removed = newBindings db' db ∧
    result.added.map (fun x => { x with groupName := "" }) = newBindings db db' ∧
    syncUserGroups again call db' = .ok ({}, db') := by
  have hr : call.runs db := by
    by_contra hn
    have hc := ((syncUserGroups_of_not_runs (eq_false_of_ne_true hn)).1.mp ⟨_, h⟩).2
    rw [hclaims] at hc
    cases hc
  have ht := bindings_of_syncUserGroups hr h
  obtain ⟨g, hg, c, hc, p, hp, heq⟩ := (syncUserGroups_of_runs hr).mp h
  obtain ⟨rfl, rfl⟩ := Prod.mk.inj heq
  refine ⟨fun t b hb ho => ?_, fun m hm hmt => ?_, fun t b hb => ?_, ?_, ?_, ?_⟩
  · obtain ⟨d, hd, hrs⟩ := ht t
    rw [hrs] at hb
    obtain ⟨m, hm, hcn, hn, hgr, hrl⟩ := exists_wanted_iff.mp (wanted_of_owns (hids t) hd hb ho)
    exact ⟨m, hm, ⟨hcn, hn, hgr⟩, hrl⟩
  · obtain ⟨b, hb⟩ := exists_isRoleOf m
    obtain ⟨w, hw, hof⟩ := exists_wanted_iff.mpr ⟨m, hm, hmt.1, hmt.2.1, hmt.2.2, hb⟩
    obtain ⟨d, hd, hrs⟩ := ht m.scope
    exact HoldsRole.of_holds hb hof (by rw [hrs]; exact (reconcile_ok (hids _) hd).2.2 w hw)
  · obtain ⟨d, hd, hrs⟩ := ht t
    rw [hrs]
    exact mem_rows_of_not_owns (hids t) hd hb
  · rw [syncResult, removed_entries (hids _) hg, removed_entries (hids _) hc,
      removed_entries (hids _) hp]
    rfl
  · rw [syncResult, map_append, map_append, added_entries (hids _) hg,
      added_entries (hids _) hc, added_entries (hids _) hp]
    rfl
  · -- each table is settled
    set db' := withDiffs (withSnapshot db call) g c p with hdb
    have hs : ∀ t, reconcile db' call again t = .ok ⟨db'.bindings t, [], []⟩ := by
      intro t
      obtain ⟨d, hd, hrs⟩ := ht t
      refine reconcile_settled (eq_nil_iff_forall_not_mem.mpr fun b hb => ?_) ?_
      · obtain ⟨hb, hn⟩ := mem_stale.mp hb
        obtain ⟨hmem, ho⟩ := mem_groupSyncBindings.mp hb
        obtain ⟨w, hw, hof⟩ := wanted_of_owns (hids t) hd (hrs ▸ hmem) ho
        rw [hn w hw] at hof
        cases hof
      · rw [show db'.bindings t = _ from hrs]
        exact (reconcile_ok (hids t) hd).2.2
    have hr' : call.runs db' := hr
    refine (syncUserGroups_of_runs hr').mpr ⟨_, hs .global, _, hs .cluster, _, hs .project, ?_⟩
    rw [hdb, withSnapshot_of_sync]
    rfl

namespace TwoConnectors

/-- A role of a group the user has left. -/
def left : Binding .global :=
  { id := .sixes, userID := some user, roleID := .sixes, scopeID := (), source := .groupSync
    groupSyncConnectorID := some okta }

def manual : Binding .global := { id := .ones, userID := some user, roleID := .ones, scopeID := () }

def held : Database :=
  { database with
    roles := fun _ => [roleID, .sixes, .ones].map fun id => { id, name := "", rules := .ok [] }
    bindings := fun
      | .global => [left, manual]
      | .cluster | .project => [] }

end TwoConnectors

open TwoConnectors in
/-- The role of the other group goes, the manual one stays, and a second sync does nothing. -/
theorem okta_syncs_once : ∃ result db',
    syncUserGroups (login okta ["ops"]).chance ((login okta ["ops"]).call user) held =
      .ok (result, db') ∧ result.added.length = 1 ∧ result.removed.length = 1 ∧
    left ∉ db'.bindings .global ∧ manual ∈ db'.bindings .global ∧
    syncUserGroups (login okta ["ops"]).chance ((login okta ["ops"]).call user) db' =
      .ok ({}, db') := by
  obtain ⟨⟨result, db'⟩, hs, hl⟩ := exists_ok_of_any
    (x := syncUserGroups (login okta ["ops"]).chance ((login okta ["ops"]).call user) held)
    (p := fun r => r.1.added.length == 1 && r.1.removed.length == 1 &&
      decide (left ∉ r.2.bindings .global)) (by decide +kernel)
  have hids : ∀ t, ((held.bindings t).map (·.id)).Nodup := by intro t; cases t <;> decide
  obtain ⟨-, -, hother, -, -, hagain⟩ := syncUserGroups_exact _ _ _ _ _ _ hids rfl hs
  simp only [Bool.and_eq_true, beq_iff_eq, decide_eq_true_eq] at hl
  refine ⟨result, db', hs, hl.1.1, hl.1.2, hl.2, (hother .global manual ?_).mpr ?_, hagain⟩
  · rintro ⟨-, hsource, -⟩
    cases hsource
  · exact mem_cons_of_mem _ mem_cons_self

end Astronomer.Auth
