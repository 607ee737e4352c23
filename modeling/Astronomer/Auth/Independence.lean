import Astronomer.Auth.Reconcile

/-!
# Do users interfere through role bindings?

Every synced row has the empty group, and the tables have a unique key of group, role and
scope that the insert's `ON CONFLICT` does not name. So a role that one user holds cannot be
inserted for anyone else.
-/

namespace Astronomer.Auth

open List Rbac

/-! ## The constraints of the schema -/

/-- The keys of a binding table: the primary key, the unique key of user, role and
scope, in which null users differ, the unique key of group, role and scope, and the
foreign keys. -/
structure TableValid {t : Scope} (db : Database) (rows : List (Binding t)) : Prop where
  ids : (rows.map (·.id)).Nodup
  userKeys : rows.Pairwise fun a b =>
    ¬ (a.userID.isSome ∧ a.userID = b.userID ∧ a.roleID = b.roleID ∧ a.scopeID = b.scopeID)
  groupKeys : rows.Pairwise fun a b =>
    ¬ (a.group = b.group ∧ a.roleID = b.roleID ∧ a.scopeID = b.scopeID)
  foreignKeys : ∀ b ∈ rows, references db b

structure Valid (db : Database) : Prop where
  tables : ∀ t, TableValid db (db.bindings t)
  mappings : ∀ m ∈ db.mappings,
    scopeExists db m.scope m.scopeID ∧ connectorExists db m.connectorID

def Chance.Fresh (chance : Chance) (call : SyncCall) (db : Database) : Prop :=
  ∀ t, FreshIDs (chance.newID t) (wanted db call t) (db.bindings t)

structure SameExcept (u : UUID) (db db' : Database) : Prop where
  same : db' = { db with bindings := db'.bindings }
  others : ∀ t, (db'.bindings t).filter (·.userID != some u) =
    (db.bindings t).filter (·.userID != some u)

section

variable {t : Scope} {db db' : Database} {rows : List (Binding t)} {row : Binding t} {w : Want t}
  {u v : UUID} {call : SyncCall} {chance : Chance}

theorem TableValid.sublist {rows' : List (Binding t)} (h : TableValid db rows)
    (hs : rows'.Sublist rows) : TableValid db rows' where
  ids := (hs.map _).nodup h.ids
  userKeys := h.userKeys.sublist hs
  groupKeys := h.groupKeys.sublist hs
  foreignKeys := fun b hb => h.foreignKeys b (hs.subset hb)

theorem TableValid.append (h : TableValid db rows) (hid : ∀ b ∈ rows, b.id ≠ row.id)
    (hus : ∀ b ∈ rows, b.userID ≠ row.userID)
    (hg : ∀ b ∈ rows, ¬ (b.group = row.group ∧ b.roleID = row.roleID ∧ b.scopeID = row.scopeID))
    (hre : references db row) : TableValid db (rows ++ [row]) where
  ids := by
    rw [map_append, map_singleton]
    refine nodup_append.mpr ⟨h.ids, nodup_singleton _, fun i hi j hj => ?_⟩
    obtain ⟨b, hb, rfl⟩ := mem_map.mp hi
    rw [mem_singleton.mp hj]
    exact hid b hb
  userKeys := pairwise_append.mpr ⟨h.userKeys, pairwise_singleton _ _, fun b hb x hx => by
    rw [mem_singleton.mp hx]
    exact fun hk => hus b hb hk.2.1⟩
  groupKeys := pairwise_append.mpr ⟨h.groupKeys, pairwise_singleton _ _, fun b hb x hx => by
    rw [mem_singleton.mp hx]
    exact hg b hb⟩
  foreignKeys := fun b hb => by
    rcases mem_append.mp hb with hb | hb
    · exact h.foreignKeys b hb
    · rw [mem_singleton.mp hb]
      exact hre

/-! ## What a sync reads of the other users -/

def ownRows (u : UUID) (rows : List (Binding t)) : List (Binding t) :=
  rows.filter (·.userID == some u)

theorem SameExcept.ownRows_eq (h : SameExcept u db db') (huv : u ≠ v) :
    ownRows v (db'.bindings t) = ownRows v (db.bindings t) := by
  have hf : ∀ rows : List (Binding t),
      ownRows v rows = ownRows v (rows.filter (·.userID != some u)) := by
    intro rows
    rw [ownRows, ownRows, filter_filter]
    refine filter_congr fun b _ => ?_
    by_cases hb : b.userID = some v
    · simp [hb, Ne.symm huv]
    · simp [hb]
  rw [hf, h.others t, ← hf]

theorem holds_ownRows : holds v (ownRows v rows) w = holds v rows w := by
  rw [holds, holds, ownRows, any_filter]
  simp only [← Bool.and_assoc, Bool.and_self]

theorem stale_ownRows {connectorID ws} :
    stale v connectorID ws (ownRows v rows) = stale v connectorID ws rows := by
  simp only [stale, groupSyncBindings, ownRows, filter_filter]
  refine filter_congr fun b _ => ?_
  cases (b.userID == some v) <;> simp

theorem SameExcept.wanted_eq (h : SameExcept u db db') : wanted db' call t = wanted db call t := by
  rw [h.same]
  rfl

theorem SameExcept.references_eq (h : SameExcept u db db') :
    references db' row = references db row := by
  rw [h.same]
  rfl

theorem SameExcept.tableValid (h : SameExcept u db db') (hv : TableValid db rows) :
    TableValid db' rows :=
  ⟨hv.ids, hv.userKeys, hv.groupKeys, fun b hb =>
    h.references_eq.trans (hv.foreignKeys b hb)⟩

/-! ## When a sync succeeds -/

def SyncCall.runs (call : SyncCall) (db : Database) : Bool :=
  call.userID != UUID.nil && call.claimsAvailable &&
    (userExists db call.userID && connectorExists db call.connectorID)

def pending (db : Database) (call : SyncCall) (t : Scope) : List (Want t) :=
  (wanted db call t).filter fun w => !holds call.userID (db.bindings t) w

theorem SameExcept.runs_eq (h : SameExcept u db db') : call.runs db' = call.runs db := by
  rw [h.same]
  rfl

theorem SameExcept.pending_eq (h : SameExcept u db db') (hu : u ≠ call.userID) :
    pending db' call t = pending db call t := by
  unfold pending
  rw [h.wanted_eq]
  refine filter_congr fun w _ => ?_
  rw [← holds_ownRows, h.ownRows_eq hu, holds_ownRows]

def Grantable (db : Database) (call : SyncCall) : Prop :=
  ∀ t, ∀ w ∈ pending db call t, taken (db.bindings t) w = false ∧
    references db (groupSyncRow call.userID UUID.nil w)

theorem insertable_iff_pending :
    (∀ w ∈ wanted db call t, Insertable db call.userID (db.bindings t) w) ↔
      ∀ w ∈ pending db call t, taken (db.bindings t) w = false ∧
        references db (groupSyncRow call.userID UUID.nil w) := by
  simp only [pending, mem_filter, Bool.not_eq_true', and_imp, Insertable]
  refine forall₂_congr fun w _ => ?_
  cases holds call.userID (db.bindings t) w <;> simp

theorem syncUserGroups_of_runs {r} (hr : call.runs db) :
    syncUserGroups chance call db = .ok r ↔ ∃ g, reconcile db call chance .global = .ok g ∧
        ∃ c, reconcile db call chance .cluster = .ok c ∧
          ∃ p, reconcile db call chance .project = .ok p ∧
            (syncResult g c p, withDiffs (withSnapshot db call) g c p) = r := by
  simp only [SyncCall.runs, Bool.and_eq_true] at hr
  obtain ⟨⟨hn, hc⟩, he⟩ := hr
  have hu : upsertUserIDPGroups db call = .ok (withSnapshot db call) := by
    simp only [upsertUserIDPGroups, he, Bool.and_self, if_true]
  -- the snapshot is not part of what a block reads
  have hb : ∀ t, reconcile (withSnapshot db call) call chance t = reconcile db call chance t :=
    fun _ => rfl
  simp only [syncUserGroups, hn, require_true, hc, Bool.not_true, Bool.false_eq_true,
    if_false, bind_eq_ok, Except.ok.injEq, hu, exists_eq_left', hb, pure_eq_ok, true_and,
    exists_const]

theorem bindings_of_syncUserGroups {r} (hr : call.runs db)
    (h : syncUserGroups chance call db = .ok r) :
    ∀ t, ∃ d, reconcile db call chance t = .ok d ∧ r.2.bindings t = d.rows := by
  obtain ⟨g, hg, c, hc, p, hp, rfl⟩ := (syncUserGroups_of_runs hr).mp h
  intro t
  cases t with
  | global => exact ⟨g, hg, rfl⟩
  | cluster => exact ⟨c, hc, rfl⟩
  | project => exact ⟨p, hp, rfl⟩

theorem syncUserGroups_ok_iff (hv : Valid db) (hf : chance.Fresh call db)
    (hrn : call.runs db) :
    (∃ r, syncUserGroups chance call db = .ok r) ↔ Grantable db call := by
  constructor
  · rintro ⟨r, hr⟩ t
    obtain ⟨d, hd, -⟩ := bindings_of_syncUserGroups hrn hr t
    exact insertable_iff_pending.mp ((reconcile_eq_ok (hv.tables t).ids (hf t)).mp hd).1
  · intro hgr
    have hb : ∀ t, reconcile db call chance t = .ok (reconciled db call chance t) := fun t =>
      (reconcile_eq_ok (hv.tables t).ids (hf t)).mpr ⟨insertable_iff_pending.mpr (hgr t), rfl⟩
    exact ⟨_, (syncUserGroups_of_runs hrn).mpr ⟨_, hb .global, _, hb .cluster, _, hb .project, rfl⟩⟩

theorem syncCommitted_bindings (hv : Valid db) (hf : chance.Fresh call db)
    (hrn : call.runs db) (hgr : Grantable db call) :
    (syncCommitted chance call db).bindings t = (reconciled db call chance t).rows := by
  obtain ⟨r, hr⟩ := (syncUserGroups_ok_iff hv hf hrn).mpr hgr
  obtain ⟨d, hd, hrs⟩ := bindings_of_syncUserGroups hrn hr t
  rw [((reconcile_eq_ok (hv.tables t).ids (hf t)).mp hd).2] at hrs
  simp only [syncCommitted, hr, Except.map, commitOr_ok, hrs]

theorem syncCommitted_of_not_ok (h : ¬ ∃ r, syncUserGroups chance call db = .ok r) :
    syncCommitted chance call db = db := by
  unfold syncCommitted
  cases hr : syncUserGroups chance call db with
  | ok r => exact absurd ⟨r, hr⟩ h
  | error err => rfl

theorem syncUserGroups_of_not_runs (hr : call.runs db = false) :
    ((∃ r, syncUserGroups chance call db = .ok r) ↔
        call.userID ≠ UUID.nil ∧ call.claimsAvailable = false) ∧
      (syncCommitted chance call db).bindings = db.bindings := by
  by_cases hn : call.userID = UUID.nil
  · have hs : syncUserGroups chance call db = .error "group_sync: user_id is zero" := by
      simp only [syncUserGroups, hn, bne_self_eq_false, require_false]
      rfl
    simp [syncCommitted, hs, hn, Except.map]
  · have hne : (call.userID != UUID.nil) := bne_iff_ne.mpr hn
    cases hc : call.claimsAvailable with
    | false =>
      have hs : syncUserGroups chance call db = .ok ({ skipped := true }, db) := by
        simp only [syncUserGroups, hne, hc, require_true, Bool.not_false, if_true]
        rfl
      simp [syncCommitted, hs, hn, Except.map]
    | true =>
      have he : (userExists db call.userID && connectorExists db call.connectorID) = false := by
        rwa [SyncCall.runs, hne, hc, Bool.true_and, Bool.true_and] at hr
      have hs : syncUserGroups chance call db =
          .error "group_sync: upsert snapshot: violates foreign key constraint" := by
        simp only [syncUserGroups, upsertUserIDPGroups, hne, hc, require_true, Bool.not_true,
          Bool.false_eq_true, if_false, he]
        rfl
      simp [syncCommitted, hs, Except.map]

/-! ## Independence -/

/-- The sync of the call has the same outcome on both databases: it succeeds on both or
on neither, and its user has the same rows afterwards. -/
def SameOutcome (chance : Chance) (call : SyncCall) (db db' : Database) : Prop :=
  ((∃ r, syncUserGroups chance call db = .ok r) ↔ ∃ r, syncUserGroups chance call db' = .ok r) ∧
    ∀ t, ownRows call.userID ((syncCommitted chance call db').bindings t) =
      ownRows call.userID ((syncCommitted chance call db).bindings t)

def Independent (chance : Chance) (call : SyncCall) (u : UUID) (db : Database) : Prop :=
  ∀ db', Valid db' → SameExcept u db db' → chance.Fresh call db' → SameOutcome chance call db db'

/-- There is nothing for `u` to affect: the call does not reach the tables, or it has no
row to insert, or one of its inserts fails for a reason outside the rows of `u`: a
missing role, or a row of a third user. -/
def Unaffected (call : SyncCall) (u : UUID) (db : Database) : Prop :=
  call.runs db = false ∨ (∀ t, pending db call t = []) ∨
    ∃ t, ∃ w ∈ pending db call t,
      references db (groupSyncRow call.userID UUID.nil w) = false ∨
        ∃ b ∈ db.bindings t, b.group = "" ∧ w.isOf b ∧ b.userID ≠ some u

def Spare (chance : Chance) (call : SyncCall) (db : Database) : Prop :=
  ∀ t, ∃ id, (∀ b ∈ db.bindings t, b.id ≠ id) ∧ ∀ w ∈ wanted db call t, id ≠ chance.newID t w

theorem SameExcept.not_grantable (h : SameExcept u db db') (hu : u ≠ call.userID)
    (hw : w ∈ pending db call t)
    (hbl : references db (groupSyncRow call.userID UUID.nil w) = false ∨
      ∃ b ∈ db.bindings t, b.group = "" ∧ w.isOf b ∧ b.userID ≠ some u) :
    ¬ Grantable db' call := by
  intro hgr
  obtain ⟨ht, hre⟩ := hgr t w (h.pending_eq hu ▸ hw)
  rcases hbl with hbl | ⟨b, hb, hg, hof, hus⟩
  · rw [h.references_eq, hbl] at hre
    cases hre
  · have hmem : b ∈ (db.bindings t).filter (·.userID != some u) :=
      mem_filter.mpr ⟨hb, bne_iff_ne.mpr hus⟩
    rw [← h.others t] at hmem
    have htr : taken (db'.bindings t) w :=
      any_eq_true.mpr ⟨b, mem_of_mem_filter hmem, by simp [hg, hof]⟩
    rw [ht] at htr
    cases htr

theorem SameExcept.refl : SameExcept u db db := ⟨rfl, fun _ => rfl⟩

theorem ownRows_reconciled (hpd : pending db call t = []) :
    ownRows call.userID (reconciled db call chance t).rows =
      (ownRows call.userID (db.bindings t)).filter fun b =>
        !(stale call.userID call.connectorID (wanted db call t)
          (ownRows call.userID (db.bindings t))).contains b := by
  have hn : newRows call.userID (chance.newID t) (db.bindings t)
      (chance.order t (wanted db call t)) = [] := by
    rw [newRows, map_eq_nil_iff, filter_eq_nil_iff]
    intro w hw
    rw [pending, filter_eq_nil_iff] at hpd
    exact hpd w ((chance.order_perm t _).subset hw)
  simp only [reconciled, hn, map_nil, append_nil, keptRows, stale_ownRows]
  simp only [ownRows, filter_filter, Bool.and_comm]

theorem Unaffected.independent (hv : Valid db) (hu : u ≠ call.userID)
    (hf : chance.Fresh call db) (h : Unaffected call u db) : Independent chance call u db := by
  intro db' hv' hs hf'
  cases hr : call.runs db with
  | false =>
    have hr' : call.runs db' = false := hs.runs_eq.trans hr
    obtain ⟨hok, hb⟩ := syncUserGroups_of_not_runs hr
    obtain ⟨hok', hb'⟩ := syncUserGroups_of_not_runs hr'
    refine ⟨hok.trans hok'.symm, fun t => ?_⟩
    rw [hb, hb', hs.ownRows_eq hu]
  | true =>
    have hr' : call.runs db' := hs.runs_eq.trans hr
    have hok := syncUserGroups_ok_iff hv hf hr
    have hok' := syncUserGroups_ok_iff hv' hf' hr'
    rcases h with hff | hpd | ⟨t, w, hw, hbl⟩
    · rw [hr] at hff
      cases hff
    · have hgr : Grantable db call := fun t w hw => by
        rw [hpd t] at hw
        cases hw
      have hpd' : ∀ t, pending db' call t = [] := fun t => (hs.pending_eq hu).trans (hpd t)
      have hgr' : Grantable db' call := fun t w hw => by
        rw [hpd' t] at hw
        cases hw
      refine ⟨by rw [hok, hok']; exact ⟨fun _ => hgr', fun _ => hgr⟩, fun t => ?_⟩
      rw [syncCommitted_bindings hv hf hr hgr,
        syncCommitted_bindings hv' hf' hr' hgr', ownRows_reconciled (hpd t),
        ownRows_reconciled (hpd' t), hs.ownRows_eq hu, hs.wanted_eq]
    · have hrf := SameExcept.refl.not_grantable hu hw hbl
      have hrf' := hs.not_grantable hu hw hbl
      refine ⟨by rw [hok, hok']; exact ⟨fun h => absurd h hrf, fun h => absurd h hrf'⟩, fun t => ?_⟩
      rw [syncCommitted_of_not_ok (hok.not.mpr hrf),
        syncCommitted_of_not_ok (hok'.not.mpr hrf'), hs.ownRows_eq hu]

/-! ## A user who takes a role away from another -/

def without (db : Database) (u : UUID) : Database :=
  { db with bindings := fun t => (db.bindings t).filter (·.userID != some u) }

def withRow (db : Database) {t : Scope} (row : Binding t) : Database :=
  { db with bindings := Function.update db.bindings t (db.bindings t ++ [row]) }

theorem withRow_bindings_self : (withRow db row).bindings t = db.bindings t ++ [row] :=
  Function.update_self ..

theorem withRow_bindings_of_ne {s} (h : s ≠ t) : (withRow db row).bindings s = db.bindings s :=
  Function.update_of_ne h ..

theorem sameExcept_without : SameExcept u db (without db u) :=
  ⟨rfl, fun t => by simp only [without, filter_filter, Bool.and_self]⟩

theorem valid_without (h : Valid db) : Valid (without db u) :=
  ⟨fun t => sameExcept_without.tableValid ((h.tables t).sublist filter_sublist), h.mappings⟩

theorem fresh_without (h : chance.Fresh call db) : chance.Fresh call (without db u) :=
  fun t => ⟨(h t).distinct, fun w hw b hb => (h t).unused w hw b (mem_of_mem_filter hb)⟩

theorem sameExcept_withRow (hr : row.userID = some u) :
    SameExcept u db (withRow (without db u) row) := by
  refine ⟨rfl, fun s => ?_⟩
  by_cases hs : s = t
  · subst hs
    rw [withRow_bindings_self, filter_append, sameExcept_without.others]
    simp [hr]
  · rw [withRow_bindings_of_ne hs, sameExcept_without.others]

theorem valid_withRow {id} (h : Valid db) (hid : ∀ b ∈ db.bindings t, b.id ≠ id)
    (hf : ∀ b ∈ db.bindings t, b.group = "" → w.isOf b → b.userID = some u)
    (hre : references db (groupSyncRow u id w)) :
    Valid (withRow (without db u) (groupSyncRow u id w)) := by
  refine ⟨fun s => (sameExcept_withRow rfl).tableValid ?_, h.mappings⟩
  have hrest : TableValid db ((without db u).bindings s) := (h.tables s).sublist filter_sublist
  by_cases hs : s = t
  · subst hs
    rw [withRow_bindings_self]
    have hot : ∀ b ∈ (without db u).bindings s, b ∈ db.bindings s ∧ b.userID ≠ some u :=
      fun b hb => ⟨mem_of_mem_filter hb, bne_iff_ne.mp (mem_filter.mp hb).2⟩
    refine hrest.append (fun b hb => hid b (hot b hb).1)
      (fun b hb => (hot b hb).2) (fun b hb hk => (hot b hb).2 ?_) hre
    refine hf b (hot b hb).1 hk.1 ?_
    simp [Want.isOf, hk.2.1, hk.2.2, groupSyncRow]
  · rwa [withRow_bindings_of_ne hs]

theorem fresh_withRow {id} (h : chance.Fresh call db)
    (hid : ∀ x ∈ wanted db call t, id ≠ chance.newID t x) :
    chance.Fresh call (withRow (without db u) (groupSyncRow u id w)) := by
  intro s
  refine ⟨(h s).distinct, fun x hx b hb => ?_⟩
  by_cases hs : s = t
  · subst hs
    rw [withRow_bindings_self] at hb
    rcases mem_append.mp hb with hb | hb
    · exact (h s).unused x hx b (mem_of_mem_filter hb)
    · rw [mem_singleton.mp hb]
      exact hid x hx
  · rw [withRow_bindings_of_ne hs] at hb
    exact (h s).unused x hx b (mem_of_mem_filter hb)

/-- **When users do not interfere**: exactly when there is nothing for `u` to affect in the
sync of the other user. -/
theorem users_independent_iff (hvalid : Valid db) (hu : u ≠ call.userID)
    (hexists : userExists db u) (hfresh : chance.Fresh call db)
    (hspare : Spare chance call db) :
    Independent chance call u db ↔ Unaffected call u db := by
  refine ⟨fun hi => ?_, fun h => h.independent hvalid hu hfresh⟩
  by_contra ha
  simp only [Unaffected, not_or, not_exists, not_and, not_forall, Bool.not_eq_false, ne_eq,
    Decidable.not_not] at ha
  obtain ⟨hr, ⟨t, hpd⟩, hfr⟩ := ha
  obtain ⟨w, hw⟩ := exists_mem_of_ne_nil _ hpd
  obtain ⟨id, hid, hd⟩ := hspare t
  -- without `u` every pending row can be inserted
  have hgr : Grantable (without db u) call := by
    intro s x hx
    rw [sameExcept_without.pending_eq hu] at hx
    refine ⟨?_, (hfr s x hx).1⟩
    rw [taken, any_eq_false]
    intro b hb hk
    simp only [Bool.and_eq_true, beq_iff_eq] at hk
    have hus := (hfr s x hx).2 b (mem_of_mem_filter hb) hk.1 hk.2
    exact bne_iff_ne.mp (mem_filter.mp hb).2 hus
  -- with one row of `u` one of them cannot
  have hre : references db (groupSyncRow u id w) := by
    have hv := (hfr t w hw).1
    simp only [references, groupSyncRow, Option.all_some, Bool.and_eq_true] at hv ⊢
    exact ⟨⟨⟨hexists, hv.1.1.2⟩, hv.1.2⟩, hv.2⟩
  have hs : SameExcept u db (withRow (without db u) (groupSyncRow u id w)) := sameExcept_withRow rfl
  have hrf : ¬ Grantable (withRow (without db u) (groupSyncRow u id w)) call := by
    intro h
    have ht := (h t w (by rwa [hs.pending_eq hu])).1
    rw [withRow_bindings_self, taken, any_append] at ht
    simp [groupSyncRow, Want.isOf] at ht
  have hr' : call.runs db := hr
  have hvalid2 := valid_withRow hvalid hid (hfr t w hw).2 hre
  have hfresh2 : chance.Fresh call (withRow (without db u) (groupSyncRow u id w)) :=
    fresh_withRow hfresh hd
  have hf := (hi _ (valid_without hvalid) sameExcept_without (fresh_without hfresh)).1
  have hsc := (hi _ hvalid2 hs hfresh2).1
  have hok := (syncUserGroups_ok_iff (valid_without hvalid) (fresh_without hfresh)
    (sameExcept_without.runs_eq.trans hr')).mpr hgr
  exact hrf ((syncUserGroups_ok_iff hvalid2 hfresh2 (hs.runs_eq.trans hr')).mp
    (hsc.mp (hf.mpr hok)))

end

/-! ## Two members of one group -/

namespace TwoMembers

def first : UUID := .ones

def second : UUID := .twos

def roleID : UUID := .threes

def firstRow : UUID := .fours

def secondRow : UUID := .fives

def spareRow : UUID := .sixes

def database (rows : List (Binding .global)) : Database where
  users := [{ id := first }, { id := second }]
  roles := fun _ => [{ id := roleID, name := "operator", rules := .ok [] }]
  bindings := fun
    | .global => rows
    | _ => []
  mappings := [{ groupName := "ops", scope := .global, scopeID := (), roleID := roleID }]

def synced (user id : UUID) : Binding .global :=
  { id := id, userID := some user, roleID := roleID, scopeID := (), source := .groupSync }

def call : SyncCall := { userID := second, connectorID := none, groups := ["ops"] }

def chance : Chance := ⟨fun _ _ => secondRow, fun _ ws => ws, fun _ _ => List.Perm.refl _⟩

theorem valid_database {rows} (h : TableValid (database rows) rows) :
    Valid (database rows) := by
  refine ⟨fun t => ?_, fun m hm => ?_⟩
  · cases t with
    | global => exact h
    | cluster | project => exact ⟨nodup_nil, .nil, .nil, nofun⟩
  · rw [mem_singleton.mp hm]
    exact ⟨rfl, rfl⟩

theorem fresh_database {rows} (h : ∀ b ∈ rows, b.id ≠ secondRow) :
    chance.Fresh call (database rows) := by
  -- the wanted keys do not depend on the rows
  have hds : ∀ t, (wanted (database []) call t).Pairwise fun w x =>
      chance.newID t w ≠ chance.newID t x := fun t => by
    cases t <;> decide +kernel
  intro t
  cases t with
  | global => exact ⟨hds .global, fun _ _ => h⟩
  | cluster => exact ⟨hds .cluster, nofun⟩
  | project => exact ⟨hds .project, nofun⟩

theorem spare_database {rows} (h : ∀ b ∈ rows, b.id ≠ spareRow) :
    Spare chance call (database rows) := by
  have hd : spareRow ≠ secondRow := by decide +kernel
  refine fun t => ⟨spareRow, ?_, fun _ _ => hd⟩
  cases t with
  | global => exact h
  | cluster | project => exact nofun

end TwoMembers

open TwoMembers in
/-- A member who already holds what the group gives does not depend on the other. -/
theorem holder_independent : wanted (database [synced second firstRow]) call .global ≠ [] ∧
      Independent chance call first (database [synced second firstRow]) := by
  refine ⟨by decide +kernel, (users_independent_iff (valid_database ?_) (by decide +kernel)
    (by decide +kernel) (fresh_database (by decide +kernel))
      (spare_database (by decide +kernel))).mpr (.inr (.inl fun t => ?_))⟩
  · exact ⟨by decide +kernel, by decide +kernel, by decide +kernel, by decide +kernel⟩
  · cases t <;> decide +kernel

open TwoMembers in
/-- Two members of one group: while the first holds the role, the sync of the second
fails; without the first it succeeds. -/
theorem second_member_refused : Valid (database [synced first firstRow]) ∧
      (syncUserGroups chance call (database [])).isOk ∧
      (syncUserGroups chance call (database [synced first firstRow])).isOk = false ∧
      ¬ Independent chance call first (database [synced first firstRow]) := by
  have hok : (syncUserGroups chance call (database [])).isOk = true := by decide +kernel
  have hf : (syncUserGroups chance call (database [synced first firstRow])).isOk = false := by
    decide +kernel
  refine ⟨valid_database ⟨by decide +kernel, by decide +kernel, by decide +kernel,
    by decide +kernel⟩, hok, hf, fun hi => ?_⟩
  have hs : SameExcept first (database [synced first firstRow]) (database []) :=
    ⟨rfl, fun t => by cases t <;> decide +kernel⟩
  have hv : Valid (database []) := valid_database ⟨nodup_nil, .nil, .nil, nofun⟩
  have ho := (hi _ hv hs (fresh_database nofun)).1
  cases hsy : syncUserGroups chance call (database []) with
  | error err =>
    rw [hsy] at hok
    cases hok
  | ok r =>
    obtain ⟨r', hr'⟩ := ho.mpr ⟨r, hsy⟩
    rw [hr'] at hf
    cases hf

end Astronomer.Auth
