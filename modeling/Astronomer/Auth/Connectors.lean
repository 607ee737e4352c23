import Astronomer.Auth.Independence
import Astronomer.Base.Run

/-!
# Logins through several connectors

A binding is unique for its user, role and scope, but owned by the connector whose sync
inserted it. A second connector that grants the same role is skipped, and a later sync
through the owner may delete the row.
-/

namespace Astronomer.Auth

open List Rbac

/-! ## Logins -/

structure Login where
  connectorID : UUID
  groups : List String
  claimsAvailable : Bool := true
  chance : Chance

def Login.call (userID : UUID) (l : Login) : SyncCall :=
  { userID := userID, connectorID := some l.connectorID, groups := l.groups
    claimsAvailable := l.claimsAvailable }

structure LoginState where
  db : Database
  last : UUID → Option (List String) := fun _ => none

def LoginState.login (userID : UUID) (s : LoginState) (l : Login) : LoginState :=
  match syncUserGroups l.chance (l.call userID) s.db with
  | .error _ => s
  | .ok (result, db) =>
    if result.skipped then s
    else { db := db, last := Function.update s.last l.connectorID (some l.groups) }

def isRoleOf {t : Scope} (m : GroupMapping) (b : Binding t) : Bool := (wantOf t m).any (·.isOf b)

def Grants (connectorID : UUID) (groups : List String) (m : GroupMapping) : Prop :=
  m.connectorID = some connectorID ∧ m.groupName ≠ "" ∧ m.groupName ∈ groups

def HoldsRole (userID : UUID) (db : Database) (m : GroupMapping) : Prop :=
  ∃ b ∈ db.bindings m.scope, b.userID = some userID ∧ isRoleOf m b

def LoginState.HoldsGranted (userID : UUID) (s : LoginState) : Prop :=
  ∀ connectorID groups, s.last connectorID = some groups →
    ∀ m ∈ s.db.mappings, Grants connectorID groups m → HoldsRole userID s.db m

/-- The login withdraws no role of another connector: a synced binding that the connector
owns, or no connector, and that is to a role another connector's last sync grants, is granted
by this login too. -/
def LoginState.WithdrawsNoOther (userID : UUID) (s : LoginState) (l : Login) : Prop :=
  ∀ other groups, other ≠ l.connectorID → s.last other = some groups →
    ∀ m ∈ s.db.mappings, Grants other groups m →
      ∀ b ∈ s.db.bindings m.scope, b.userID = some userID → isRoleOf m b →
        b.source = .groupSync →
        (b.groupSyncConnectorID = some l.connectorID ∨ b.groupSyncConnectorID = none) →
          ∃ m' ∈ s.db.mappings, Grants l.connectorID l.groups m' ∧ isRoleOf m' b

/-! ## Wanted roles -/

section

variable {t : Scope} {db : Database} {call : SyncCall} {b : Binding t} {userID : UUID}

theorem any_isOf_wanted (b : Binding t) (ws xs : List (Want t)) : ((xs.foldl (fun ws w =>
        if ws.any fun x => x.roleID == w.roleID && x.scopeID == w.scopeID then ws
        else ws ++ [w]) ws).any (·.isOf b)) = (ws.any (·.isOf b) || xs.any (·.isOf b)) := by
  induction xs generalizing ws with
  | nil => simp
  | cons w xs ih =>
    rw [foldl_cons, ih, any_cons]
    split
    next hd =>
      obtain ⟨x, hx, hk⟩ := any_eq_true.mp hd
      have hs : w.isOf b = true → ws.any (·.isOf b) = true := fun hw =>
        any_eq_true.mpr ⟨x, hx, (Want.isOf_of_sameKey (show w.sameKey x = true from hk)).trans hw⟩
      cases hw : w.isOf b with
      | false => simp
      | true => simp [hs hw]
    · simp [Bool.or_assoc]

theorem exists_wanted_iff : (∃ w ∈ wanted db call t, w.isOf b) ↔
      ∃ m ∈ db.mappings, (m.connectorID = call.connectorID ∨ m.connectorID = none) ∧
        m.groupName ≠ "" ∧ m.groupName ∈ call.groups ∧ isRoleOf m b := by
  rw [← any_eq_true, wanted, any_isOf_wanted b []]
  simp only [any_nil, Bool.false_or, any_eq_true, mem_filterMap, mem_filter,
    mappingsForConnector, Bool.or_eq_true, beq_iff_eq, Bool.and_eq_true, bne_iff_ne,
    contains_iff_mem, isRoleOf, Option.any_eq_true]
  constructor
  · rintro ⟨w, ⟨m, ⟨⟨hm, hc⟩, hnm, hg⟩, hw⟩, hof⟩
    exact ⟨m, hm, hc, hnm, hg, w, hw, hof⟩
  · rintro ⟨m, hm, hc, hnm, hg, w, hw, hof⟩
    exact ⟨w, ⟨m, ⟨⟨hm, hc⟩, hnm, hg⟩, hw⟩, hof⟩

/-! ## One sync -/

theorem insertWanted_ok {newID : Want t → UUID} {w : Want t}
    {st st' : List (Binding t) × List (Binding t × Want t)}
    (h : insertWanted db userID newID st w = .ok st') :
    (st' = st ∧ holds userID st.1 w) ∨
      (∀ b ∈ st.1, b.id ≠ newID w) ∧ st' = (st.1 ++ [groupSyncRow userID (newID w) w],
        st.2 ++ [(groupSyncRow userID (newID w) w, w)]) := by
  unfold insertWanted createGroupSyncBinding at h
  cases hh : holds userID st.1 w with
  | true => exact .inl ⟨by simpa [hh, eq_comm] using h, rfl⟩
  | false =>
    right
    cases hid : st.1.any (·.id == newID w) with
    | true => simp [hh, groupSyncRow, hid] at h
    | false =>
      refine ⟨by simpa using hid, ?_⟩
      cases ht : taken st.1 w <;> grind [groupSyncRow]

/-- The table while rows are inserted: the rows that were kept, and one row for each of
some wanted keys. -/
structure Inserting (db : Database) (call : SyncCall) (t : Scope)
    (st : List (Binding t) × List (Binding t × Want t)) : Prop where
  rows : st.1 = keptRows db call t ++ st.2.map Prod.fst
  ids : (st.1.map (·.id)).Nodup
  added : ∀ x ∈ st.2, x.2 ∈ wanted db call t ∧ ∃ id, x.1 = groupSyncRow call.userID id x.2

theorem mem_keptRows : b ∈ keptRows db call t ↔ b ∈ db.bindings t ∧
      b ∉ stale call.userID call.connectorID (wanted db call t) (db.bindings t) := by
  simp [keptRows]

theorem Inserting.insertWanted {newID : Want t → UUID} {w : Want t}
    {st st' : List (Binding t) × List (Binding t × Want t)} (h : Inserting db call t st)
    (hw : w ∈ wanted db call t)
    (hok : insertWanted db call.userID newID st w = .ok st') : Inserting db call t st' := by
  rcases insertWanted_ok hok with ⟨rfl, -⟩ | ⟨hf, rfl⟩
  · exact h
  · refine ⟨by simp [h.rows], ?_, fun x hx => ?_⟩
    · rw [map_append, map_singleton]
      refine nodup_append.mpr ⟨h.ids, nodup_singleton _, fun i hi j hj => ?_⟩
      obtain ⟨b, hb, rfl⟩ := mem_map.mp hi
      rw [mem_singleton.mp hj]
      exact hf b hb
    · rcases mem_append.mp hx with hx | hx
      · exact h.added x hx
      · obtain rfl := mem_singleton.mp hx
        exact ⟨hw, _, rfl⟩

theorem reconcile_ok {chance : Chance} {d : Diff t} (hi : ((db.bindings t).map (·.id)).Nodup)
    (h : reconcile db call chance t = .ok d) :
    d.removed = stale call.userID call.connectorID (wanted db call t) (db.bindings t) ∧
    Inserting db call t (d.rows, d.added) ∧
    ∀ w ∈ wanted db call t, holds call.userID d.rows w := by
  simp only [reconcile, bind_eq_ok, pure_eq_ok, foldl_delete_stale hi] at h
  obtain ⟨⟨rows, added⟩, hlp, rfl⟩ := h
  have hwn : ∀ w ∈ (chance.order t (wanted db call t)).filter fun w =>
      !seen call.userID call.connectorID (db.bindings t) w, w ∈ wanted db call t := fun w hw =>
    (chance.order_perm t _).subset (mem_of_mem_filter hw)
  have hin : Inserting db call t (rows, added) :=
    foldlM_invariant (fun _ _ w hw hP hstep => hP.insertWanted (hwn w hw) hstep) hlp
      ⟨(append_nil _).symm, (filter_sublist.map _).nodup hi, by simp⟩
  refine ⟨rfl, hin, fun w hw => ?_⟩
  cases hsn : seen call.userID call.connectorID (db.bindings t) w with
  | true =>
    obtain ⟨b, hb, hof⟩ := any_eq_true.mp hsn
    obtain ⟨hmem, hus, -⟩ := mem_groupSyncBindings.mp hb
    refine any_eq_true.mpr ⟨b, ?_, by simp [hus, hof]⟩
    rw [show rows = _ from hin.rows]
    refine mem_append_left _ (mem_keptRows.mpr ⟨hmem, fun hst => ?_⟩)
    rw [(mem_stale.mp hst).2 w hw] at hof
    cases hof
  | false =>
    refine foldlM_forall_mem (P := fun _ => True) (Q := fun w st => holds call.userID st.1 w = true)
      (fun _ _ _ _ _ _ => trivial) (fun _ _ x _ _ hstep => ?_)
      (fun _ _ x _ _ hQ hstep => ?_) hlp trivial w ?_
    · rcases insertWanted_ok hstep with ⟨rfl, hh⟩ | ⟨-, rfl⟩
      · exact hh
      · simp [holds, groupSyncRow, Want.isOf]
    · rcases insertWanted_ok hstep with ⟨rfl, -⟩ | ⟨-, rfl⟩
      · exact hQ
      · simp only [holds, any_append, Bool.or_eq_true] at hQ ⊢
        exact .inl hQ
    · exact mem_filter.mpr
        ⟨(chance.order_perm t (wanted db call t)).symm.subset hw, by simp [hsn]⟩

end

/-! ## A run of logins -/

section

variable {userID : UUID} {s : LoginState} {l : Login} {m : GroupMapping}

theorem LoginState.login_cases (userID : UUID) (s : LoginState) (l : Login) :
    s.login userID l = s ∨ ∃ db, s.login userID l =
        { db := db, last := Function.update s.last l.connectorID (some l.groups) } ∧
      db.mappings = s.db.mappings ∧
      ∀ t, ∃ d, reconcile s.db (l.call userID) l.chance t = .ok d ∧ db.bindings t = d.rows := by
  unfold LoginState.login
  cases hs : syncUserGroups l.chance (l.call userID) s.db with
  | error err => exact .inl rfl
  | ok result =>
    obtain ⟨result, db⟩ := result
    cases hsk : result.skipped with
    | true => exact .inl (by simp [hsk])
    | false =>
      refine .inr ⟨db, by simp [hsk], ?_⟩
      cases hr : (l.call userID).runs s.db with
      | true =>
        refine ⟨?_, bindings_of_syncUserGroups hr hs⟩
        obtain ⟨g, -, c, -, p, -, hrs⟩ := (syncUserGroups_of_runs hr).mp hs
        rw [← (Prod.mk.inj hrs).2]
        rfl
      | false =>
        -- the call fails before the tables, unless there are no claims
        obtain ⟨hn, hc⟩ := (syncUserGroups_of_not_runs hr).1.mp ⟨_, hs⟩
        have hsp : syncUserGroups l.chance (l.call userID) s.db =
            .ok ({ skipped := true }, s.db) := by
          simp only [syncUserGroups, bne_iff_ne.mpr hn, hc, require_true, Bool.not_false, if_true]
          rfl
        obtain ⟨rfl, -⟩ := Prod.mk.inj (Except.ok.inj (hs.symm.trans hsp))
        cases hsk

theorem HoldsRole.of_holds {b} {db : Database} {w : Want m.scope} (hm : isRoleOf m b)
    (hw : w.isOf b) (h : holds userID (db.bindings m.scope) w) :
    HoldsRole userID db m := by
  obtain ⟨b', hb', hof⟩ := any_eq_true.mp h
  simp only [Bool.and_eq_true, beq_iff_eq] at hof
  refine ⟨b', hb', hof.1, ?_⟩
  obtain ⟨x, hx, hxb⟩ := (Option.any_eq_true _ _).mp hm
  refine (Option.any_eq_true _ _).mpr ⟨x, hx, ?_⟩
  simp only [Want.isOf, Bool.and_eq_true, beq_iff_eq] at hxb hw hof ⊢
  exact ⟨hof.2.1.trans (hw.1.symm.trans hxb.1), hof.2.2.trans (hw.2.symm.trans hxb.2)⟩

theorem exists_isRoleOf (m : GroupMapping) : ∃ b : Binding m.scope, isRoleOf m b := by
  refine ⟨groupSyncRow UUID.nil UUID.nil ⟨m.roleID, m.scopeID, none, ""⟩, ?_⟩
  simp [isRoleOf, wantOf, Want.isOf, groupSyncRow]

theorem Grants.wanted {t b} {db : Database} (userID : UUID) (h : Grants l.connectorID l.groups m)
    (hm : m ∈ db.mappings) (hb : isRoleOf m b) :
    ∃ w ∈ wanted db (l.call userID) t, w.isOf b :=
  exists_wanted_iff.mpr ⟨m, hm, .inl h.1, h.2.1, h.2.2, hb⟩

theorem LoginState.HoldsGranted.login (hi : ∀ t, ((s.db.bindings t).map (·.id)).Nodup)
    (h : s.HoldsGranted userID) (hl : s.WithdrawsNoOther userID l) :
    (s.login userID l).HoldsGranted userID := by
  rcases s.login_cases userID l with hs | ⟨db, hlg, hmp, ht⟩
  · rwa [hs]
  · rw [hlg]
    intro connectorID groups hls m hm hg
    obtain ⟨d, hd, hrs⟩ := ht m.scope
    obtain ⟨-, hin, hwn⟩ := reconcile_ok (hi m.scope) hd
    replace hm : m ∈ s.db.mappings := hmp ▸ hm
    by_cases hc : connectorID = l.connectorID
    · -- what this login wants is held after it
      subst hc
      obtain rfl : l.groups = groups := by simpa using hls
      obtain ⟨b, hb⟩ := exists_isRoleOf m
      obtain ⟨w, hw, hof⟩ := hg.wanted userID hm hb
      exact HoldsRole.of_holds hb hof (by rw [hrs]; exact hwn w hw)
    · -- what another connector granted was held, and its row is not stale
      have hls : s.last connectorID = some groups := by simpa [Function.update_of_ne hc] using hls
      obtain ⟨b, hb, hus, hr⟩ := h connectorID groups hls m hm hg
      refine ⟨b, ?_, hus, hr⟩
      rw [hrs, show d.rows = _ from hin.rows]
      refine mem_append_left _ (mem_keptRows.mpr ⟨hb, fun hst => ?_⟩)
      obtain ⟨hsy, hn⟩ := mem_stale.mp hst
      obtain ⟨-, -, hsr, how⟩ := mem_groupSyncBindings.mp hsy
      obtain ⟨m', hm', hg', hr'⟩ := hl connectorID groups hc hls m hm hg b hb hus hr hsr how
      obtain ⟨w, hw, hof⟩ := hg'.wanted userID hm' hr'
      rw [hn w hw] at hof
      cases hof

theorem LoginState.ids_login (hi : ∀ t, ((s.db.bindings t).map (·.id)).Nodup) (t : Scope) :
    (((s.login userID l).db.bindings t).map (·.id)).Nodup := by
  rcases s.login_cases userID l with hs | ⟨db, hl, -, ht⟩
  · rw [hs]
    exact hi t
  · obtain ⟨d, hd, hrs⟩ := ht t
    rw [hl, hrs]
    exact (reconcile_ok (hi t) hd).2.1.ids

theorem LoginState.mappings_login : (s.login userID l).db.mappings = s.db.mappings := by
  rcases s.login_cases userID l with hs | ⟨db, hl, hm, -⟩
  · rw [hs]
  · rw [hl]
    exact hm

end

/-- **What a run of logins keeps.** If no login withdraws a role that another connector's
last sync grants, then after every login the user holds all that each connector grants. -/
theorem connectors_keep (userID : UUID) (db : Database)
    (hids : ∀ t, ((db.bindings t).map (·.id)).Nodup) (logins : List Login)
    (hlogins : RunMeets (LoginState.login userID) (LoginState.WithdrawsNoOther userID) { db }
      logins) :
    (run (LoginState.login userID) { db } logins).HoldsGranted userID := by
  have hi := RunMeets.preserves (P := fun s : LoginState =>
      (∀ t, ((s.db.bindings t).map (·.id)).Nodup) ∧ s.HoldsGranted userID)
    (fun s l hs hl => ⟨LoginState.ids_login hs.1, hs.2.login hs.1 hl⟩) hlogins
    ⟨hids, nofun⟩
  exact hi.2

/-! ## Two connectors that grant one role -/

namespace TwoConnectors

def user : UUID := .ones

def okta : UUID := .twos

def github : UUID := .threes

def roleID : UUID := .fours

def row : UUID := .fives

def mapping (connectorID : UUID) : GroupMapping :=
  { connectorID := some connectorID, groupName := "ops", scope := .global, scopeID := ()
    roleID := roleID }

def database : Database where
  users := [{ id := user }]
  connectors := [okta, github]
  roles := fun _ => [{ id := roleID, name := "operator", rules := .ok [] }]
  mappings := [mapping okta, mapping github]

def login (connectorID : UUID) (groups : List String) : Login :=
  { connectorID := connectorID, groups := groups
    chance := { TwoMembers.chance with newID := fun _ _ => row } }

end TwoConnectors

open TwoConnectors in
/-- The second connector takes nothing away from the first. -/
theorem second_connector_keeps : (run (LoginState.login user) { db := database }
      [login okta ["ops"], login github []]).HoldsGranted user := by
  refine connectors_keep user database (by intro t; cases t <;> decide +kernel) _
    ⟨fun _ _ _ hl => (nomatch hl), ?_, trivial⟩
  intro other groups _ _ m hm _ b hb _ _ _ how
  have hsc : m.scope = .global := by
    rw [LoginState.mappings_login] at hm
    simp only [database, mem_cons, not_mem_nil, or_false] at hm
    rcases hm with rfl | rfl <;> rfl
  -- the only row is the first connector's
  have hrs : ∀ b ∈ (LoginState.login user { db := database } (login okta ["ops"])).db.bindings
      .global, b.groupSyncConnectorID = some okta := by decide +kernel
  obtain ⟨connectorID, groupName, scope, scopeID, roleID⟩ := m
  cases hsc
  rw [hrs b hb] at how
  exact absurd how (by decide +kernel)

open TwoConnectors in
/-- Both connectors grant the role, the first no longer does, and the user has lost it. -/
theorem shared_role_lost : ¬(run (LoginState.login user) { db := database }
      [login okta ["ops"], login github ["ops"], login okta []]).HoldsGranted user := by
  intro h
  have hm : mapping github ∈ (run (LoginState.login user) { db := database }
      [login okta ["ops"], login github ["ops"], login okta []]).db.mappings := by
    simp [LoginState.mappings_login, database]
  obtain ⟨b, hb, -⟩ := h github ["ops"] (by decide +kernel) (mapping github) hm
    ⟨rfl, by decide, by decide⟩
  have hn : (run (LoginState.login user) { db := database }
      [login okta ["ops"], login github ["ops"], login okta []]).db.bindings .global = [] := by
    decide +kernel
  exact nomatch hn ▸ hb

end Astronomer.Auth
