import Astronomer.Rbac.Database

/-!
# Group-claim sync

`SyncUserGroups` of `internal/auth/group_sync.go` with the queries of `group_sync.sql`. Its
three blocks are one definition over the scope. The ids the database draws and the order in
which the runtime walks a map are the `Chance` of a call. An insert's `ON CONFLICT` names
only the unique key of user, role and scope; a row that collides with another is an error.
-/

namespace Astronomer.Auth

open Rbac

structure Want (t : Scope) where
  roleID : UUID
  scopeID : t.Key
  connectorID : Option UUID
  groupName : String

variable {t : Scope}

def Want.isOf (w : Want t) (b : Binding t) : Bool := b.roleID == w.roleID && b.scopeID == w.scopeID

structure SyncCall where
  userID : UUID
  connectorID : Option UUID
  groups : List String
  claimsAvailable : Bool := true

/-- What the database and the Go runtime choose during a call: the id of the row
inserted for a key, and the order of the walk over `wanted`. -/
structure Chance where
  newID : (t : Scope) → Want t → UUID
  order : (t : Scope) → List (Want t) → List (Want t)
  order_perm : ∀ t ws, (order t ws).Perm ws

/-! ## Queries -/

variable (db : Database)

def mappingsForConnector (connectorID : Option UUID) : List GroupMapping :=
  db.mappings.filter fun m => m.connectorID == connectorID || m.connectorID == none

def groupSyncBindings (userID : UUID) (connectorID : Option UUID) (rows : List (Binding t)) :
    List (Binding t) :=
  rows.filter fun b =>
    b.userID == some userID && b.source == .groupSync &&
      (b.groupSyncConnectorID == connectorID || b.groupSyncConnectorID == none)

def deleteGroupSyncBinding (rows : List (Binding t)) (id : UUID) : List (Binding t) :=
  rows.filter fun b => !(b.id == id && b.source == .groupSync)

def scopeExists : (t : Scope) → t.Key → Bool
  | .global, _ => true
  | .cluster, id => db.clusters.contains id
  | .project, id => db.projects.contains id

def userExists (id : UUID) : Bool := db.users.any (·.id == id)

def connectorExists (id : Option UUID) : Bool := id.all db.connectors.contains

def references (b : Binding t) : Bool :=
  b.userID.all (userExists db) && (db.roles t).any (·.id == b.roleID) &&
    scopeExists db t b.scopeID && connectorExists db b.groupSyncConnectorID

def groupSyncRow (userID id : UUID) (w : Want t) : Binding t :=
  { id := id, userID := some userID, group := "", roleID := w.roleID, scopeID := w.scopeID
    source := .groupSync, groupSyncConnectorID := w.connectorID }

def holds (userID : UUID) (rows : List (Binding t)) (w : Want t) : Bool :=
  rows.any fun b => b.userID == some userID && w.isOf b

def taken (rows : List (Binding t)) (w : Want t) : Bool :=
  rows.any fun b => b.group == "" && w.isOf b

/-- `CreateGroupSync*BindingForConnector`: nothing on a conflict with the unique key of
user, role and scope, an error on a conflict with another constraint. -/
def createGroupSyncBinding (rows : List (Binding t)) (row : Binding t) (userID : UUID)
    (w : Want t) : Except Err (Option (Binding t)) :=
  if holds userID rows w then .ok none
  else if rows.any (·.id == row.id) then
    .error "duplicate key value violates unique constraint (id)"
  else if taken rows w then
    .error "duplicate key value violates unique constraint (group, role_id)"
  else if references db row then .ok (some row)
  else .error "violates foreign key constraint"

def withSnapshot (call : SyncCall) : Database :=
  { db with
    idpGroups := ⟨call.userID, call.connectorID, call.groups⟩ ::
      db.idpGroups.filter (·.userID != call.userID) }

def upsertUserIDPGroups (call : SyncCall) : Except Err Database :=
  if userExists db call.userID && connectorExists db call.connectorID then
    .ok (withSnapshot db call)
  else .error "group_sync: upsert snapshot: violates foreign key constraint"

/-! ## The sync -/

def wantOf (t : Scope) (m : GroupMapping) : Option (Want t) :=
  if h : m.scope = t then
    some { roleID := m.roleID, scopeID := h ▸ m.scopeID, connectorID := m.connectorID
           groupName := m.groupName }
  else none

def wanted (call : SyncCall) (t : Scope) : List (Want t) :=
  let matched := (mappingsForConnector db call.connectorID).filter fun m =>
    m.groupName != "" && call.groups.contains m.groupName
  (matched.filterMap (wantOf t)).foldl (fun ws w =>
    if ws.any fun x => x.roleID == w.roleID && x.scopeID == w.scopeID then ws else ws ++ [w]) []

structure SyncedBinding where
  scope : Scope
  (bindingID roleID : UUID)
  scopeID : scope.Key
  groupName : String

structure SyncResult where
  added : List SyncedBinding := []
  removed : List SyncedBinding := []
  skipped : Bool := false

structure Diff (t : Scope) where
  (rows removed : List (Binding t))
  added : List (Binding t × Want t)

def scopeName : Scope → String
  | .global => "global"
  | .cluster => "cluster"
  | .project => "project"

def insertWanted (userID : UUID) (newID : Want t → UUID)
    (st : List (Binding t) × List (Binding t × Want t)) (w : Want t) :
    Except Err (List (Binding t) × List (Binding t × Want t)) :=
  match createGroupSyncBinding db st.1 (groupSyncRow userID (newID w) w) userID w with
  | .ok none => .ok st
  | .ok (some row) => .ok (st.1 ++ [row], st.2 ++ [(row, w)])
  | .error err => .error ("group_sync: create " ++ scopeName t ++ ": " ++ err)

def stale (userID : UUID) (connectorID : Option UUID) (ws : List (Want t))
    (rows : List (Binding t)) : List (Binding t) :=
  (groupSyncBindings userID connectorID rows).filter fun b => !ws.any (·.isOf b)

def seen (userID : UUID) (connectorID : Option UUID) (rows : List (Binding t))
    (w : Want t) : Bool :=
  (groupSyncBindings userID connectorID rows).any w.isOf

def reconcile (call : SyncCall) (chance : Chance) (t : Scope) : Except Err (Diff t) := do
  let rows := db.bindings t
  let removed := stale call.userID call.connectorID (wanted db call t) rows
  let kept := removed.foldl (fun rows b => deleteGroupSyncBinding rows b.id) rows
  let missing := (chance.order t (wanted db call t)).filter fun w =>
    !seen call.userID call.connectorID rows w
  let (rows, added) ← missing.foldlM (insertWanted db call.userID (chance.newID t)) (kept, [])
  pure ⟨rows, removed, added⟩

def Diff.result (d : Diff t) : SyncResult :=
  { added := d.added.map fun x => ⟨t, x.1.id, x.2.roleID, x.2.scopeID, x.2.groupName⟩
    removed := d.removed.map fun b => ⟨t, b.id, b.roleID, b.scopeID, ""⟩ }

def syncResult (g : Diff .global) (c : Diff .cluster) (p : Diff .project) : SyncResult :=
  { added := g.result.added ++ c.result.added ++ p.result.added
    removed := g.result.removed ++ c.result.removed ++ p.result.removed }

def withDiffs (g : Diff .global) (c : Diff .cluster) (p : Diff .project) : Database :=
  { db with bindings := fun | .global => g.rows | .cluster => c.rows | .project => p.rows }

def syncUserGroups (chance : Chance) (call : SyncCall) (db : Database) :
    Except Err (SyncResult × Database) := do
  require (call.userID != UUID.nil) "group_sync: user_id is zero"
  if !call.claimsAvailable then pure ({ skipped := true }, db)
  else do
    let db ← upsertUserIDPGroups db call
    let g ← reconcile db call chance .global
    let c ← reconcile db call chance .cluster
    let p ← reconcile db call chance .project
    pure (syncResult g c p, withDiffs db g c p)

def syncCommitted (chance : Chance) (call : SyncCall) (db : Database) : Database :=
  commitOr db ((syncUserGroups chance call db).map Prod.snd)

end Astronomer.Auth
