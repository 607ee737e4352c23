import Astronomer.Base.Except
import Astronomer.Rbac.Types

/-!
# The tables of role bindings

The binding tables differ in the key of what a row is bound to, so a row is a record over its
scope and the three tables are one function of the scope.
-/

namespace Astronomer.Rbac

abbrev Err := String

def Scope.Key : Scope → Type
  | .global => Unit
  | .cluster | .project => UUID

instance : ∀ t : Scope, DecidableEq t.Key
  | .global => inferInstanceAs (DecidableEq Unit)
  | .cluster | .project => inferInstanceAs (DecidableEq UUID)

inductive BindingSource where
  | manual | groupSync | other (name : String)
deriving DecidableEq

structure Binding (t : Scope) where
  id : UUID
  userID : Option UUID
  group : String := ""
  roleID : UUID
  scopeID : t.Key
  namespaceName : String := ""
  source : BindingSource := .manual
  groupSyncConnectorID : Option UUID := none
deriving DecidableEq

/-- A row of `global_roles`, `cluster_roles` or `project_roles`, with what
`decodeRoleRules` makes of its `rules` column. -/
structure Role where
  id : UUID
  name : String
  rules : Except Err (List Rule)

structure User where
  id : UUID
  isSuperuser : Bool := false

structure ProjectNamespace where
  (projectID clusterID : UUID)
  namespaceName : String

/-- A row of `identity_group_mappings`. Its `scope_matches` check is the type of
`scopeID`: a cluster mapping has a cluster, a project mapping a project. -/
structure GroupMapping where
  connectorID : Option UUID := none
  groupName : String
  scope : Scope
  scopeID : scope.Key
  roleID : UUID

structure UserIDPGroups where
  userID : UUID
  connectorID : Option UUID
  groups : List String

structure Database where
  users : List User := []
  clusters : List UUID := []
  projects : List UUID := []
  connectors : List UUID := []
  roles : Scope → List Role := fun _ => []
  bindings : (t : Scope) → List (Binding t) := fun _ => []
  projectNamespaces : List ProjectNamespace := []
  mappings : List GroupMapping := []
  idpGroups : List UserIDPGroups := []

structure UserBindingRow where
  scope : Scope
  bindingID : UUID
  group : String
  roleID : UUID
  (clusterID projectID : Option UUID)
  (namespaceName roleName : String)
  roleRules : Except Err (List Rule)

def userBindingRow : (t : Scope) → Binding t → Role → UserBindingRow
  | .global, b, r =>
    { scope := .global, bindingID := b.id, group := b.group, roleID := b.roleID, clusterID := none
      projectID := none, namespaceName := "", roleName := r.name, roleRules := r.rules }
  | .cluster, b, r =>
    { scope := .cluster, bindingID := b.id, group := b.group, roleID := b.roleID
      clusterID := some b.scopeID, projectID := none, namespaceName := b.namespaceName
      roleName := r.name, roleRules := r.rules }
  | .project, b, r =>
    { scope := .project, bindingID := b.id, group := b.group, roleID := b.roleID, clusterID := none
      projectID := some b.scopeID, namespaceName := "", roleName := r.name, roleRules := r.rules }

def Database.bindingsWithRoles (db : Database) (user : UUID) (t : Scope) : List UserBindingRow :=
  ((db.bindings t).filter (·.userID == some user)).flatMap fun b =>
    ((db.roles t).filter (·.id == b.roleID)).map (userBindingRow t b)

def Database.listUserBindingsWithRoles (db : Database) (user : UUID) : List UserBindingRow :=
  [Scope.global, .cluster, .project].flatMap (db.bindingsWithRoles user)

def Database.listProjectNamespaces (db : Database) (project : UUID) : List ProjectNamespace :=
  db.projectNamespaces.filter (·.projectID == project)

theorem Database.mem_listUserBindingsWithRoles {user row} {db : Database}
    (h : row ∈ db.listUserBindingsWithRoles user) : ∃ t b r, row = userBindingRow t b r := by
  simp only [listUserBindingsWithRoles, bindingsWithRoles, List.mem_flatMap, List.mem_map] at h
  obtain ⟨t, -, b, -, r, -, rfl⟩ := h
  exact ⟨t, b, r, rfl⟩

end Astronomer.Rbac
