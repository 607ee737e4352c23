import Astronomer.Rbac.Database

/-!
# Loading a user's bindings

`loadUserBindings` and `expandProjectBindings`. Each project binding is kept and is also
turned into one synthetic cluster binding for every namespace the project owns, so a list of
bindings holds four shapes (`RoleBinding.Shape`).
-/

namespace Astronomer.Rbac

inductive Query where
  | getUserByID
  | listUserBindingsWithRoles
  | listProjectNamespaces (project : UUID)

/-- What a load reads: the database, which of its calls fail, and `uuid.Parse`, of
which only the round trip through `String` is used. -/
structure Env where
  db : Database
  parse : String → Option UUID
  parse_text : ∀ u : UUID, parse u.text = some u
  fails : Query → Bool := fun _ => false

namespace Env

variable (env : Env)

def ask {α : Type} (q : Query) (answer : α) : Except Err α :=
  if env.fails q then .error "query failed" else .ok answer

variable {env} in
theorem ask_eq_ok {α : Type} {q : Query} {answer a : α} (h : env.ask q answer = .ok a) :
    a = answer := by
  unfold ask at h
  split at h
  · cases h
  · cases h
    rfl

def superuser (id : UUID) : Bool :=
  match env.ask .getUserByID (env.db.users.find? (·.id == id)) with
  | .ok (some user) => user.isSuperuser
  | _ => false

abbrev NamespaceCache := List (String × List ProjectNamespace)

def namespacesOf (cache : NamespaceCache) (projectID : String) :
    Except Err (List ProjectNamespace × NamespaceCache) :=
  match cache.lookup projectID with
  | some rows => .ok (rows, cache)
  | none =>
    match env.parse projectID with
    | none => .ok ([], (projectID, []) :: cache)
    | some id => do
      let rows ← env.ask (.listProjectNamespaces id) (env.db.listProjectNamespaces id)
      pure (rows, (projectID, rows) :: cache)

/-- The synthetic bindings of a project binding. A row without a namespace or a cluster
would widen the scope and is skipped. -/
def synthetic (userID : String) (b : RoleBinding) (rows : List ProjectNamespace) :
    List RoleBinding :=
  (rows.filter fun row => !(row.namespaceName == "" || row.clusterID == UUID.nil)).map fun row =>
    { userID := userID, group := b.group, roleRules := b.roleRules, bindingID := b.bindingID
      roleID := b.roleID, roleName := b.roleName, scope := some .cluster
      clusterID := row.clusterID.text, namespaceName := row.namespaceName }

def expandBinding (userID : String) (st : NamespaceCache × List RoleBinding) (b : RoleBinding) :
    Except Err (NamespaceCache × List RoleBinding) :=
  if b.scope != some .project || b.projectID == "" then .ok st
  else do
    let (rows, cache) ← env.namespacesOf st.1 b.projectID
    pure (cache, st.2 ++ synthetic userID b rows)

def expandProjectBindings (userID : String) (bindings : List RoleBinding) :
    Except Err (List RoleBinding) := do
  let (_, extra) ← bindings.foldlM (env.expandBinding userID) ([], [])
  pure (bindings ++ extra)

end Env

def bindingOf (userID : String) (row : UserBindingRow) : Except Err RoleBinding := do
  let rules ← row.roleRules
  let binding : RoleBinding :=
    { userID := userID, group := row.group, roleRules := rules, bindingID := row.bindingID.text
      roleID := row.roleID.text, roleName := row.roleName, scope := some row.scope }
  pure <| match row.scope with
    | .cluster =>
      { binding with
        clusterID := row.clusterID.elim "" UUID.text, namespaceName := row.namespaceName }
    | .project => { binding with projectID := row.projectID.elim "" UUID.text }
    | .global => binding

def Env.loadUserBindings (env : Env) (userID : String) : Except Err (List RoleBinding) := do
  let id ← orError (env.parse userID) "invalid UUID"
  if env.superuser id then pure [{ userID := userID, isSuperuser := true }]
  else do
    let rows ← env.ask .listUserBindingsWithRoles (env.db.listUserBindingsWithRoles id)
    let results ← rows.mapM (bindingOf userID)
    env.expandProjectBindings userID results

/-! ## The shapes of the bindings -/

/-- What a binding of a loaded list looks like: its ids are those of its scope, and the
ids that are set are texts of UUIDs. -/
inductive RoleBinding.Shape (b : RoleBinding) : Prop where
  | superuser (hsuper : b.isSuperuser) (hscope : b.scope = none)
  | global (hsuper : b.isSuperuser = false) (hscope : b.scope = some .global)
      (hcluster : b.clusterID = "")
      (hproject : b.projectID = "") (hns : b.namespaceName = "")
  | cluster (hsuper : b.isSuperuser = false) (hscope : b.scope = some .cluster) (id : UUID)
      (hcluster : b.clusterID = id.text) (hproject : b.projectID = "")
  | project (hsuper : b.isSuperuser = false) (hscope : b.scope = some .project)
      (hcluster : b.clusterID = "")
      (id : UUID) (hproject : b.projectID = id.text) (hns : b.namespaceName = "")

section

variable {env : Env} {userID : String} {bindings bs : List RoleBinding} {b : RoleBinding}

theorem shape_of_bindingOf {row : UserBindingRow} {user : UUID}
    (hr : row ∈ env.db.listUserBindingsWithRoles user) (h : bindingOf userID row = .ok b) :
    b.Shape := by
  simp only [bindingOf, bind_eq_ok, pure_eq_ok] at h
  obtain ⟨rules, -, rfl⟩ := h
  obtain ⟨t, row, r, rfl⟩ := Database.mem_listUserBindingsWithRoles hr
  cases t with
  | global => exact .global rfl rfl rfl rfl rfl
  | cluster => exact .cluster rfl rfl row.scopeID rfl rfl
  | project => exact .project rfl rfl rfl row.scopeID rfl rfl

theorem expandBinding_shape {st st'} (h : env.expandBinding userID st b = .ok st')
    (hst : ∀ s ∈ st.2, s.Shape) :
    ∀ s ∈ st'.2, s.Shape := by
  unfold Env.expandBinding at h
  split at h
  · cases h
    exact hst
  · simp only [bind_eq_ok, pure_eq_ok] at h
    obtain ⟨⟨rows, cache⟩, -, rfl⟩ := h
    intro s hs
    rcases List.mem_append.mp hs with hs | hs
    · exact hst s hs
    · obtain ⟨row, -, rfl⟩ := List.mem_map.mp hs
      exact .cluster rfl rfl row.clusterID rfl rfl

theorem expandProjectBindings_shape (h : env.expandProjectBindings userID bindings = .ok bs)
    (hbn : ∀ b ∈ bindings, b.Shape) : ∀ b ∈ bs, b.Shape := by
  simp only [Env.expandProjectBindings, bind_eq_ok, pure_eq_ok] at h
  obtain ⟨⟨cache, extra⟩, hf, rfl⟩ := h
  have he : ∀ s ∈ extra, s.Shape :=
    foldlM_invariant (P := fun st : Env.NamespaceCache × List RoleBinding => ∀ s ∈ st.2, s.Shape)
      (fun _ _ _ _ hst hstep => expandBinding_shape hstep hst) hf (by simp)
  exact fun b hb => (List.mem_append.mp hb).elim (hbn b) (he b)

theorem loadUserBindings_shape (h : env.loadUserBindings userID = .ok bs) :
    ∀ b ∈ bs, b.Shape := by
  simp only [Env.loadUserBindings, bind_eq_ok, orError_eq_ok] at h
  obtain ⟨id, -, h⟩ := h
  split at h
  · obtain rfl := pure_eq_ok.mp h
    intro b hb
    obtain rfl := List.mem_singleton.mp hb
    exact .superuser rfl rfl
  · simp only [bind_eq_ok] at h
    obtain ⟨rows, hrs, results, hrl, h⟩ := h
    refine expandProjectBindings_shape h fun b hb => ?_
    obtain ⟨row, hr, hb⟩ := exists_of_mem_mapM hrl hb
    rw [Env.ask_eq_ok hrs] at hr
    exact shape_of_bindingOf hr hb

end

end Astronomer.Rbac
