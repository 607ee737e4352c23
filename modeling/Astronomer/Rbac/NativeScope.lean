import Astronomer.Rbac.Bindings

/-!
# Native grants and the scope of their bindings

A native rule copies the cluster and the namespace of its binding, and both are empty for a
project binding as they are for a global one. So what a project role grants natively it
grants on every cluster.
-/

namespace Astronomer.Rbac

def Database.Owns (db : Database) (projectID clusterID namespaceName : String) : Prop :=
  ∃ row ∈ db.projectNamespaces, row.projectID.text = projectID ∧ row.clusterID.text = clusterID ∧
    row.namespaceName = namespaceName
deriving Decidable

/-- The scope of a binding, by its kind: a global binding covers everything, a cluster
binding its cluster or one namespace of it, a project binding what the project owns. -/
def RoleBinding.Covers (db : Database) (b : RoleBinding)
    (clusterID namespaceName : String) : Prop :=
  match b.scope with
  | none => False
  | some .global => True
  | some .cluster => b.clusterID = clusterID ∧
      (b.namespaceName = "" ∨ b.namespaceName = namespaceName)
  | some .project => db.Owns b.projectID clusterID namespaceName

instance (db : Database) (b : RoleBinding) (clusterID namespaceName : String) :
    Decidable (b.Covers db clusterID namespaceName) := by
  unfold RoleBinding.Covers
  split <;> infer_instance

def NativeWithinScope (fold : String → String) (db : Database)
    (bindings : List RoleBinding) : Prop :=
  ∀ clusterID namespaceName apiGroup resource verb,
    nativeAllow fold (nativeRulesFromBindings fold bindings) clusterID namespaceName apiGroup
        resource verb →
      ∃ b ∈ bindings, b.isSuperuser = false ∧
        b.grantsNative fold apiGroup resource verb ∧ b.Covers db clusterID namespaceName

def ProjectGrantsAreGlobal (fold : String → String) (bindings : List RoleBinding) : Prop :=
  ∀ p ∈ bindings, p.scope = some .project → ∀ apiGroup resource verb,
    nativeRefused fold apiGroup verb = false → p.grantsNative fold apiGroup resource verb →
      ∃ b ∈ bindings, b.scope = some .global ∧ b.grantsNative fold apiGroup resource verb

section

variable {fold : String → String} {env : Env} {userID clusterID namespaceName : String}
  {bindings : List RoleBinding} {b : RoleBinding}

theorem RoleBinding.Shape.global_of_covers_empty (h : b.Shape)
    (hcv : b.Covers env.db "" namespaceName) : b.scope = some .global := by
  cases h with
  | superuser _ hsc => simp [Covers, hsc] at hcv
  | global _ hsc => exact hsc
  | cluster _ hsc id hcl =>
    simp only [Covers, hsc, hcl] at hcv
    exact absurd hcv.1 UUID.text_ne_empty
  | project _ hsc =>
    simp only [Covers, hsc] at hcv
    obtain ⟨row, -, -, hr, -⟩ := hcv
    exact absurd hr UUID.text_ne_empty

theorem RoleBinding.Shape.covers_of_reach (h : b.Shape) (hs : b.isSuperuser = false)
    (hpj : b.scope ≠ some .project) (hr : b.NativeReach clusterID namespaceName) :
    b.Covers env.db clusterID namespaceName := by
  cases h with
  | superuser htr => simp [hs] at htr
  | global _ hsc => simp [Covers, hsc]
  | cluster _ hsc id hcl =>
    simp only [Covers, hsc]
    refine ⟨hr.1.resolve_left fun he => ?_, hr.2⟩
    exact UUID.text_ne_empty (hcl ▸ he)
  | project _ hsc => exact absurd hsc hpj

theorem RoleBinding.Shape.reach_of_project (h : b.Shape) (hpj : b.scope = some .project) :
    b.isSuperuser = false ∧ b.NativeReach clusterID namespaceName := by
  cases h with
  | project hs _ hcl _ _ hns => exact ⟨hs, .inl hcl, .inl hns⟩
  | superuser _ hsc | global _ hsc | cluster _ hsc => simp [hsc] at hpj

/-- **When native grants stay within the scope of their bindings**, for every list that
`loadUserBindings` returns: exactly when every native grant of a project role is also
a grant of a global role of the user. -/
theorem native_within_scope_iff (h : env.loadUserBindings userID = .ok bindings) :
    NativeWithinScope fold env.db bindings ↔ ProjectGrantsAreGlobal fold bindings := by
  have hsh := loadUserBindings_shape h
  constructor
  · intro hw p hp hpj apiGroup resource verb hrf hgs
    obtain ⟨hs, hr⟩ := ((hsh p hp).reach_of_project hpj : _ ∧ p.NativeReach "" "")
    obtain ⟨b, hb, -, hgr, hcv⟩ := hw "" "" apiGroup resource verb
      (nativeAllow_fromBindings.mpr ⟨hrf, p, hp, hs, hgs, hr⟩)
    exact ⟨b, hb, (hsh b hb).global_of_covers_empty hcv, hgr⟩
  · intro hgl clusterID namespaceName apiGroup resource verb ha
    obtain ⟨hrf, b, hb, hs, hgs, hr⟩ := nativeAllow_fromBindings.mp ha
    by_cases hpj : b.scope = some .project
    · obtain ⟨g, hg, hsc, hgr⟩ := hgl b hb hpj apiGroup resource verb hrf hgs
      refine ⟨g, hg, ?_, hgr, ?_⟩
      · cases hsh g hg with
        | superuser _ hu => simp [hsc] at hu
        | global hs | cluster hs | project hs => exact hs
      · simp [RoleBinding.Covers, hsc]
    · exact ⟨b, hb, hs, hgs, (hsh b hb).covers_of_reach hs hpj hr⟩

end

/-! ## A member of one project -/

namespace OneMember

def fold (s : String) : String :=
  let cs := (s.toList.dropWhile Char.isWhitespace).reverse.dropWhile Char.isWhitespace
  String.ofList (cs.reverse.map Char.toLower)

def member : UUID := .ones

def project : UUID := .twos

def cluster : UUID := .threes

def otherCluster : UUID := .fours

def roleID : UUID := .fives

def bindingID : UUID := .sixes

def certificates : Role :=
  { id := roleID, name := "certificates"
    rules :=
      .ok [{ resource := "certificates", verbs := ["get"], apiGroups := ["cert-manager.io"] }] }

def projectMember : Env where
  db :=
    { users := [{ id := member }], roles := fun _ => [certificates]
      bindings := fun
        | .project =>
            [{ id := bindingID, userID := some member, roleID := roleID, scopeID := project }]
        | _ => []
      projectNamespaces := [⟨project, cluster, "team-a"⟩] }
  parse := UUID.ofText?
  parse_text := UUID.ofText?_text

def clusterMember : Env where
  db :=
    { users := [{ id := member }], roles := fun _ => [certificates]
      bindings := fun
        | .cluster =>
          [{ id := bindingID, userID := some member, roleID := roleID, scopeID := cluster
             namespaceName := "team-a" }]
        | _ => [] }
  parse := UUID.ofText?
  parse_text := UUID.ofText?_text

def bindings (env : Env) : List RoleBinding :=
  (env.loadUserBindings member.text).toOption.getD []

end OneMember

open OneMember in
/-- The cluster binding reads certificates in its namespace, and nowhere else. -/
theorem clusterMember_within_scope :
    nativeAllow fold (nativeRulesFromBindings fold (bindings clusterMember)) cluster.text "team-a"
        "cert-manager.io" "certificates" "read" ∧
      NativeWithinScope fold clusterMember.db (bindings clusterMember) :=
  ⟨by decide +kernel, (native_within_scope_iff (show clusterMember.loadUserBindings member.text =
        .ok (bindings clusterMember) by decide +kernel)).mpr fun p hp hpj =>
      absurd hpj ((by decide +kernel : ∀ p ∈ bindings clusterMember, p.scope ≠ some .project) p hp)⟩

open OneMember in
/-- The project binding reads certificates in `kube-system` of a cluster the project
has nothing on. -/
theorem projectMember_exceeds_scope :
    projectMember.loadUserBindings member.text = .ok (bindings projectMember) ∧
      nativeAllow fold (nativeRulesFromBindings fold (bindings projectMember)) otherCluster.text
        "kube-system" "cert-manager.io" "certificates" "read" ∧
      ¬ NativeWithinScope fold projectMember.db (bindings projectMember) := by
  have ha : nativeAllow fold (nativeRulesFromBindings fold (bindings projectMember))
      otherCluster.text "kube-system" "cert-manager.io" "certificates" "read" := by
    decide +kernel
  refine ⟨by decide +kernel, ha, fun hw => ?_⟩
  obtain ⟨b, hb, -, -, hcv⟩ := hw _ _ _ _ _ ha
  exact (by decide +kernel : ∀ b ∈ bindings projectMember,
    ¬ b.Covers projectMember.db otherCluster.text "kube-system") b hb hcv

end Astronomer.Rbac
