import Mathlib.Data.Fintype.EquivFin
import Astronomer.Rbac.Bindings

/-!
# The permission engine

`internal/rbac/engine.go`. `checkPermission` decides one request at one scope;
`authorizedNamespaces` and `authorizedScopeIDs` say what a list of bindings opens. The loops
are described once (`…From_spec`), and the agreement theorems compare the two forms.
-/

namespace Astronomer.Rbac

open List

/-! ## One request -/

def matchRule (rule : Rule) (resource verb : String) : Bool :=
  if rule.isCRDGrant then false
  else if rule.resource != "*" && rule.resource != resource then false
  else verbMatches rule.verbs verb

def RoleBinding.grants (b : RoleBinding) (resource verb : String) : Bool :=
  b.roleRules.any fun rule => matchRule rule resource verb

def bindingApplies (b : RoleBinding) (clusterID projectID : UUID) (namespaceName : String) : Bool :=
  if b.namespaceName != "" && b.namespaceName != namespaceName then false
  else if b.namespaceName != "" && b.clusterID == "" && b.projectID == "" then false
  else if b.clusterID == "" && b.projectID == "" then true
  else if b.clusterID != "" && b.clusterID == clusterID.text then true
  else if b.projectID != "" && b.projectID == projectID.text then true
  else false

def checkSuperuser (bindings : List RoleBinding) : Bool := bindings.any (·.isSuperuser)

def checkExplicitPermission (bindings : List RoleBinding) (resource verb : String)
    (clusterID projectID : UUID) (namespaceName : String := "") : Bool :=
  bindings.any fun b =>
    bindingApplies b clusterID projectID namespaceName && b.grants resource verb

def checkPermission (bindings : List RoleBinding) (resource verb : String)
    (clusterID projectID : UUID) (namespaceName : String := "") : Bool :=
  checkSuperuser bindings ||
    checkExplicitPermission bindings resource verb clusterID projectID namespaceName

/-! ## Collections -/

section

variable (resource verb : String)

def authorizedNamespacesFrom (clusterID : UUID) (names : List String) :
    List RoleBinding → Bool × List String
  | [] => (false, names)
  | b :: bs =>
    let isGlobal := b.clusterID == "" && b.projectID == ""
    let clusterMatch := b.clusterID != "" && b.clusterID == clusterID.text
    if !(isGlobal && b.namespaceName == "" || clusterMatch) then
      authorizedNamespacesFrom clusterID names bs
    else if !b.grants resource verb then authorizedNamespacesFrom clusterID names bs
    else if b.namespaceName == "" then (true, [])
    else authorizedNamespacesFrom clusterID (names.insert b.namespaceName) bs

def authorizedNamespaces (bindings : List RoleBinding) (clusterID : UUID) : Bool × List String :=
  if checkSuperuser bindings then (true, [])
  else authorizedNamespacesFrom resource verb clusterID [] bindings

def hasAnyNamespaceAccess (bindings : List RoleBinding) (clusterID : UUID) : Bool :=
  let (all, names) := authorizedNamespaces resource verb bindings clusterID
  all || decide (0 < names.length)

inductive NarrowedClusterPolicy where
  | widen | excluded
deriving DecidableEq

structure ScopeIDs where
  all : Bool := false
  clusterIDs : List UUID := []
  projectIDs : List UUID := []

variable (parse : String → Option UUID) (narrowed : NarrowedClusterPolicy)

def authorizedScopeIDsFrom (clusterIDs projectIDs : List UUID) : List RoleBinding → ScopeIDs
  | [] => { clusterIDs, projectIDs }
  | b :: bs =>
    if !b.grants resource verb then authorizedScopeIDsFrom clusterIDs projectIDs bs
    else if b.clusterID == "" && b.projectID == "" && b.namespaceName == "" then { all := true }
    else if b.clusterID != "" then
      if b.namespaceName != "" && narrowed == .excluded then
        authorizedScopeIDsFrom clusterIDs projectIDs bs
      else
        match parse b.clusterID with
        | some id => authorizedScopeIDsFrom (clusterIDs.insert id) projectIDs bs
        | none => authorizedScopeIDsFrom clusterIDs projectIDs bs
    else if b.projectID != "" then
      match parse b.projectID with
      | some id => authorizedScopeIDsFrom clusterIDs (projectIDs.insert id) bs
      | none => authorizedScopeIDsFrom clusterIDs projectIDs bs
    else authorizedScopeIDsFrom clusterIDs projectIDs bs

def authorizedScopeIDs (bindings : List RoleBinding) : ScopeIDs :=
  if checkSuperuser bindings then { all := true }
  else authorizedScopeIDsFrom resource verb parse narrowed [] [] bindings

end

/-! ## When a binding applies -/

section

variable {b : RoleBinding} {bindings : List RoleBinding} {resource verb ns : String}
  {clusterID projectID c p : UUID}

def RoleBinding.Global (b : RoleBinding) : Prop :=
  b.clusterID = "" ∧ b.projectID = "" ∧ b.namespaceName = ""

theorem bindingApplies_iff : bindingApplies b clusterID projectID ns ↔
      (b.namespaceName = "" ∨ b.namespaceName = ns) ∧
        (b.Global ∨ b.clusterID = clusterID.text ∨ b.projectID = projectID.text) := by
  have hc : "" ≠ clusterID.text := UUID.text_ne_empty.symm
  have hp : "" ≠ projectID.text := UUID.text_ne_empty.symm
  unfold bindingApplies RoleBinding.Global
  by_cases hns : b.namespaceName = "" <;> by_cases hcl : b.clusterID = "" <;>
    by_cases hpj : b.projectID = "" <;> simp [hns, hcl, hpj, hc, hp]

theorem checkPermission_iff (hs : checkSuperuser bindings = false) :
    checkPermission bindings resource verb clusterID projectID ns ↔
      ∃ b ∈ bindings, b.grants resource verb ∧
        bindingApplies b clusterID projectID ns := by
  simp [checkPermission, checkExplicitPermission, hs, and_comm]

/-! ## Namespaces of a cluster -/

def RoleBinding.CoversCluster (b : RoleBinding) (clusterID : UUID) : Prop :=
  b.Global ∨ b.clusterID = clusterID.text

theorem covers_iff : (b.clusterID == "" && b.projectID == "" && b.namespaceName == "" ||
      (b.clusterID != "" && b.clusterID == clusterID.text)) ↔ b.CoversCluster clusterID := by
  have hc : "" ≠ clusterID.text := UUID.text_ne_empty.symm
  unfold RoleBinding.CoversCluster RoleBinding.Global
  by_cases hcl : b.clusterID = "" <;> simp [hcl, hc]

theorem authorizedNamespacesFrom_spec (names : List String) :
    ((authorizedNamespacesFrom resource verb clusterID names bindings).1 ↔
      ∃ b ∈ bindings, b.CoversCluster clusterID ∧ b.grants resource verb ∧
        b.namespaceName = "") ∧
    ((authorizedNamespacesFrom resource verb clusterID names bindings).1 = false → ∀ ns,
      ns ∈ (authorizedNamespacesFrom resource verb clusterID names bindings).2 ↔ ns ∈ names ∨
        ∃ b ∈ bindings, b.CoversCluster clusterID ∧ b.grants resource verb ∧
          b.namespaceName = ns) := by
  induction bindings generalizing names with
  | nil => simp [authorizedNamespacesFrom]
  | cons b bs ih =>
    rw [authorizedNamespacesFrom]
    by_cases hcv : b.CoversCluster clusterID
    · rw [if_neg (by rw [covers_iff.mpr hcv]; simp)]
      cases hg : b.grants resource verb with
      | false => simpa [hg] using ih names
      | true =>
        by_cases hns : b.namespaceName = ""
        · simp [hcv, hg, hns]
        · grind
    · have hs : (!(b.clusterID == "" && b.projectID == "" && b.namespaceName == "" ||
          (b.clusterID != "" && b.clusterID == clusterID.text))) := by
        rw [Bool.not_eq_true', Bool.eq_false_iff]
        exact fun h => hcv (covers_iff.mp h)
      rw [if_pos hs]
      simpa [hcv] using ih names

theorem authorizedNamespaces_all_spec :
    (authorizedNamespaces resource verb bindings clusterID).1 ↔
      checkSuperuser bindings ∨
        ∃ b ∈ bindings, b.CoversCluster clusterID ∧ b.grants resource verb ∧
          b.namespaceName = "" := by
  unfold authorizedNamespaces
  cases checkSuperuser bindings with
  | true => simp
  | false => simpa using (authorizedNamespacesFrom_spec []).1

theorem mem_authorizedNamespaces
    (ha : (authorizedNamespaces resource verb bindings clusterID).1 = false) :
    ns ∈ (authorizedNamespaces resource verb bindings clusterID).2 ↔
      ∃ b ∈ bindings, b.CoversCluster clusterID ∧ b.grants resource verb ∧
        b.namespaceName = ns := by
  unfold authorizedNamespaces at ha ⊢
  cases hs : checkSuperuser bindings with
  | true => simp [hs] at ha
  | false =>
    simp only [hs, Bool.false_eq_true, if_false] at ha ⊢
    simpa using (authorizedNamespacesFrom_spec []).2 ha ns

theorem restricted_of_all_eq_false
    (ha : (authorizedNamespaces resource verb bindings clusterID).1 = false) :
    checkSuperuser bindings = false ∧ ∀ b ∈ bindings, b.CoversCluster clusterID →
      b.grants resource verb → b.namespaceName ≠ "" := by
  have hnot : ¬(authorizedNamespaces resource verb bindings clusterID).1 := by simp [ha]
  rw [authorizedNamespaces_all_spec] at hnot
  push Not at hnot
  exact ⟨by simpa using hnot.1, hnot.2⟩

theorem checkPermission_namespace
    (h : checkPermission bindings resource verb clusterID projectID) :
    checkPermission bindings resource verb clusterID projectID ns := by
  cases hs : checkSuperuser bindings with
  | true => simp [checkPermission, hs]
  | false =>
    obtain ⟨b, hb, hg, hap⟩ := (checkPermission_iff hs).mp h
    refine (checkPermission_iff hs).mpr ⟨b, hb, hg, ?_⟩
    rw [bindingApplies_iff] at hap ⊢
    exact ⟨.inl (hap.1.elim id id), hap.2⟩

theorem bindingApplies_nil_iff (hn : b.projectID ≠ UUID.nil.text) :
    bindingApplies b clusterID .nil ns ↔
      (b.namespaceName = "" ∨ b.namespaceName = ns) ∧ b.CoversCluster clusterID := by
  rw [bindingApplies_iff, RoleBinding.CoversCluster]
  simp [hn]

theorem authorizedNamespaces_all_iff (hn : ∀ b ∈ bindings, b.projectID ≠ UUID.nil.text) :
    (authorizedNamespaces resource verb bindings clusterID).1 ↔
      checkPermission bindings resource verb clusterID .nil := by
  rw [authorizedNamespaces_all_spec]
  cases hs : checkSuperuser bindings with
  | true => simp [checkPermission, hs]
  | false =>
    rw [checkPermission_iff hs]
    simp only [Bool.false_eq_true, false_or]
    refine exists_congr fun b => and_congr_right fun hb => ?_
    rw [bindingApplies_nil_iff (hn b hb), or_self]
    tauto

theorem mem_authorizedNamespaces_iff (hn : ∀ b ∈ bindings, b.projectID ≠ UUID.nil.text)
    (ha : (authorizedNamespaces resource verb bindings clusterID).1 = false) :
    ns ∈ (authorizedNamespaces resource verb bindings clusterID).2 ↔
      checkPermission bindings resource verb clusterID .nil ns := by
  obtain ⟨hs, hp⟩ := restricted_of_all_eq_false ha
  rw [mem_authorizedNamespaces ha, checkPermission_iff hs]
  refine exists_congr fun b => and_congr_right fun hb => ?_
  rw [bindingApplies_nil_iff (hn b hb)]
  -- no binding is for the whole cluster, so one that applies names the namespace
  have := hp b hb
  tauto

theorem checkPermission_of_all
    (ha : (authorizedNamespaces resource verb bindings clusterID).1) :
    checkPermission bindings resource verb clusterID projectID := by
  rcases authorizedNamespaces_all_spec.mp ha with hs | ⟨b, hb, hcv, hg, hns⟩
  · simp [checkPermission, hs]
  · have hap : bindingApplies b clusterID projectID "" :=
      bindingApplies_iff.mpr ⟨.inl hns, hcv.elim .inl fun h => .inr (.inl h)⟩
    simp only [checkPermission, checkExplicitPermission, Bool.or_eq_true, any_eq_true,
      Bool.and_eq_true]
    exact .inr ⟨b, hb, hap, hg⟩

theorem authorizedNamespaces_exact_iff
    (ha : (authorizedNamespaces resource verb bindings clusterID).1 = false) :
    (∀ ns, ns ∈ (authorizedNamespaces resource verb bindings clusterID).2 ↔
      ns ≠ "" ∧ checkPermission bindings resource verb clusterID .nil ns) ↔
    ∀ b ∈ bindings, b.projectID = UUID.nil.text → b.grants resource verb →
      ∃ b' ∈ bindings, b'.CoversCluster clusterID ∧ b'.grants resource verb ∧
        b'.namespaceName = b.namespaceName := by
  obtain ⟨hsp, hp⟩ := restricted_of_all_eq_false ha
  simp only [mem_authorizedNamespaces ha, checkPermission_iff hsp, bindingApplies_iff]
  constructor
  · intro h b hb hn hg
    by_cases hns : b.namespaceName = ""
    · -- the check succeeds in every namespace, but only finitely many are in the allow-set
      obtain ⟨ns, hf⟩ := Infinite.exists_notMem_finset
        (insert "" (bindings.map RoleBinding.namespaceName).toFinset)
      simp only [Finset.mem_insert, mem_toFinset, mem_map, not_or, not_exists] at hf
      obtain ⟨b', hb', -, -, hns'⟩ := (h ns).mpr ⟨hf.1, b, hb, hg, .inl hns, .inr (.inr hn)⟩
      exact absurd ⟨hb', hns'⟩ (hf.2 b')
    · exact (h b.namespaceName).mpr ⟨hns, b, hb, hg, .inr rfl, .inr (.inr hn)⟩
  · intro h ns
    constructor
    · rintro ⟨b, hb, hcv, hg, rfl⟩
      exact ⟨hp b hb hcv hg, b, hb, hg, .inr rfl, hcv.elim .inl fun h => .inr (.inl h)⟩
    · rintro ⟨-, b, hb, hg, hnm, hr⟩
      -- the binding itself covers the cluster, or it has one in its place
      obtain ⟨b', hb', hcv, hg', hs⟩ : ∃ b' ∈ bindings, b'.CoversCluster clusterID ∧
          b'.grants resource verb ∧ b'.namespaceName = b.namespaceName := by
        rcases hr with hgl | hcl | hn
        · exact ⟨b, hb, .inl hgl, hg, rfl⟩
        · exact ⟨b, hb, .inr hcl, hg, rfl⟩
        · exact h b hb hn hg
      refine ⟨b', hb', hcv, hg', hs.trans ?_⟩
      exact hnm.resolve_left (hs ▸ hp b' hb' hcv hg')

/-- **The allow-set is the per-namespace check.** -/
theorem authorizedNamespaces_agrees (bindings : List RoleBinding) (resource verb : String)
    (c : UUID) (ns : String)
    (hnil : ∀ b ∈ bindings, b.projectID ≠ UUID.nil.text) :
    (checkPermission bindings resource verb c .nil ns ↔
      (authorizedNamespaces resource verb bindings c).1 ∨
        ns ∈ (authorizedNamespaces resource verb bindings c).2) ∧
    ((authorizedNamespaces resource verb bindings c).1 ↔
      checkPermission bindings resource verb c .nil) := by
  refine ⟨?_, authorizedNamespaces_all_iff hnil⟩
  cases ha : (authorizedNamespaces resource verb bindings c).1 with
  | true =>
    have hc : checkPermission bindings resource verb c .nil ns :=
      checkPermission_namespace ((authorizedNamespaces_all_iff hnil).mp ha)
    simp [hc]
  | false => simp [mem_authorizedNamespaces_iff hnil ha]

/-! ## Clusters and projects -/

/-- The binding opens the cluster itself: for a cluster binding with a namespace that
depends on the policy. -/
def RoleBinding.OpensCluster (b : RoleBinding) (narrowed : NarrowedClusterPolicy) : Prop :=
  b.clusterID ≠ "" ∧ (b.namespaceName ≠ "" → narrowed = .widen)

def RoleBinding.OpensProject (b : RoleBinding) : Prop := b.clusterID = "" ∧ b.projectID ≠ ""

section

variable {parse : String → Option UUID} {narrowed : NarrowedClusterPolicy}

theorem authorizedScopeIDsFrom_cons (parse : String → Option UUID)
    (narrowed : NarrowedClusterPolicy) (clusterIDs projectIDs : List UUID) (bs : List RoleBinding)
    (hrest : ¬(b.grants resource verb ∧ b.Global)) :
    ∃ clusterIDs' projectIDs',
      authorizedScopeIDsFrom resource verb parse narrowed clusterIDs projectIDs (b :: bs) =
        authorizedScopeIDsFrom resource verb parse narrowed clusterIDs' projectIDs' bs ∧
      (∀ id, id ∈ clusterIDs' ↔ id ∈ clusterIDs ∨ (b.grants resource verb ∧
        b.OpensCluster narrowed ∧ parse b.clusterID = some id)) ∧
      (∀ id, id ∈ projectIDs' ↔ id ∈ projectIDs ∨ (b.grants resource verb ∧
        b.OpensProject ∧ parse b.projectID = some id)) := by
  rw [authorizedScopeIDsFrom]
  unfold RoleBinding.OpensCluster RoleBinding.OpensProject
  cases hg : b.grants resource verb with
  | false => exact ⟨clusterIDs, projectIDs, by simp, by simp, by simp⟩
  | true =>
    by_cases hcl : b.clusterID = ""
    · by_cases hpj : b.projectID = ""
      · have hns : b.namespaceName ≠ "" := fun hns => hrest ⟨hg, hcl, hpj, hns⟩
        exact ⟨clusterIDs, projectIDs, by simp [hcl, hpj, hns], by simp [hcl],
          by simp [hpj]⟩
      · cases hp : parse b.projectID with
        | none =>
          exact ⟨clusterIDs, projectIDs, by simp [hcl, hpj], by simp [hcl],
            by simp⟩
        | some p =>
          exact ⟨clusterIDs, projectIDs.insert p, by simp [hcl, hpj],
            by simp [hcl], by simp [hcl, hpj, or_comm, eq_comm]⟩
    · by_cases hn : b.namespaceName ≠ "" ∧ narrowed = .excluded
      · obtain ⟨hns, rfl⟩ := hn
        exact ⟨clusterIDs, projectIDs, by simp [hcl, hns], by simp [hns], by simp [hcl]⟩
      · have hw : b.namespaceName ≠ "" → narrowed = .widen := by
          intro hns
          cases narrowed with
          | widen => rfl
          | excluded => exact absurd ⟨hns, rfl⟩ hn
        cases hp : parse b.clusterID with
        | none => exact ⟨clusterIDs, projectIDs, by simp [hcl], by simp, by simp [hcl]⟩
        | some c =>
          refine ⟨clusterIDs.insert c, projectIDs, by simp [hcl, hn], fun id => ?_,
            by simp [hcl]⟩
          rw [mem_insert_iff, or_comm, eq_comm, Option.some_inj]
          exact or_congr_right ⟨fun h => ⟨rfl, ⟨hcl, hw⟩, h⟩, fun h => h.2.2⟩

theorem authorizedScopeIDsFrom_spec (resource verb : String) (parse : String → Option UUID)
    (narrowed : NarrowedClusterPolicy) (clusterIDs projectIDs : List UUID)
    (bindings : List RoleBinding) :
    ((authorizedScopeIDsFrom resource verb parse narrowed clusterIDs projectIDs bindings).all =
      true ↔
      ∃ b ∈ bindings, b.grants resource verb ∧ b.Global) ∧
    ((authorizedScopeIDsFrom resource verb parse narrowed clusterIDs projectIDs bindings).all =
      false →
      ∀ id, (id ∈ (authorizedScopeIDsFrom resource verb parse narrowed clusterIDs projectIDs
            bindings).clusterIDs ↔
          id ∈ clusterIDs ∨ ∃ b ∈ bindings, b.grants resource verb ∧
            b.OpensCluster narrowed ∧ parse b.clusterID = some id) ∧
        (id ∈ (authorizedScopeIDsFrom resource verb parse narrowed clusterIDs projectIDs
            bindings).projectIDs ↔
          id ∈ projectIDs ∨ ∃ b ∈ bindings, b.grants resource verb ∧
            b.OpensProject ∧ parse b.projectID = some id)) := by
  induction bindings generalizing clusterIDs projectIDs with
  | nil => simp [authorizedScopeIDsFrom]
  | cons b bs ih =>
    by_cases he : b.grants resource verb ∧ b.Global
    · obtain ⟨hg, hcl, hpj, hns⟩ := he
      simp [authorizedScopeIDsFrom, hcl, hpj, hns, hg, RoleBinding.Global]
    · obtain ⟨clusterIDs', projectIDs', hstep, hc, hp⟩ :=
        authorizedScopeIDsFrom_cons parse narrowed clusterIDs projectIDs bs he
      obtain ⟨ha, hi⟩ := ih clusterIDs' projectIDs'
      rw [hstep]
      refine ⟨by simp [ha, he], fun hff id => ?_⟩
      rw [(hi hff id).1, (hi hff id).2, hc, hp]
      simp [or_assoc]

theorem RoleBinding.Shape.opensCluster_iff (hsh : b.Shape) (hs : b.isSuperuser = false)
    (hp : ∀ u : UUID, parse u.text = some u) :
    b.OpensCluster .excluded ∧ parse b.clusterID = some c ↔
      b.namespaceName = "" ∧ b.clusterID = c.text := by
  have hc : "" ≠ c.text := UUID.text_ne_empty.symm
  cases hsh with
  | superuser h => simp [h] at hs
  | global _ _ hcl | project _ _ hcl => simp [RoleBinding.OpensCluster, hcl, hc]
  | cluster _ _ id hcl =>
    have hid : id = c ↔ id.text = c.text := ⟨congrArg UUID.text, UUID.eq_of_text⟩
    simp [RoleBinding.OpensCluster, hcl, hp, hid, UUID.text_ne_empty]

theorem RoleBinding.Shape.opensProject_iff (hsh : b.Shape) (hs : b.isSuperuser = false)
    (hpr : ∀ u : UUID, parse u.text = some u) :
    b.OpensProject ∧ parse b.projectID = some p ↔
      b.namespaceName = "" ∧ b.projectID = p.text := by
  have hp : "" ≠ p.text := UUID.text_ne_empty.symm
  cases hsh with
  | superuser h => simp [h] at hs
  | global _ _ _ hpj | cluster _ _ _ _ hpj => simp [RoleBinding.OpensProject, hpj, hp]
  | project _ _ hcl id hpj hns =>
    have hid : id = p ↔ id.text = p.text := ⟨congrArg UUID.text, UUID.eq_of_text⟩
    simp [RoleBinding.OpensProject, hcl, hpj, hns, hpr, hid, UUID.text_ne_empty]

/-- **Collections and objects agree.** On loaded bindings the scopes a collection is filtered
by are those in which the check of a single object succeeds. -/
theorem authorizedScopeIDs_agrees (parse : String → Option UUID)
    (hparse : ∀ u : UUID, parse u.text = some u) (bindings : List RoleBinding)
    (hshape : ∀ b ∈ bindings, b.Shape)
    (hnil : ∀ b ∈ bindings, b.clusterID ≠ UUID.nil.text ∧ b.projectID ≠ UUID.nil.text)
    (resource verb : String) (c p : UUID) :
    ((authorizedScopeIDs resource verb parse .excluded bindings).all ↔
      checkPermission bindings resource verb .nil .nil) ∧
    ((authorizedScopeIDs resource verb parse .excluded bindings).all = false →
      (c ∈ (authorizedScopeIDs resource verb parse .excluded bindings).clusterIDs ↔
        checkPermission bindings resource verb c .nil) ∧
      (p ∈ (authorizedScopeIDs resource verb parse .excluded bindings).projectIDs ↔
        checkPermission bindings resource verb .nil p)) := by
  cases hs : checkSuperuser bindings with
  | true => simp [authorizedScopeIDs, checkPermission, hs]
  | false =>
    have hpl : ∀ b ∈ bindings, b.isSuperuser = false := by simpa [checkSuperuser] using hs
    obtain ⟨ha, hi⟩ := authorizedScopeIDsFrom_spec resource verb parse .excluded [] [] bindings
    simp only [not_mem_nil, false_or] at hi
    rw [checkPermission_iff hs, checkPermission_iff hs, checkPermission_iff hs,
      authorizedScopeIDs, hs]
    refine ⟨ha.trans (exists_congr fun b => and_congr_right fun hb => and_congr_right fun _ => ?_),
      fun hff => ?_⟩
    · rw [bindingApplies_iff]
      simp [hnil b hb, RoleBinding.Global]
    · -- nothing is granted globally, so only a binding's own cluster or project remains
      have hp : ∀ b ∈ bindings, b.grants resource verb → ¬b.Global := by
        intro b hb hg hgl
        exact absurd (ha.mpr ⟨b, hb, hg, hgl⟩) (Bool.eq_false_iff.mp hff)
      constructor
      · refine (hi hff c).1.trans
          (exists_congr fun b => and_congr_right fun hb => and_congr_right fun hg => ?_)
        rw [(hshape b hb).opensCluster_iff (hpl b hb) hparse, bindingApplies_iff]
        simp [hnil b hb, hp b hb hg]
      · refine (hi hff p).2.trans
          (exists_congr fun b => and_congr_right fun hb => and_congr_right fun hg => ?_)
        rw [(hshape b hb).opensProject_iff (hpl b hb) hparse, bindingApplies_iff]
        simp [hnil b hb, hp b hb hg]

end

end

/-! ## A tenant of one project -/

namespace Tenant

def cluster : UUID := ⟨"11111111-1111-1111-1111-111111111111", by decide +kernel⟩

def project : UUID := ⟨"22222222-2222-2222-2222-222222222222", by decide +kernel⟩

def rules : List Rule := [{ resource := "pods", verbs := ["list"] }]

def bindings : List RoleBinding :=
  [{ roleRules := rules, scope := some .project, projectID := project.text },
    { roleRules := rules, scope := some .cluster, clusterID := cluster.text,
      namespaceName := "web" }]

def parse (s : String) : Option UUID :=
  if h : canonicalUUID s = true then some ⟨s, h⟩ else none

theorem parse_text (u : UUID) : parse u.text = some u := dif_pos u.canonical

end Tenant

theorem tenant_namespaces :
    checkPermission Tenant.bindings "pods" "list" Tenant.cluster .nil "web" ∧
      checkPermission Tenant.bindings "pods" "list" Tenant.cluster .nil = false := by
  have ha := authorizedNamespaces_agrees Tenant.bindings "pods" "list" Tenant.cluster "web"
    (by decide +kernel)
  exact ⟨ha.1.mpr (by decide +kernel), by decide +kernel⟩

theorem tenant_projects : checkPermission Tenant.bindings "pods" "list" .nil Tenant.project ∧
      checkPermission Tenant.bindings "pods" "list" Tenant.cluster .nil = false := by
  have hsh : ∀ b ∈ Tenant.bindings, b.Shape := by
    intro b hb
    simp only [Tenant.bindings, mem_cons, not_mem_nil, or_false] at hb
    rcases hb with rfl | rfl
    · exact .project rfl rfl rfl Tenant.project rfl rfl
    · exact .cluster rfl rfl Tenant.cluster rfl rfl
  obtain ⟨-, hs⟩ := authorizedScopeIDs_agrees Tenant.parse Tenant.parse_text Tenant.bindings
    hsh (by decide +kernel) "pods" "list" Tenant.cluster Tenant.project
  obtain ⟨hcl, hpj⟩ := hs (by decide +kernel)
  refine ⟨hpj.mp (by decide +kernel), Bool.eq_false_iff.mpr fun h => ?_⟩
  exact absurd (hcl.mpr h) (by decide +kernel)

end Astronomer.Rbac
