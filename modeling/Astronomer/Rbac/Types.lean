import Astronomer.Base.UUID

/-!
# Roles, bindings and native rules

`internal/rbac/types.go` and `native.go`. A rule with API groups is a CRD grant: the engine
skips it, and the Kubernetes proxy honours it after the engine has denied. In a native rule's
scope the empty string means "any". `strings.ToLower(strings.TrimSpace(s))` is `fold`.
-/

namespace Astronomer.Rbac

open List

inductive Scope where
  | global | cluster | project
deriving DecidableEq

structure Rule where
  resource : String := ""
  resources : List String := []
  verbs : List String := []
  apiGroups : List String := []
  apiGroupsCamel : List String := []
deriving DecidableEq

namespace Rule

def crdAPIGroups (r : Rule) : List String :=
  if r.apiGroups.length > 0 then r.apiGroups else r.apiGroupsCamel

def isCRDGrant (r : Rule) : Bool := r.crdAPIGroups.length > 0

def resourceNames (r : Rule) : List String :=
  if r.resource != "" then [r.resource] else r.resources

end Rule

structure RoleBinding where
  userID : String := ""
  group : String := ""
  roleRules : List Rule := []
  bindingID : String := ""
  roleID : String := ""
  roleName : String := ""
  scope : Option Scope := none
  clusterID : String := ""
  projectID : String := ""
  namespaceName : String := ""
  isSuperuser : Bool := false
deriving DecidableEq

/-! ## Native rules -/

structure NativeRule where
  (clusterID namespaceName apiGroup resource : String)
  verbs : List String

def verbMatches (verbs : List String) (verb : String) : Bool :=
  verbs.any fun v => v == "*" || v == verb

section

variable (fold : String → String)

def isPrivilegeEscalationGroup (group : String) : Bool :=
  ["rbac.authorization.k8s.io", "admissionregistration.k8s.io", "apiregistration.k8s.io",
    "apiextensions.k8s.io", "certificates.k8s.io", "authentication.k8s.io"].contains (fold group)

def nativeVerb (raw : String) : Option String :=
  match fold raw with
  | "get" => some "read"
  | "patch" => some "update"
  | "exec" | "logs" | "proxy" => none
  | "" => none
  | v => some v

def normalizeNativeVerbs (verbs : List String) : List String :=
  verbs.foldl (fun out raw =>
    match nativeVerb fold raw with
    | none => out
    | some v => if out.contains v then out else out ++ [v]) []

def nativeRefused (apiGroup verb : String) : Bool :=
  isPrivilegeEscalationGroup fold apiGroup || verb == "exec" || verb == "logs"

def NativeRule.allows (r : NativeRule) (clusterID namespaceName apiGroup resource verb : String) :
    Bool :=
  !(r.clusterID != "" && r.clusterID != clusterID) &&
  !(r.namespaceName != "" && r.namespaceName != namespaceName) &&
  r.apiGroup == apiGroup &&
  !(r.resource != "*" && r.resource != resource) &&
  verbMatches r.verbs verb

def nativeAllow (rules : List NativeRule)
    (clusterID namespaceName apiGroup resource verb : String) : Bool :=
  if nativeRefused fold apiGroup verb then false
  else rules.any fun r => r.allows clusterID namespaceName apiGroup resource verb

def nativeRulesFromRule (b : RoleBinding) (rule : Rule) : List NativeRule :=
  if !rule.isCRDGrant then []
  else
    let verbs := normalizeNativeVerbs fold rule.verbs
    if verbs.length == 0 then []
    else
      rule.crdAPIGroups.flatMap fun group =>
        (rule.resourceNames.filter (· != "")).map fun resource =>
          { clusterID := b.clusterID, namespaceName := b.namespaceName, apiGroup := group
            resource := resource, verbs := verbs }

def nativeRulesFromBindings (bindings : List RoleBinding) : List NativeRule :=
  bindings.flatMap fun b =>
    if b.isSuperuser then [] else b.roleRules.flatMap (nativeRulesFromRule fold b)

/-! ## What a native rule grants -/

def Rule.grantsNative (rule : Rule) (apiGroup resource verb : String) : Bool :=
  rule.isCRDGrant && rule.crdAPIGroups.contains apiGroup &&
  rule.resourceNames.any (fun name => name != "" && (name == "*" || name == resource)) &&
  verbMatches (normalizeNativeVerbs fold rule.verbs) verb

def RoleBinding.grantsNative (b : RoleBinding) (apiGroup resource verb : String) : Bool :=
  b.roleRules.any fun rule => rule.grantsNative fold apiGroup resource verb

def RoleBinding.NativeReach (b : RoleBinding) (clusterID namespaceName : String) : Prop :=
  (b.clusterID = "" ∨ b.clusterID = clusterID) ∧
    (b.namespaceName = "" ∨ b.namespaceName = namespaceName)

variable {fold} {b : RoleBinding} {rule : Rule} {bindings : List RoleBinding}
  {clusterID namespaceName apiGroup resource verb : String}

theorem exists_mem_nativeRulesFromRule : (∃ r ∈ nativeRulesFromRule fold b rule,
        r.allows clusterID namespaceName apiGroup resource verb) ↔
      rule.grantsNative fold apiGroup resource verb ∧
        b.NativeReach clusterID namespaceName := by
  unfold nativeRulesFromRule Rule.grantsNative
  cases hcr : rule.isCRDGrant with
  | false => simp
  | true =>
    cases hvr : normalizeNativeVerbs fold rule.verbs with
    | nil => simp [verbMatches]
    | cons v vs =>
      simp only [Bool.not_true, Bool.false_eq_true, if_false, length_cons,
        Nat.add_eq_zero_iff, Nat.one_ne_zero, and_false, mem_flatMap, mem_map,
        mem_filter, bne_iff_ne, ne_eq, Bool.true_and, Bool.and_eq_true, contains_iff_mem,
        any_eq_true, Bool.or_eq_true, beq_iff_eq]
      constructor
      · rintro ⟨r, ⟨group, hg, name, ⟨hnm, hne⟩, rfl⟩, ha⟩
        simp only [NativeRule.allows, Bool.and_eq_true, Bool.not_eq_true', Bool.and_eq_false_iff,
          bne_eq_false_iff_eq, beq_iff_eq] at ha
        obtain ⟨⟨⟨⟨hcl, hns⟩, rfl⟩, hr⟩, hv⟩ := ha
        exact ⟨⟨⟨hg, name, hnm, hne, hr⟩, hv⟩, hcl, hns⟩
      · rintro ⟨⟨⟨hg, name, hnm, hne, hr⟩, hv⟩, hcl, hns⟩
        refine ⟨_, ⟨apiGroup, hg, name, ⟨hnm, hne⟩, rfl⟩, ?_⟩
        simp only [NativeRule.allows, Bool.and_eq_true, Bool.not_eq_true', Bool.and_eq_false_iff,
          bne_eq_false_iff_eq, beq_self_eq_true, and_true]
        exact ⟨⟨⟨hcl, hns⟩, hr⟩, hv⟩

theorem nativeAllow_fromBindings :
    nativeAllow fold (nativeRulesFromBindings fold bindings) clusterID namespaceName apiGroup
        resource verb ↔
      nativeRefused fold apiGroup verb = false ∧ ∃ b ∈ bindings, b.isSuperuser = false ∧
          b.grantsNative fold apiGroup resource verb ∧
          b.NativeReach clusterID namespaceName := by
  unfold nativeAllow
  cases hrf : nativeRefused fold apiGroup verb with
  | true => simp
  | false =>
    simp only [Bool.false_eq_true, if_false, nativeRulesFromBindings, any_eq_true,
      mem_flatMap, true_and]
    constructor
    · rintro ⟨r, ⟨b, hb, hr⟩, ha⟩
      cases hs : b.isSuperuser with
      | true => simp [hs] at hr
      | false =>
        simp only [hs, Bool.false_eq_true, if_false, mem_flatMap] at hr
        obtain ⟨rule, hrl, hr⟩ := hr
        obtain ⟨hg, hre⟩ := exists_mem_nativeRulesFromRule.mp ⟨r, hr, ha⟩
        exact ⟨b, hb, hs, any_eq_true.mpr ⟨rule, hrl, hg⟩, hre⟩
    · rintro ⟨b, hb, hs, hg, hre⟩
      obtain ⟨rule, hrl, hgr⟩ := any_eq_true.mp hg
      obtain ⟨r, hr, ha⟩ := exists_mem_nativeRulesFromRule.mpr ⟨hgr, hre⟩
      refine ⟨r, ⟨b, hb, ?_⟩, ha⟩
      simp only [hs, Bool.false_eq_true, if_false, mem_flatMap]
      exact ⟨rule, hrl, hr⟩

end

end Astronomer.Rbac
