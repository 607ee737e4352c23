import Astronomer.Rbac.Engine
import Astronomer.Server.ProxyPermission
import Astronomer.Tunnel.NamespacePaging

/-!
# The gate of the Kubernetes proxy

A request is forwarded when the permission engine grants it in the namespace of its path, or
the native layer does. A cluster-wide list or watch that is denied may still be forwarded
with a namespace filter.
-/

namespace Astronomer.Server

open Tunnel (Request Library canonicalK8sProxyPath selectedCollectionNamespaces
  namespaceCollectionQuery)
open Rbac (RoleBinding checkPermission authorizedNamespaces hasAnyNamespaceAccess)

/-! ## The code -/

inductive Caller where
  | anonymous
  | unreadable
  | bound (userID : String) (bindings : List RoleBinding)

structure NativeAuthorizer where
  allow (userID clusterID namespaceName apiGroup resource verb : String) : Bool
  lister : Option (String → String → String → String → String → Bool × List String) := none

inductive Answer where
  | forward (filter : Option (List String))
  | refuse (status : Nat) (message : String)
deriving DecidableEq

def Answer.denied : Answer := .refuse 403 "You do not have permission to perform this action"

def filterNamespaces (native : Option NativeAuthorizer) (userID : String)
    (bindings : List RoleBinding) (clusterID : UUID) (ref : ObjectRef) (resource : Resource)
    (verb : Verb) : Bool × List String :=
  let allowVerb := if verb = .watch then .list else verb
  let (all, names) := authorizedNamespaces resource.text allowVerb.text bindings clusterID
  if all then (true, [])
  else
    match native.bind (·.lister) with
    | none => (false, names)
    | some lister =>
      let (nativeAll, nativeNames) :=
        lister userID clusterID.text ref.apiGroup ref.resource verb.text
      if nativeAll then (true, []) else (false, names ++ nativeNames)

section

variable (lib : Library) (text : Text) (native : Option NativeAuthorizer)

def requireK8sProxyPermission (namespaceScoped : Bool) (caller : Caller)
    (clusterID projectID : UUID) (r : Request) : Answer :=
  let (resource, verb) := k8sProxyPermission text lib.unescape r
  match caller with
  | .anonymous => .refuse 401 "Authentication is required to access this resource"
  | .unreadable => .refuse 500 "Failed to retrieve user permissions"
  | .bound userID bindings =>
    match canonicalK8sProxyPath lib.unescape r with
    | none => .refuse 400 "Kubernetes proxy path is not canonical"
    | some k8sPath =>
      let ref := (parseK8sProxyObjectRef k8sPath).getD {}
      let check (resource : Resource) (verb : Verb) (ns : String) : Bool :=
        checkPermission bindings resource.text verb.text clusterID projectID ns
      let nativeAllow (ns : String) : Bool := native.any fun n =>
        n.allow userID clusterID.text ns ref.apiGroup ref.resource verb.text
      match selectedCollectionNamespaces lib r with
      | some (.error message) => .refuse 400 message
      | some (.ok names) =>
        -- `handleSelectedNamespaceAuthorization`
        if names.all fun ns => check resource verb ns || nativeAllow ns then .forward none
        else .refuse 403 "You do not have permission to access every selected namespace"
      | none =>
        if resource = .nodes ∧ verb = .proxy ∧ isMutatingK8sProxyMethod r.method ∧
            !check .pods .exec ref.namespaceName then .denied
        else if check resource verb ref.namespaceName || nativeAllow ref.namespaceName then
          .forward none
        else if namespaceScoped ∧ r.method = .get ∧ (verb = .list ∨ verb = .watch) ∧
            ref.namespaceName = "" then
          let (all, names) :=
            filterNamespaces native userID bindings clusterID ref resource verb
          if all then .forward none
          else if 0 < names.length then .forward (some names)
          else .denied
        else .denied

/-! ## What is granted -/

def pathNamespace (r : Request) : String :=
  (((canonicalK8sProxyPath lib.unescape r).bind parseK8sProxyObjectRef).getD {}).namespaceName

variable (bindings : List RoleBinding) (clusterID projectID : UUID) (r : Request)

def Granted : Prop :=
  checkPermission bindings (k8sProxyPermission text lib.unescape r).1.text
    (k8sProxyPermission text lib.unescape r).2.text clusterID projectID (pathNamespace lib r)

def IsNodeProxyWrite : Prop :=
  k8sProxyPermission text lib.unescape r = (.nodes, .proxy) ∧
    isMutatingK8sProxyMethod r.method

def IsClusterRead : Prop :=
  r.method = .get ∧ ((k8sProxyPermission text lib.unescape r).2 = .list ∨
    (k8sProxyPermission text lib.unescape r).2 = .watch) ∧ pathNamespace lib r = ""

/-- Only what is granted is forwarded: without a filter the request itself, and command
execution for a write to a node; with a filter a read of the whole cluster, and the filter is
what may be listed. -/
structure ForwardsGranted (answer : Answer) : Prop where
  plain : answer = .forward none → Granted lib text bindings clusterID projectID r ∧
    (IsNodeProxyWrite lib text r →
      checkPermission bindings Resource.pods.text Verb.exec.text clusterID projectID)
  filtered : ∀ names, answer = .forward (some names) →
    IsClusterRead lib text r ∧ ¬Granted lib text bindings clusterID projectID r ∧ names ≠ [] ∧
      ∀ ns, ns ∈ names ↔ ns ≠ "" ∧ checkPermission bindings
        (k8sProxyPermission text lib.unescape r).1.text Verb.list.text clusterID .nil ns

structure GateConditions : Prop where
  watch : (k8sProxyPermission text lib.unescape r).2 = .watch → IsClusterRead lib text r →
    (authorizedNamespaces (k8sProxyPermission text lib.unescape r).1.text Verb.list.text bindings
      clusterID).1 → Granted lib text bindings clusterID projectID r
  /-- For a write to a node that is granted in the path's namespace, command execution is
  granted in the whole cluster and not only in that namespace. -/
  node : IsNodeProxyWrite lib text r → Granted lib text bindings clusterID projectID r →
    checkPermission bindings Resource.pods.text Verb.exec.text clusterID projectID
      (pathNamespace lib r) →
    checkPermission bindings Resource.pods.text Verb.exec.text clusterID projectID
  project : IsClusterRead lib text r → ¬Granted lib text bindings clusterID projectID r →
    hasAnyNamespaceAccess (k8sProxyPermission text lib.unescape r).1.text Verb.list.text bindings
      clusterID →
    ∀ b ∈ bindings, b.projectID = UUID.nil.text →
      b.grants (k8sProxyPermission text lib.unescape r).1.text Verb.list.text →
      ∃ b' ∈ bindings, b'.CoversCluster clusterID ∧
        b'.grants (k8sProxyPermission text lib.unescape r).1.text Verb.list.text ∧
        b'.namespaceName = b.namespaceName

end

/-! ## When the gate forwards -/

section

variable {lib : Library} {text : Text} {bindings : List RoleBinding} {clusterID projectID : UUID}
  {r : Request} {userID : String} {names : List String}

theorem filterNamespaces_eq {ref verb} {resource : Resource} (hv : verb = .list ∨ verb = .watch) :
    filterNamespaces none userID bindings clusterID ref resource verb =
      if (authorizedNamespaces resource.text Verb.list.text bindings clusterID).1 then (true, [])
      else (false, (authorizedNamespaces resource.text Verb.list.text bindings clusterID).2) := by
  unfold filterNamespaces
  rcases hv with rfl | rfl <;> rfl

theorem requireK8sProxyPermission_spec (lib : Library) (text : Text) (bindings : List RoleBinding)
    (userID : String) (clusterID projectID : UUID)
    (hs : r.query.lookup namespaceCollectionQuery = none) :
    (requireK8sProxyPermission lib text none true (.bound userID bindings) clusterID projectID r =
        .forward none ↔
      canonicalK8sProxyPath lib.unescape r ≠ none ∧
        (IsNodeProxyWrite lib text r → checkPermission bindings Resource.pods.text Verb.exec.text
          clusterID projectID (pathNamespace lib r)) ∧
        (Granted lib text bindings clusterID projectID r ∨ IsClusterRead lib text r ∧
          (authorizedNamespaces (k8sProxyPermission text lib.unescape r).1.text Verb.list.text
            bindings clusterID).1)) ∧
    ∀ names, requireK8sProxyPermission lib text none true (.bound userID bindings) clusterID
        projectID r = .forward (some names) ↔
      canonicalK8sProxyPath lib.unescape r ≠ none ∧
        ¬Granted lib text bindings clusterID projectID r ∧ IsClusterRead lib text r ∧
        authorizedNamespaces (k8sProxyPermission text lib.unescape r).1.text Verb.list.text
          bindings clusterID = (false, names) ∧ names ≠ [] := by
  have hn : selectedCollectionNamespaces lib r = none := by rw [selectedCollectionNamespaces, hs]
  unfold requireK8sProxyPermission Granted IsNodeProxyWrite IsClusterRead
  cases hp : canonicalK8sProxyPath lib.unescape r with
  | none => simp
  | some path =>
    have hns : ((parseK8sProxyObjectRef path).getD {}).namespaceName = pathNamespace lib r := by
      rw [pathNamespace, hp]
      rfl
    simp only [hn, hns, Option.any_none, Bool.or_false]
    rcases k8sProxyPermission text lib.unescape r with ⟨resource, verb⟩
    dsimp only
    cases hg : checkPermission bindings resource.text verb.text clusterID projectID
        (pathNamespace lib r) with
    | true =>
      cases hex : checkPermission bindings Resource.pods.text Verb.exec.text clusterID projectID
          (pathNamespace lib r) with
      | true => simp
      | false =>
        by_cases hnd : resource = .nodes ∧ verb = .proxy ∧ isMutatingK8sProxyMethod r.method
        · simp [hnd, Answer.denied]
        · grind
    | false =>
      by_cases hr : r.method = .get ∧ (verb = .list ∨ verb = .watch) ∧ pathNamespace lib r = ""
      · -- a list or watch is no write to a node
        have hnd : verb ≠ .proxy := by rcases hr.2.1 with rfl | rfl <;> decide
        rw [filterNamespaces_eq hr.2.1]
        rcases authorizedNamespaces resource.text Verb.list.text bindings clusterID with
          ⟨_ | _, names⟩
        · cases names with
          | nil => simp [hr, hnd, Answer.denied]
          | cons name names => simp [hr, hnd]
        · simp [hr, hnd]
      · simp [hr, Answer.denied]

theorem canonical_of_permission (text : Text)
    (h : k8sProxyPermission text lib.unescape r ≠ (.clusters, .proxy)) :
    canonicalK8sProxyPath lib.unescape r ≠ none := by
  intro hp
  exact h (by rw [k8sProxyPermission, hp])

theorem IsClusterRead.canonical (h : IsClusterRead lib text r) :
    canonicalK8sProxyPath lib.unescape r ≠ none := by
  refine canonical_of_permission text fun hp => ?_
  simp [IsClusterRead, hp] at h

theorem IsClusterRead.not_nodeProxyWrite (h : IsClusterRead lib text r) :
    ¬IsNodeProxyWrite lib text r := by
  rintro ⟨hp, -⟩
  simp [IsClusterRead, hp] at h

/-- **When the gate forwards only what is granted.** The filter is computed for the verb
`list`, also for a watch, and is skipped when the list is open everywhere. So a watch is
forwarded as it is when the user may list the whole cluster, watch or not. -/
theorem forwards_iff (lib : Library) (text : Text) (bindings : List RoleBinding) (userID : String)
    (clusterID projectID : UUID) (r : Request)
    (hselected : r.query.lookup namespaceCollectionQuery = none) :
    ForwardsGranted lib text bindings clusterID projectID r
        (requireK8sProxyPermission lib text none true (.bound userID bindings) clusterID projectID
          r) ↔
      GateConditions lib text bindings clusterID projectID r := by
  obtain ⟨hpl, hf⟩ :=
    requireK8sProxyPermission_spec lib text bindings userID clusterID projectID hselected
  constructor
  · intro h
    have ho : IsClusterRead lib text r → (authorizedNamespaces
        (k8sProxyPermission text lib.unescape r).1.text Verb.list.text bindings clusterID).1 =
          true →
        Granted lib text bindings clusterID projectID r := fun hr ha =>
      (h.plain (hpl.mpr ⟨hr.canonical, fun hnd => absurd hnd hr.not_nodeProxyWrite,
        .inr ⟨hr, ha⟩⟩)).1
    refine ⟨fun _ hr ha => ho hr ha, fun hnd hg hex => ?_, fun hr hd hac => ?_⟩
    · have hp : canonicalK8sProxyPath lib.unescape r ≠ none :=
        canonical_of_permission text (by rw [hnd.1]; decide)
      exact (h.plain (hpl.mpr ⟨hp, fun _ => hex, .inl hg⟩)).2 hnd
    · have ha := Bool.eq_false_iff.mpr fun ha => hd (ho hr ha)
      have hn : (authorizedNamespaces (k8sProxyPermission text lib.unescape r).1.text
          Verb.list.text bindings clusterID).2 ≠ [] := by
        simpa [hasAnyNamespaceAccess, ha, List.length_pos_iff] using hac
      refine (Rbac.authorizedNamespaces_exact_iff ha).mp ?_
      exact (h.filtered _ ((hf _).mpr ⟨hr.canonical, hd, hr, Prod.ext ha rfl, hn⟩)).2.2.2
  · intro h
    constructor
    · intro han
      obtain ⟨-, hex, hg⟩ := hpl.mp han
      have hg : Granted lib text bindings clusterID projectID r := by
        rcases hg with hg | ⟨hr, ha⟩
        · exact hg
        · rcases hr.2.1 with hv | hv
          · -- a list that is open everywhere is granted by the check itself
            rw [Granted, hr.2.2, hv]
            exact Rbac.checkPermission_of_all ha
          · exact h.watch hv hr ha
      exact ⟨hg, fun hnd => h.node hnd hg (hex hnd)⟩
    · intro names han
      obtain ⟨-, hd, hr, hat, hn⟩ := (hf names).mp han
      refine ⟨hr, hd, hn, ?_⟩
      have hac : hasAnyNamespaceAccess (k8sProxyPermission text lib.unescape r).1.text
          Verb.list.text bindings clusterID := by
        simp [hasAnyNamespaceAccess, hat, List.length_pos_iff, hn]
      have he := (Rbac.authorizedNamespaces_exact_iff (by rw [hat])).mpr (h.project hr hd hac)
      simpa [hat] using he

end

/-! ## A user who may list pods -/

namespace ListOnly

def cluster : UUID := ⟨"33333333-3333-3333-3333-333333333333", by decide +kernel⟩

def bindings : List RoleBinding :=
  [{ roleRules := [{ resource := "pods", verbs := ["list"] }], scope := some .global }]

def request (query : Tunnel.Values) : Request where
  method := .get
  path := "/api/v1/clusters/c/k8s/api/v1/pods"
  escapedPath := "/api/v1/clusters/c/k8s/api/v1/pods"
  query := query

def text : Text := ⟨id, id⟩

end ListOnly

theorem list_forwarded_granted :
    ForwardsGranted Tunnel.Widgets.library ListOnly.text ListOnly.bindings ListOnly.cluster .nil
      (ListOnly.request [])
        (requireK8sProxyPermission Tunnel.Widgets.library ListOnly.text none true
        (.bound "u" ListOnly.bindings) ListOnly.cluster .nil (ListOnly.request [])) := by
  have hp : k8sProxyPermission ListOnly.text Tunnel.Widgets.library.unescape
      (ListOnly.request []) = (.pods, .list) := by decide +kernel
  have hpj : ∀ b ∈ ListOnly.bindings, b.projectID ≠ UUID.nil.text := by decide +kernel
  refine (forwards_iff Tunnel.Widgets.library ListOnly.text ListOnly.bindings "u" ListOnly.cluster
    .nil (ListOnly.request []) rfl).mpr ⟨fun hwt => ?_, fun hnd => ?_, fun _ _ _ b hb hn => ?_⟩
  · simp [hp] at hwt
  · simp [IsNodeProxyWrite, hp] at hnd
  · exact absurd hn (hpj b hb)

/-- The watch of the whole cluster is forwarded without a filter, and is not granted. -/
theorem watch_forwarded_ungranted :
    requireK8sProxyPermission Tunnel.Widgets.library ListOnly.text none true
        (.bound "u" ListOnly.bindings) ListOnly.cluster .nil
        (ListOnly.request [("watch", ["true"])]) = .forward none ∧
      k8sProxyPermission ListOnly.text Tunnel.Widgets.library.unescape
        (ListOnly.request [("watch", ["true"])]) = (.pods, .watch) ∧
      checkPermission ListOnly.bindings "pods" "watch" ListOnly.cluster .nil = false := by
  decide +kernel

end Astronomer.Server
