import Astronomer.Rbac.Types
import Astronomer.Tunnel.NamespaceCollection

/-!
# What a proxied Kubernetes request needs

`k8sProxyPermission` of `internal/server/routes.go` reads resource and verb off the object
reference in the path (`parseK8sProxyObjectRef`); the second half asks whether that reference
is the one the path stands for. A `Coordinate` is an object or collection with its path.
-/

namespace Astronomer.Server

open List
open Tunnel (Request Method isWatchRequest canonicalK8sProxyPath segments IsSegment)

/-! ## Resources and verbs -/

inductive Resource where
  | clusters | workloads | pods | rbac | secrets | configMaps | services | ingresses | storage
  | nodes | networkPolicies | customResources
deriving DecidableEq

def Resource.text : Resource → String
  | clusters => "clusters"
  | workloads => "workloads"
  | pods => "pods"
  | rbac => "rbac"
  | secrets => "secrets"
  | configMaps => "configmaps"
  | services => "services"
  | ingresses => "ingresses"
  | storage => "storage"
  | nodes => "nodes"
  | networkPolicies => "network_policies"
  | customResources => "custom_resources"

inductive Verb where
  | create | read | update | delete | list | watch | exec | logs | proxy | manage
deriving DecidableEq

def Verb.text : Verb → String
  | create => "create"
  | read => "read"
  | update => "update"
  | delete => "delete"
  | list => "list"
  | watch => "watch"
  | exec => "exec"
  | logs => "logs"
  | proxy => "proxy"
  | manage => "manage"

/-! ## The object reference -/

structure ObjectRef where
  apiGroup : String := ""
  apiVersion : String := ""
  watch : Bool := false
  namespaceName : String := ""
  resource : String := ""
  name : String := ""
  subresource : String := ""
deriving DecidableEq

def ObjectRef.withObject (ref : ObjectRef) (parts : List String) : ObjectRef :=
  { ref with
    resource := parts.getD 0 ""
    name := parts.getD 1 ""
    subresource := parts.getD 2 "" }

def ObjectRef.withNamespace (ref : ObjectRef) (parts : List String) : ObjectRef :=
  match parts with
  | "namespaces" :: ns :: rest => { ref with namespaceName := ns }.withObject rest
  | _ => ref.withObject parts

def ObjectRef.withParts (ref : ObjectRef) (parts : List String) : ObjectRef :=
  match parts with
  | "watch" :: rest => { ref with watch := true }.withNamespace rest
  | _ => ref.withNamespace parts

def parseK8sProxyObjectRef (k8sPath : String) : Option ObjectRef :=
  match segments k8sPath with
  | "api" :: version :: part :: rest =>
    some (ObjectRef.withParts { apiVersion := version } (part :: rest))
  | "apis" :: group :: version :: part :: rest =>
    some (ObjectRef.withParts { apiGroup := group, apiVersion := version } (part :: rest))
  | _ => none

/-! ## The permission -/

def isMutatingK8sProxyMethod : Method → Bool
  | .get | .head | .options => false
  | _ => true

def equalFoldTrue (s : String) : Bool := s.toList.map Char.toLower == "true".toList

def k8sProxyVerb (r : Request) (ref : ObjectRef) : Verb :=
  if !isMutatingK8sProxyMethod r.method then
    if isWatchRequest r || ref.watch then .watch
    else if ref.name = "" then .list
    else .read
  else if equalFoldTrue (r.query.get "force") ∧ r.query.get "dryRun" = "" then .manage
  else
    match r.method with
    | .post =>
      if ref.resource = "pods" ∧ ref.subresource = "eviction" then .delete
      else if ref.name = "" then .create
      else .update
    | .delete => .delete
    | _ => .update

def isHighRiskFrom : List String → Bool
  | [] => false
  | s :: rest =>
    match s, rest with
    | "api", "v1" :: "namespaces" :: _ :: "pods" :: _ :: sub :: more =>
      if ["exec", "attach", "portforward"].contains sub then more.isEmpty else isHighRiskFrom rest
    | _, _ => isHighRiskFrom rest

def isHighRiskPodProxySubresource (path : String) : Bool := isHighRiskFrom (segments path)

section

structure Text where
  (trimSpace toLower : String → String)

def Text.fold (text : Text) (s : String) : String := text.toLower (text.trimSpace s)

variable (text : Text)

def kubernetesResource (resourceType : String) : Option Resource :=
  match text.fold resourceType with
  | "services" | "service" | "endpoints" | "endpoint" => some .services
  | "ingresses" | "ingress" | "gateways" | "gateway" | "httproutes" | "httproute"
  | "gatewayclasses" | "gatewayclass" | "grpcroutes" | "grpcroute" | "tcproutes" | "tcproute"
  | "udproutes" | "udproute" | "tlsroutes" | "tlsroute" | "referencegrants" | "referencegrant" =>
    some .ingresses
  | "networkpolicies" | "networkpolicy" => some .networkPolicies
  | "persistentvolumes" | "persistentvolume" | "pv" | "persistentvolumeclaims"
  | "persistentvolumeclaim" | "pvc" | "storageclasses" | "storageclass" => some .storage
  | "configmaps" | "configmap" => some .configMaps
  | "secrets" | "secret" => some .secrets
  | "pods" | "pod" => some .pods
  | "nodes" | "node" => some .nodes
  | "deployments" | "deployment" | "daemonsets" | "daemonset" | "statefulsets" | "statefulset"
  | "replicasets" | "replicaset" | "jobs" | "job" | "cronjobs" | "cronjob" | "hpa"
  | "horizontalpodautoscalers" | "horizontalpodautoscaler" | "poddisruptionbudgets"
  | "poddisruptionbudget" => some .workloads
  | _ => none

def knownK8sProxyResource (resourceType : String) : Option Resource :=
  kubernetesResource text resourceType

def namedResourcePermission (resourceType : String) (requestedVerb : Verb) : Resource × Verb :=
  match knownK8sProxyResource text resourceType with
  | some resource => (resource, requestedVerb)
  | none =>
    if requestedVerb = .read ∨ requestedVerb = .list ∨ requestedVerb = .watch then
      (.clusters, requestedVerb)
    else (.clusters, .update)

def isHighRiskPodProxySubresourceRef (ref : Option ObjectRef) : Bool :=
  match ref with
  | none => false
  | some ref =>
    ["pods", "pod"].contains (text.fold ref.resource) &&
      ["exec", "attach", "portforward"].contains (text.fold ref.subresource)

def k8sProxyResourcePolicy (ref : Option ObjectRef) : Option Resource :=
  match ref with
  | none => none
  | some ref =>
    let resourceType := text.fold ref.resource
    if resourceType = "" then none
    else if (knownK8sProxyResource text resourceType).isSome then none
    else if text.trimSpace ref.apiGroup ≠ "" then some .customResources
    else none

def isPrivilegeEscalationAPIGroup (group : String) : Bool :=
  Rbac.isPrivilegeEscalationGroup text.fold group

def permissionOf (r : Request) (ref? : Option ObjectRef) : Resource × Verb :=
  let ref := ref?.getD {}
  if isHighRiskPodProxySubresourceRef text ref? || isHighRiskPodProxySubresource r.path then
    (.pods, .exec)
  else if text.fold ref.subresource = "proxy" then
    match knownK8sProxyResource text ref.resource, k8sProxyResourcePolicy text ref? with
    | some resource, _ => (resource, .proxy)
    | none, some resource => (resource, .proxy)
    | none, none => (.clusters, .proxy)
  else
    let verb := k8sProxyVerb r ref
    if ref.resource = "pods" ∧ ref.subresource = "log" ∧ !isMutatingK8sProxyMethod r.method then
      (.pods, .logs)
    else
      match k8sProxyResourcePolicy text ref? with
      | some resource =>
        if isMutatingK8sProxyMethod r.method && isPrivilegeEscalationAPIGroup text ref.apiGroup then
          (.rbac, verb)
        else (resource, verb)
      | none => namedResourcePermission text ref.resource verb

def k8sProxyPermission (unescape : String → Option String) (r : Request) : Resource × Verb :=
  match canonicalK8sProxyPath unescape r with
  | none => (.clusters, .proxy)
  | some k8sPath => permissionOf text r (parseK8sProxyObjectRef k8sPath)

end

/-! ## Coordinates -/

/-- An object, a subresource of it, or a collection of the Kubernetes API, possibly under the
legacy prefix of a watch. -/
structure Coordinate where
  group : Option String := none
  version : String
  watch : Bool := false
  namespaceName : Option String := none
  resource : String
  object : Option (String × Option String) := none

namespace Coordinate

variable (k : Coordinate)

def watchParts : List String := if k.watch then ["watch"] else []

def namespaceParts : List String :=
  match k.namespaceName with
  | none => []
  | some ns => ["namespaces", ns]

def objectParts : List String :=
  k.resource :: match k.object with
    | none => []
    | some (name, none) => [name]
    | some (name, some sub) => [name, sub]

def parts : List String :=
  match k.group with
  | none => "api" :: k.version :: (k.watchParts ++ (k.namespaceParts ++ k.objectParts))
  | some group => "apis" :: group :: k.version ::
      (k.watchParts ++ (k.namespaceParts ++ k.objectParts))

def path : String := "/" ++ String.intercalate "/" k.parts

def ref : ObjectRef where
  apiGroup := k.group.getD ""
  apiVersion := k.version
  watch := k.watch
  namespaceName := k.namespaceName.getD ""
  resource := k.resource
  name := (k.object.map Prod.fst).getD ""
  subresource := (k.object.bind Prod.snd).getD ""

def IsWord (s : String) : Prop := IsSegment s ∧ s ≠ "watch" ∧ s ≠ "namespaces"

structure WellFormed : Prop where
  group : ∀ group, k.group = some group → IsWord group
  version : IsWord k.version
  namespaceName : ∀ ns, k.namespaceName = some ns → IsWord ns
  resource : IsSegment k.resource ∧ k.resource ≠ "watch"
  name : ∀ name sub, k.object = some (name, sub) → IsWord name
  subresource : ∀ name sub, k.object = some (name, some sub) → IsWord sub

def IsNamespaceObject : Prop :=
  k.namespaceName = none ∧ k.resource = "namespaces" ∧ k.object ≠ none

variable {k}

theorem isSegment_of_literal {w} (h : w ∈ ["api", "apis", "watch", "namespaces"]) :
    IsSegment w := by
  have ha : ∀ w ∈ ["api", "apis", "watch", "namespaces"], IsSegment w := by
    unfold IsSegment
    decide
  exact ha w h

theorem WellFormed.isSegment_watchParts {w} (h : w ∈ k.watchParts) : IsSegment w := by
  unfold watchParts at h
  split at h
  · obtain rfl := mem_singleton.mp h
    exact isSegment_of_literal (by simp)
  · exact nomatch h

theorem WellFormed.isSegment_namespaceParts (hk : k.WellFormed) {w} (h : w ∈ k.namespaceParts) :
    IsSegment w := by
  unfold namespaceParts at h
  cases hns : k.namespaceName with
  | none => simp [hns] at h
  | some ns =>
    simp only [hns, mem_cons, not_mem_nil, or_false] at h
    rcases h with rfl | rfl
    · exact isSegment_of_literal (by simp)
    · exact (hk.namespaceName w hns).1

theorem WellFormed.isSegment_objectParts (hk : k.WellFormed) {w} (h : w ∈ k.objectParts) :
    IsSegment w := by
  unfold objectParts at h
  rcases mem_cons.mp h with rfl | h
  · exact hk.resource.1
  · rcases ho : k.object with _ | ⟨name, _ | sub⟩
    · simp [ho] at h
    · obtain rfl : w = name := by simpa [ho] using h
      exact (hk.name w none ho).1
    · simp only [ho, mem_cons, not_mem_nil, or_false] at h
      rcases h with rfl | rfl
      · exact (hk.name w (some sub) ho).1
      · exact (hk.subresource name w ho).1

theorem WellFormed.segments_path (hk : k.WellFormed) : segments k.path = k.parts := by
  have hrest : ∀ w ∈ k.watchParts ++ (k.namespaceParts ++ k.objectParts), IsSegment w := by
    intro w hw
    rcases mem_append.mp hw with hw | hw
    · exact isSegment_watchParts hw
    · rcases mem_append.mp hw with hw | hw
      · exact hk.isSegment_namespaceParts hw
      · exact hk.isSegment_objectParts hw
  have hne : k.parts ≠ [] := by
    unfold parts
    split <;> simp
  refine Tunnel.segments_join hne fun w hw => ?_
  unfold parts at hw
  cases hg : k.group with
  | none =>
    simp only [hg, mem_cons] at hw
    rcases hw with rfl | rfl | hw
    · exact isSegment_of_literal (by simp)
    · exact hk.version.1
    · exact hrest w hw
  | some group =>
    simp only [hg, mem_cons] at hw
    rcases hw with rfl | rfl | rfl | hw
    · exact isSegment_of_literal (by simp)
    · exact (hk.group w hg).1
    · exact hk.version.1
    · exact hrest w hw

end Coordinate

/-! ## Parsing -/

theorem ObjectRef.withParts_of_ne {part rest} {ref : ObjectRef} (h : part ≠ "watch") :
    ref.withParts (part :: rest) = ref.withNamespace (part :: rest) := by
  unfold ObjectRef.withParts
  split
  · simp_all
  · rfl

namespace Coordinate

variable {k : Coordinate}

theorem withObject_objectParts (ref : ObjectRef) : ref.withObject k.objectParts = { ref with
        resource := k.resource
        name := (k.object.map Prod.fst).getD ""
        subresource := (k.object.bind Prod.snd).getD "" } := by
  unfold ObjectRef.withObject objectParts
  rcases k.object with _ | ⟨name, _ | sub⟩ <;> rfl

theorem withNamespace_parts (ho : ¬k.IsNamespaceObject) (ref : ObjectRef)
    (hns : ref.namespaceName = "") :
    ref.withNamespace (k.namespaceParts ++ k.objectParts) =
      { ref with namespaceName := k.namespaceName.getD "" }.withObject k.objectParts := by
  unfold namespaceParts
  cases hnm : k.namespaceName with
  | some ns => rfl
  | none =>
    have hpl : k.resource = "namespaces" → k.object = none := by
      intro hr
      by_contra hne
      exact ho ⟨hnm, hr, hne⟩
    have hk : ({ ref with namespaceName := "" } : ObjectRef) = ref := by rw [← hns]
    rw [nil_append, Option.getD_none, hk]
    unfold objectParts ObjectRef.withNamespace
    split
    · simp_all
    · rfl

theorem withParts_parts (hk : k.WellFormed) (ho : ¬k.IsNamespaceObject) (group : String) :
    ObjectRef.withParts { apiGroup := group, apiVersion := k.version }
        (k.watchParts ++ (k.namespaceParts ++ k.objectParts)) =
      { k.ref with apiGroup := group } := by
  unfold watchParts
  cases hwt : k.watch with
  | true =>
    show ObjectRef.withNamespace _ (k.namespaceParts ++ k.objectParts) = _
    rw [withNamespace_parts ho _ rfl, withObject_objectParts]
    simp [Coordinate.ref, hwt]
  | false =>
    -- the first part is `namespaces` or the resource, so it is not `watch`
    have hs : ∀ ref : ObjectRef, ref.withParts (k.namespaceParts ++ k.objectParts) =
        ref.withNamespace (k.namespaceParts ++ k.objectParts) := by
      intro ref
      unfold namespaceParts
      cases k.namespaceName with
      | some ns => exact ObjectRef.withParts_of_ne (by decide)
      | none => exact ObjectRef.withParts_of_ne hk.resource.2
    simp only [Bool.false_eq_true, if_false, nil_append]
    rw [hs, withNamespace_parts ho _ rfl, withObject_objectParts]
    simp [Coordinate.ref, hwt]

theorem WellFormed.parse_path (hk : k.WellFormed) : parseK8sProxyObjectRef k.path =
      some (ObjectRef.withParts { apiGroup := k.group.getD "", apiVersion := k.version }
        (k.watchParts ++ (k.namespaceParts ++ k.objectParts))) := by
  have hne : k.watchParts ++ (k.namespaceParts ++ k.objectParts) ≠ [] := by simp [objectParts]
  obtain ⟨part, rest, hpa⟩ := exists_cons_of_ne_nil hne
  rw [parseK8sProxyObjectRef, hk.segments_path, parts, hpa]
  cases k.group <;> rfl

theorem parse_namespaceObject (hk : k.WellFormed) {name sub} (hns : k.namespaceName = none)
    (hr : k.resource = "namespaces") (ho : k.object = some (name, sub)) :
    ∃ ref, parseK8sProxyObjectRef k.path = some ref ∧ ref.namespaceName = name := by
  refine ⟨_, hk.parse_path, ?_⟩
  unfold watchParts namespaceParts objectParts
  rw [hns, hr, ho]
  cases k.watch <;> cases sub <;> rfl

/-- **Coordinates are parsed faithfully**, and so a request is classified by the object it
is for, except for one object of `namespaces`. -/
theorem parse_path_iff (text : Text) (unescape : String → Option String) (k : Coordinate)
    (hk : k.WellFormed) :
    (parseK8sProxyObjectRef k.path = some k.ref ∧
      ∀ r, canonicalK8sProxyPath unescape r = some k.path →
        k8sProxyPermission text unescape r = permissionOf text r (some k.ref)) ↔
      ¬k.IsNamespaceObject := by
  constructor
  · rintro ⟨hp, -⟩ ⟨hns, hrs, ho⟩
    obtain ⟨⟨name, sub⟩, ho⟩ := Option.ne_none_iff_exists'.mp ho
    obtain ⟨ref, hre, hnm⟩ := parse_namespaceObject hk hns hrs ho
    obtain rfl : ref = k.ref := Option.some_inj.mp (hre.symm.trans hp)
    have he : name = "" := by simpa [Coordinate.ref, hns] using hnm.symm
    exact (hk.name name sub ho).1.1 he
  · intro ho
    have hp : parseK8sProxyObjectRef k.path = some k.ref := by
      rw [hk.parse_path, withParts_parts hk ho]
      rfl
    refine ⟨hp, fun r hr => ?_⟩
    rw [k8sProxyPermission, hr, ← hp]

end Coordinate

/-! ## Objects of `namespaces` -/

namespace Coordinate

def plainText : Text := ⟨id, id⟩

def podLog : Coordinate :=
  { version := "v1", namespaceName := some "web", resource := "pods",
    object := some ("p", some "log") }

theorem podLog_parsed : parseK8sProxyObjectRef podLog.path = some podLog.ref := by
  have hw : ∀ w ∈ ["v1", "web", "pods", "p", "log"], IsWord w := by
    unfold IsWord IsSegment
    decide
  have hk : podLog.WellFormed := by
    refine ⟨nofun, hw _ (by simp [podLog]), ?_, ?_, ?_, ?_⟩
    · rintro ns ⟨⟩
      exact hw _ (by simp)
    · exact ⟨(hw "pods" (by simp)).1, by decide⟩
    · rintro name sub ⟨⟩
      exact hw _ (by simp)
    · rintro name sub ⟨⟩
      exact hw _ (by simp)
  exact ((parse_path_iff plainText some podLog hk).mpr fun h => nomatch h.1).1

def web (group : Option String) : Coordinate :=
  { group := group, version := "v1", resource := "namespaces", object := some ("web", none) }

def getRequest (k : Coordinate) : Request :=
  { method := .get, path := "/api/v1/clusters/c/k8s" ++ k.path,
    escapedPath := "/api/v1/clusters/c/k8s" ++ k.path }

/-- A `GET` of one namespace counts as a list of what is in it, and an object of a custom
resource as one of the cluster. -/
theorem namespaceObject_misread :
    parseK8sProxyObjectRef (web none).path = some { apiVersion := "v1", namespaceName := "web" } ∧
      k8sProxyPermission plainText some (getRequest (web none)) = (.clusters, .list) ∧
      permissionOf plainText (getRequest (web none)) (some (web none).ref) = (.clusters, .read) ∧
      k8sProxyPermission plainText some (getRequest (web (some "example.com"))) =
        (.clusters, .list) ∧
      permissionOf plainText (getRequest (web (some "example.com")))
        (some (web (some "example.com")).ref) = (.customResources, .read) := by
  decide +kernel

end Coordinate

end Astronomer.Server
