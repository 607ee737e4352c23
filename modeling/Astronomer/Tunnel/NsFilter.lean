import Astronomer.Tunnel.NamespaceCollection

/-!
# The namespace filter

`nsfilter.go`: a cluster-wide LIST or WATCH is filtered by the kind of the list, or of the
event's object, which alone decides whether `metadata.name` or `metadata.namespace` is looked
up in the allow-set.
-/

namespace Astronomer.Tunnel

open List

/-! ## The code -/

def unmarshalMap : Option Value → Option (List (String × Value))
  | some (.obj fields) => some fields
  | some .null => some []
  | _ => none

def textOf (m : List (String × Value)) (key : String) : String :=
  ((m.lookup key).bind Json.text?).getD ""

def metadataOf (m : List (String × Value)) : Option (List (String × Value)) :=
  (m.lookup "metadata").bind Json.fields?

def itemNamespaceKey (item : List (String × Value)) (kind : String) : Option String :=
  match metadataOf item with
  | none => none
  | some metadata =>
    let key := if kind = "NamespaceList" then "name" else "namespace"
    let v := textOf metadata key
    if v = "" then none else some v

def keepsItem (allowed : List String) (kind : String) (raw : Value) : Bool :=
  match raw.fields? with
  | none => false
  | some item =>
    match itemNamespaceKey item kind with
    | none => false
    | some ns => allowed.contains ns

def emptyListBody (obj : List (String × Value)) (kind : String) : Value :=
  let out := [("kind", .str kind), ("items", .arr [])]
  let out := match (obj.lookup "apiVersion").bind Json.text? with
    | some version => setKey "apiVersion" (.str version) out
    | none => out
  .obj (setKey "metadata" ((obj.lookup "metadata").getD (.obj [])) out)

def hasSuffix (s suffix : String) : Bool := suffix.toList.isSuffixOf s.toList

def filterK8sListByNamespace (body : Option Value) (allowed : List String) : Option Value :=
  match unmarshalMap body with
  | none => none
  | some obj =>
    let kind := textOf obj "kind"
    if kind = "" then none
    else
      match (obj.lookup "items").bind Json.elements? with
      | none => some (emptyListBody obj kind)
      | some items =>
        if !hasSuffix kind "List" then some (emptyListBody obj kind)
        else some (.obj (setKey "items" (.arr (items.filter (keepsItem allowed kind))) obj))

def applyNamespaceFilter (resp : Response) (allowed : List String) : Option Response :=
  if !resp.success then some resp
  else (filterK8sListByNamespace resp.body allowed).map fun body => { resp with body := some body }

def watchEventAllowed (body : Option Value) (allowed : List String) : Option Bool :=
  match unmarshalMap body with
  | none => none
  | some ev =>
    if textOf ev "type" = "BOOKMARK" ∨ textOf ev "type" = "ERROR" then some true
    else
      match (ev.lookup "object").bind Json.fields? with
      | none => some false
      | some obj =>
        match metadataOf obj with
        | none => some false
        | some metadata =>
          if textOf obj "kind" = "Namespace" then
            let name := textOf metadata "name"
            some (decide (name ≠ "") && allowed.contains name)
          else
            let ns := textOf metadata "namespace"
            some (decide (ns ≠ "") && allowed.contains ns)

/-! ## Objects -/

structure Object where
  (apiVersion kind namespaceName name : String)

/-- The object with these fields; the API server leaves version and kind out in lists of
built-in resources, so `apiVersion` and `kind` are what they are then. -/
def Object.of (apiVersion kind : String) (fields : List (String × Value)) : Object :=
  let metadata := (metadataOf fields).getD []
  { apiVersion := if textOf fields "apiVersion" = "" then apiVersion else textOf fields "apiVersion"
    kind := if textOf fields "kind" = "" then kind else textOf fields "kind"
    namespaceName := textOf metadata "namespace"
    name := textOf metadata "name" }

def itemsOf (list : List (String × Value)) : List Value :=
  ((list.lookup "items").bind Json.elements?).getD []

def listedObject (list : List (String × Value)) (item : Value) : Object :=
  let kind := (textOf list "kind").toList
  Object.of (textOf list "apiVersion") (String.ofList (kind.take (kind.length - 4)))
    (item.fields?.getD [])

def eventObject (ev : List (String × Value)) : Object :=
  Object.of "" "" (((ev.lookup "object").bind Json.fields?).getD [])

def IsObjectEvent (ev : List (String × Value)) : Prop :=
  textOf ev "type" ≠ "BOOKMARK" ∧ textOf ev "type" ≠ "ERROR"

namespace Object

def Within (allowed : List String) (o : Object) : Prop :=
  o.namespaceName ≠ "" ∧ o.namespaceName ∈ allowed

def Named (allowed : List String) (o : Object) : Prop := o.name ≠ "" ∧ o.name ∈ allowed

def CoreNamespace (o : Object) : Prop :=
  o.apiVersion = "v1" ∧ o.kind = "Namespace" ∧ o.namespaceName = ""

/-- A user of the allow-set may see it: it is in an allowed namespace or, without a
namespace, is itself an allowed core `Namespace`. -/
def Confined (allowed : List String) (o : Object) : Prop :=
  (o.namespaceName ≠ "" → o.namespaceName ∈ allowed) ∧
    (o.namespaceName = "" → o.CoreNamespace ∧ o.name ∈ allowed)

def Namesake (allowed : List String) (o : Object) : Prop :=
  o.Named allowed ∧ ¬o.Within allowed ∧ ¬o.CoreNamespace

def Passes (allowed : List String) (byName : Prop) [Decidable byName] (o : Object) : Prop :=
  if byName then o.Named allowed else o.Within allowed

variable {allowed : List String} {o : Object}

theorem confined_iff_of_named (h : o.Named allowed) : o.Confined allowed ↔ ¬o.Namesake allowed := by
  unfold Confined Namesake Within
  by_cases hns : o.namespaceName = ""
  · simp [hns, h, h.2]
  · have hcr : ¬o.CoreNamespace := fun hcr => hns hcr.2.2
    simp [hns, h, hcr]

theorem passes_confined_iff {byName : Prop} [Decidable byName] :
    (o.Passes allowed byName → o.Confined allowed) ↔ (byName → ¬o.Namesake allowed) := by
  unfold Passes
  split
  case isTrue hby =>
    refine ⟨fun h _ hs => (confined_iff_of_named hs.1).mp (h hs.1) hs, fun h hnm => ?_⟩
    exact (confined_iff_of_named hnm).mpr (h hby)
  case isFalse hby => exact ⟨fun _ h => absurd h hby, fun _ hw =>
      ⟨fun _ => hw.2, fun hns => absurd hns hw.1⟩⟩

theorem passes_iff_passes {p q : Prop} [Decidable p] [Decidable q] :
    (o.Passes allowed p ↔ o.Passes allowed q) ↔
      ((p ↔ q) ∨ (o.Named allowed ↔ o.Within allowed)) := by
  unfold Passes
  by_cases hp : p <;> by_cases hq : q <;> simp [hp, hq, iff_comm]

end Object

/-! ## Verdicts -/

section

variable {allowed : List String} {body event : Option Value} {list ev : List (String × Value)}
  {item : Value} {kind : String}

theorem keepsItem_iff : keepsItem allowed kind item ↔
      (listedObject list item).Passes allowed (kind = "NamespaceList") := by
  unfold keepsItem listedObject Object.Passes Object.Named Object.Within Object.of
  cases hi : item.fields? with
  | none => simp [metadataOf, textOf]
  | some fields =>
    unfold itemNamespaceKey
    cases hm : metadataOf fields with
    | none => simp [hm, textOf]
    | some metadata =>
      simp only [hm, Option.getD_some]
      by_cases hk : kind = "NamespaceList"
      · by_cases hnm : textOf metadata "name" = "" <;> simp [hk, hnm]
      · by_cases hns : textOf metadata "namespace" = "" <;> simp [hk, hns]

theorem watchEventAllowed_iff (hev : unmarshalMap event = some ev) (ho : IsObjectEvent ev) :
    watchEventAllowed event allowed = some true ↔
      (eventObject ev).Passes allowed ((eventObject ev).kind = "Namespace") := by
  have hty : ¬(textOf ev "type" = "BOOKMARK" ∨ textOf ev "type" = "ERROR") := not_or.mpr ho
  unfold watchEventAllowed eventObject Object.Passes Object.Named Object.Within Object.of
  simp only [hev, if_neg hty]
  cases hob : (ev.lookup "object").bind Json.fields? with
  | none => simp [metadataOf, textOf]
  | some obj =>
    have hk : (if textOf obj "kind" = "" then "" else textOf obj "kind") = textOf obj "kind" := by
      split <;> simp_all
    simp only [Option.getD_some, hk]
    cases hm : metadataOf obj with
    | none => simp [textOf]
    | some metadata => by_cases hns : textOf obj "kind" = "Namespace" <;> simp [hns]

theorem filterK8sListByNamespace_eq (allowed : List String) (hl : unmarshalMap body = some list)
    (hkn : textOf list "kind" ≠ "") :
    ∃ fields, filterK8sListByNamespace body allowed = some (.obj fields) ∧
      (∀ item, item ∈ itemsOf fields ↔ hasSuffix (textOf list "kind") "List" ∧
        item ∈ itemsOf list ∧ keepsItem allowed (textOf list "kind") item) ∧
      ∀ item ∈ itemsOf fields, listedObject fields item = listedObject list item := by
  have he : ∃ fields, emptyListBody list (textOf list "kind") = .obj fields ∧
      itemsOf fields = [] := by
    refine ⟨_, rfl, ?_⟩
    unfold itemsOf
    rw [lookup_setKey_of_ne (by decide)]
    split
    · rw [lookup_setKey_of_ne (by decide)]
      rfl
    · rfl
  unfold filterK8sListByNamespace
  simp only [hl, if_neg hkn]
  cases hi : (list.lookup "items").bind Json.elements? with
  | none =>
    obtain ⟨fields, hf, hn⟩ := he
    have hli : itemsOf list = [] := by simp [itemsOf, hi]
    exact ⟨fields, congrArg some hf, by simp [hn, hli], by simp [hn]⟩
  | some items =>
    cases hs : hasSuffix (textOf list "kind") "List" with
    | false =>
      obtain ⟨fields, hf, hn⟩ := he
      exact ⟨fields, congrArg some hf, by simp [hn], by simp [hn]⟩
    | true =>
      have hot : ∀ key, key ≠ "items" → textOf (setKey "items"
          (.arr (items.filter (keepsItem allowed (textOf list "kind")))) list) key =
            textOf list key := by
        intro key hk
        unfold textOf
        rw [lookup_setKey_of_ne hk]
      refine ⟨_, rfl, ?_, ?_⟩
      · simp [itemsOf, hi, Json.elements?]
      · intro item _
        rw [listedObject, listedObject, hot _ (by decide), hot _ (by decide)]

theorem textOf_kind_ne_empty_of_filter {out} (hl : unmarshalMap body = some list)
    (h : filterK8sListByNamespace body allowed = some out) : textOf list "kind" ≠ "" := by
  intro hk
  simp [filterK8sListByNamespace, hl, hk] at h

/-! ## Confinement -/

def ListConfined (allowed : List String) (body : Option Value) : Prop :=
  ∀ out, filterK8sListByNamespace body allowed = some (.obj out) →
    ∀ item ∈ itemsOf out, (listedObject out item).Confined allowed

def EventConfined (allowed : List String) (event : Option Value) : Prop :=
  ∀ ev, unmarshalMap event = some ev → IsObjectEvent ev →
    watchEventAllowed event allowed = some true → (eventObject ev).Confined allowed

def IsAbout (ev list : List (String × Value)) (item : Value) : Prop :=
  IsObjectEvent ev ∧ eventObject ev = listedObject list item

def VerdictsAgree (allowed : List String) (body event : Option Value) : Prop :=
  ∀ list ev out, unmarshalMap body = some list → unmarshalMap event = some ev →
    filterK8sListByNamespace body allowed = some (.obj out) →
      ∀ item ∈ itemsOf list, IsAbout ev list item →
        (item ∈ itemsOf out ↔ watchEventAllowed event allowed = some true)

def NoNamesakeListed (allowed : List String) (body : Option Value) : Prop :=
  ∀ list, unmarshalMap body = some list → textOf list "kind" = "NamespaceList" →
    ∀ item ∈ itemsOf list, ¬(listedObject list item).Namesake allowed

/-- The event is not of an object of kind `Namespace` that only shares its name with an
allowed namespace. -/
def NoNamesakeEvent (allowed : List String) (event : Option Value) : Prop :=
  ∀ ev, unmarshalMap event = some ev → IsObjectEvent ev →
    (eventObject ev).kind = "Namespace" → ¬(eventObject ev).Namesake allowed

/-- For an item the event is about: the list is a `NamespaceList` exactly when the object is
a `Namespace`, or it makes no difference. Of a body whose kind does not end in `List` the
filter returns nothing, so then WATCH must not accept the object either. -/
def KindsMatch (allowed : List String) (body event : Option Value) : Prop :=
  ∀ list ev, unmarshalMap body = some list → unmarshalMap event = some ev →
    textOf list "kind" ≠ "" → ∀ item ∈ itemsOf list, IsAbout ev list item →
      if hasSuffix (textOf list "kind") "List" then
        (textOf list "kind" = "NamespaceList" ↔ (eventObject ev).kind = "Namespace") ∨
          ((eventObject ev).Named allowed ↔ (eventObject ev).Within allowed)
      else ¬(eventObject ev).Passes allowed ((eventObject ev).kind = "Namespace")

theorem listConfined_iff : ListConfined allowed body ↔ NoNamesakeListed allowed body := by
  constructor
  · intro h list hl hk item hi
    have hne : textOf list "kind" ≠ "" := by simp [hk]
    obtain ⟨out, ho, hmem, hob⟩ := filterK8sListByNamespace_eq allowed hl hne
    refine Object.passes_confined_iff.mp (fun hp => ?_) hk
    have hin : item ∈ itemsOf out :=
      (hmem item).mpr ⟨hk ▸ by decide +kernel, hi, keepsItem_iff.mpr hp⟩
    rw [← hob item hin]
    exact h out ho item hin
  · intro h out ho item hi
    cases hl : unmarshalMap body with
    | none => simp [filterK8sListByNamespace, hl] at ho
    | some list =>
      obtain ⟨out', ho', hmem, hob⟩ := filterK8sListByNamespace_eq allowed hl
        (textOf_kind_ne_empty_of_filter hl ho)
      obtain rfl : out' = out := by simpa [ho] using ho'.symm
      obtain ⟨-, hin, hkp⟩ := (hmem item).mp hi
      rw [hob item hi]
      exact Object.passes_confined_iff.mpr (fun hk => h list hl hk item hin) (keepsItem_iff.mp hkp)

theorem eventConfined_iff : EventConfined allowed event ↔ NoNamesakeEvent allowed event := by
  unfold EventConfined NoNamesakeEvent
  refine forall_congr' fun ev => forall_congr' fun hev => forall_congr' fun ho => ?_
  rw [watchEventAllowed_iff hev ho]
  exact Object.passes_confined_iff

theorem verdictsAgree_iff : VerdictsAgree allowed body event ↔ KindsMatch allowed body event := by
  -- both speak about one item: what LIST does with it is known from its list
  have hi : ∀ list ev out, unmarshalMap body = some list → unmarshalMap event = some ev →
      filterK8sListByNamespace body allowed = some (.obj out) →
      ∀ item ∈ itemsOf list, IsAbout ev list item →
        ((item ∈ itemsOf out ↔ watchEventAllowed event allowed = some true) ↔
          if hasSuffix (textOf list "kind") "List" then
            (textOf list "kind" = "NamespaceList" ↔ (eventObject ev).kind = "Namespace") ∨
              ((eventObject ev).Named allowed ↔ (eventObject ev).Within allowed)
          else ¬(eventObject ev).Passes allowed ((eventObject ev).kind = "Namespace")) := by
    intro list ev out hl hev ho item hin ha
    obtain ⟨out', ho', hmem, -⟩ := filterK8sListByNamespace_eq allowed hl
      (textOf_kind_ne_empty_of_filter hl ho)
    obtain rfl : out' = out := by simpa [ho] using ho'.symm
    have hkp : keepsItem allowed (textOf list "kind") item ↔
        (eventObject ev).Passes allowed (textOf list "kind" = "NamespaceList") := by
      rw [ha.2]
      exact keepsItem_iff
    rw [hmem, watchEventAllowed_iff hev ha.1, hkp, ← Object.passes_iff_passes]
    split <;> simp_all
  constructor
  · intro h list ev hl hev hk item hin ha
    obtain ⟨out, ho, -⟩ := filterK8sListByNamespace_eq allowed hl hk
    exact (hi list ev out hl hev ho item hin ha).mp (h list ev out hl hev ho item hin ha)
  · intro h list ev out hl hev ho item hin ha
    exact (hi list ev out hl hev ho item hin ha).mpr
      (h list ev hl hev (textOf_kind_ne_empty_of_filter hl ho) item hin ha)

/-- **When the filter confines.** A filtered LIST and WATCH return only what lies in the
allow-set, and agree on every object, exactly when the kinds `NamespaceList` and `Namespace`
do not stand for something else: the code tells a namespace from other objects by the kind
alone, and a custom resource may have any kind. -/
theorem filter_confines_iff (allowed : List String) (body event : Option Value) :
    (ListConfined allowed body ∧ EventConfined allowed event ∧ VerdictsAgree allowed body event) ↔
      (NoNamesakeListed allowed body ∧ NoNamesakeEvent allowed event ∧
        KindsMatch allowed body event) :=
  and_congr listConfined_iff (and_congr eventConfined_iff verdictsAgree_iff)

theorem applyNamespaceFilter_confined {resp resp' : Response}
    (h : NoNamesakeListed allowed resp.body) (hs : resp.success)
    (hok : applyNamespaceFilter resp allowed = some resp') :
    ∀ out, resp'.body = some (.obj out) →
      ∀ item ∈ itemsOf out, (listedObject out item).Confined allowed := by
  simp only [applyNamespaceFilter, hs, Bool.not_true, Bool.false_eq_true, if_false,
    Option.map_eq_some_iff] at hok
  obtain ⟨body, hf, rfl⟩ := hok
  intro out ho
  cases ho
  exact listConfined_iff.mpr h out hf

end

/-! ## A custom resource of kind Namespace -/

namespace TeamSettings

def object (namespaceName name : String) : Value :=
  .obj [("apiVersion", .str "example.com/v1"), ("kind", .str "Namespace"),
    ("metadata", .obj [("namespace", .str namespaceName), ("name", .str name)])]

def list (items : List Value) : Value :=
  .obj [("apiVersion", .str "example.com/v1"), ("kind", .str "NamespaceList"),
    ("metadata", .obj []), ("items", .arr items)]

def added (object : Value) : Value := .obj [("type", .str "ADDED"), ("object", object)]

end TeamSettings

/-- An object in `kube-system` goes to a user of `team-a` because it is named `team-a`. -/
theorem namesake_returned : ¬ListConfined ["team-a"]
        (some (TeamSettings.list [TeamSettings.object "kube-system" "team-a"])) ∧
      ¬EventConfined ["team-a"]
        (some (TeamSettings.added (TeamSettings.object "kube-system" "team-a"))) := by
  constructor
  · intro h
    have hk : keepsItem ["team-a"] "NamespaceList" (TeamSettings.object "kube-system" "team-a") =
        true := by decide +kernel
    have hc := h _ rfl (TeamSettings.object "kube-system" "team-a")
      (mem_filter.mpr ⟨mem_singleton_self _, hk⟩)
    exact absurd (hc.1 (by decide +kernel)) (by decide +kernel)
  · intro h
    have hc := h _ rfl ⟨by decide +kernel, by decide +kernel⟩ (by decide +kernel)
    exact absurd (hc.1 (by decide +kernel)) (by decide +kernel)

end Astronomer.Tunnel
