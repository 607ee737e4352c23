import Astronomer.Delivery.Types

/-!
# Validation of strategies and selectors

`model.RolloutStrategy.Validate` collects every violation in a fixed order; a
strategy is valid when the list is empty.
-/

namespace Astronomer.Delivery

open List

inductive ValidationCode where
  | required | invalid | unsupported | conflict | limitExceeded | notImmutable

structure Violation where
  field : String
  code : ValidationCode
  message : String

def violationIf (bad : Bool) (field : String) (code : ValidationCode) (message : String) :
    List Violation :=
  if bad then [⟨field, code, message⟩] else []

def within (outer : String) (vs : List Violation) : List Violation :=
  vs.map fun v =>
    { v with field := if outer = "" then v.field
                      else if v.field = "" then outer else outer ++ "." ++ v.field }

def violationsText (vs : List Violation) : String :=
  "delivery model validation failed: " ++
    String.intercalate "; " (vs.map fun v => v.field ++ ": " ++ v.message)

def checkViolations (vs : List Violation) : Except Error Unit :=
  require vs.isEmpty (fail .validation "" (violationsText vs))

def maxPlacementIDs : Nat := 10000

def maxMatchLabels : Nat := 256

def maxMatchExpressions : Nat := 256

def maxExpressionValues : Nat := 256

def maxNameLength : Nat := 253

def repeatsEarlier {α : Type} [DecidableEq α] (xs : List α) (i : Nat) : Bool :=
  match xs[i]? with
  | some x => (xs.take i).contains x
  | none => false

def eachViolation {α : Type} (xs : List α) (check : Nat → α → List Violation) :
    List Violation :=
  (xs.zipIdx.map fun p => check p.2 p.1).flatten

@[simp] theorem violationIf_eq_nil {bad field message code} :
    violationIf bad field code message = [] ↔ bad = false := by
  cases bad <;> simp [violationIf]

theorem eachViolation_eq_nil {α : Type} {xs : List α} {check : Nat → α → List Violation}
    (h : eachViolation xs check = []) {i : Nat} {x : α} (hx : xs[i]? = some x) :
    check i x = [] := by
  refine flatten_eq_nil_iff.mp h _ (mem_map.mpr ⟨(x, i), ?_, rfl⟩)
  exact mem_zipIdx_iff_getElem?.mpr hx

theorem nodup_of_repeatsEarlier {α : Type} [DecidableEq α] {xs : List α}
    (h : ∀ i, repeatsEarlier xs i = false) : xs.Nodup := by
  refine pairwise_iff_getElem.mpr fun i j hi hj hij heq => ?_
  have hj' := h j
  rw [repeatsEarlier, getElem?_eq_getElem hj] at hj'
  have hmem : xs[j] ∈ xs.take j := by
    rw [← heq]
    exact mem_take_iff_getElem.mpr ⟨i, by omega, rfl⟩
  simp [hmem] at hj'

def validateUUIDSet (field : String) (values : List UUID) : List Violation :=
  violationIf (decide (maxPlacementIDs < values.length)) field .limitExceeded
      s!"must contain at most {maxPlacementIDs} entries" ++
    eachViolation values fun i value =>
      violationIf (value == 0) s!"{field}[{i}]" .required "must be a non-zero UUID" ++
      violationIf (repeatsEarlier values i) s!"{field}[{i}]" .conflict
        "must not contain duplicates"

theorem nodup_of_validateUUIDSet {field : String} {values : List UUID}
    (h : validateUUIDSet field values = []) : values.Nodup := by
  refine nodup_of_repeatsEarlier fun i => ?_
  cases hi : values[i]? with
  | none => rw [repeatsEarlier, hi]
  | some value =>
    have hc := eachViolation_eq_nil (append_eq_nil_iff.mp h).2 hi
    simp only [append_eq_nil_iff, violationIf_eq_nil] at hc
    exact hc.2

def validateName (field value : String) : List Violation :=
  if value = "" then [⟨field, .required, "is required"⟩]
  else if value ≠ trimSpace value ∨
      value.toList.any (fun c => decide (c.val < 0x20) || c.val == 0x7f) then
    [⟨field, .invalid, "must not contain surrounding whitespace or control characters"⟩]
  else violationIf (decide (maxNameLength < value.utf8ByteSize)) field .limitExceeded
    s!"must be at most {maxNameLength} bytes"

def Amount.validate (a : Amount) (field : String) (requirePositive : Bool) : List Violation :=
  (match a.type with
    | .count => []
    | .percent =>
      violationIf (decide (100 < a.value)) (field ++ ".value") .invalid
        "percentage must not exceed 100"
    | .unset => [⟨field ++ ".type", .unsupported, "must be count or percent"⟩]) ++
  violationIf (requirePositive && a.value == 0) (field ++ ".value") .invalid
    "must be greater than zero"

def LabelExpression.validate (env : Env) (e : LabelExpression) : List Violation :=
  violationIf (!env.isQualifiedName e.key) "key" .invalid
    "must be a Kubernetes qualified label key" ++
  (match e.operator with
    | .isIn | .notIn =>
      violationIf e.values.isEmpty "values" .required "must not be empty for In or NotIn"
    | .exists | .doesNotExist =>
      violationIf (!e.values.isEmpty) "values" .conflict
        "must be empty for Exists or DoesNotExist") ++
  violationIf (decide (maxExpressionValues < e.values.length)) "values" .limitExceeded
    s!"must contain at most {maxExpressionValues} entries" ++
  eachViolation e.values fun i value =>
    violationIf (!env.isValidLabelValue value) s!"values[{i}]" .invalid
      "must be a Kubernetes label value" ++
    violationIf (repeatsEarlier e.values i) s!"values[{i}]" .conflict
      "must not contain duplicates"

def Placement.isEmpty (p : Placement) : Bool :=
  !p.allClusters && p.clusterIDs.isEmpty && p.clusterGroupIDs.isEmpty &&
    p.matchLabels.isEmpty && p.matchExpressions.isEmpty

def Placement.validate (env : Env) (p : Placement) : List Violation :=
  validateUUIDSet "project_ids" p.projectIDs ++
  validateUUIDSet "cluster_ids" p.clusterIDs ++
  validateUUIDSet "cluster_group_ids" p.clusterGroupIDs ++
  validateUUIDSet "exclude_cluster_ids" p.excludeClusterIDs ++
  violationIf (p.allClusters && !(p.clusterIDs.isEmpty && p.clusterGroupIDs.isEmpty &&
      p.matchLabels.isEmpty && p.matchExpressions.isEmpty)) "all_clusters" .conflict
    "cannot be combined with cluster, group, or label selectors" ++
  violationIf (decide (maxMatchLabels < p.matchLabels.length)) "match_labels" .limitExceeded
    s!"must contain at most {maxMatchLabels} entries" ++
  (eachViolation p.matchLabels fun _ entry =>
    violationIf (!env.isQualifiedName entry.1) "match_labels" .invalid
      "contains an invalid Kubernetes label key" ++
    violationIf (!env.isValidLabelValue entry.2) "match_labels" .invalid
      "contains an invalid Kubernetes label value") ++
  violationIf (decide (maxMatchExpressions < p.matchExpressions.length)) "match_expressions"
    .limitExceeded s!"must contain at most {maxMatchExpressions} entries" ++
  (eachViolation p.matchExpressions fun i e =>
    within s!"match_expressions[{i}]" (e.validate env) ++
    violationIf (repeatsEarlier (p.matchExpressions.map fun x => (x.operator, x.key)) i)
      s!"match_expressions[{i}]" .conflict "duplicates an operator/key expression") ++
  eachViolation p.clusterIDs fun i id =>
    violationIf (p.excludeClusterIDs.contains id) s!"cluster_ids[{i}]" .conflict
      "cannot also be explicitly excluded"

def CanarySpec.validate (s : CanarySpec) : List Violation :=
  (if s.clusterIDs.isEmpty then s.size.validate "size" true
   else validateUUIDSet "cluster_ids" s.clusterIDs ++
    violationIf (s.size.type != .unset || s.size.value != 0) "size" .conflict
      "must be omitted when explicit canary cluster IDs are set") ++
  violationIf (decide (s.soak < 0)) "soak" .invalid "must not be negative"

def Partition.validate (env : Env) (p : Partition) : List Violation :=
  validateName "name" p.name ++
  within "selector" (p.selector.validate env) ++
  violationIf p.selector.isEmpty "selector" .required
    "must select a bounded group or label cohort" ++
  violationIf (p.selector.allClusters || !p.selector.clusterIDs.isEmpty ||
      !p.selector.projectIDs.isEmpty || !p.selector.excludeClusterIDs.isEmpty)
    "selector" .conflict "partition selectors may contain only group and label predicates" ++
  violationIf (decide (p.soak < 0)) "soak" .invalid "must not be negative"

def RolloutStrategy.validate (env : Env) (s : RolloutStrategy) : List Violation :=
  violationIf (s.maxConcurrent == 0) "max_concurrent" .invalid "must be greater than zero" ++
  s.maxUnavailable.validate "max_unavailable" false ++
  s.failureThreshold.validate "failure_threshold" true ++
  violationIf (decide (s.progressDeadline ≤ 0)) "progress_deadline" .invalid
    "must be greater than zero" ++
  violationIf (decide (s.minReady < 0)) "min_ready" .invalid "must not be negative" ++
  violationIf (decide (128 < s.shuffleSeed.utf8ByteSize)) "shuffle_seed" .limitExceeded
    "must be at most 128 bytes" ++
  match s.type with
  | .allAtOnce | .rolling =>
    violationIf s.canary.isSome "canary" .conflict "is only valid for a canary strategy" ++
    violationIf (!s.partitions.isEmpty) "partitions" .conflict
      "is only valid for a partitioned strategy"
  | .canary =>
    (match s.canary with
      | none => [⟨"canary", .required, "is required for a canary strategy"⟩]
      | some c => within "canary" c.validate) ++
    violationIf (!s.partitions.isEmpty) "partitions" .conflict
      "is only valid for a partitioned strategy"
  | .partitioned =>
    violationIf s.canary.isSome "canary" .conflict "is only valid for a canary strategy" ++
    violationIf s.partitions.isEmpty "partitions" .required
      "must contain at least one partition" ++
    eachViolation s.partitions fun i partition =>
      within s!"partitions[{i}]" (partition.validate env) ++
      violationIf (repeatsEarlier (s.partitions.map Partition.name) i) s!"partitions[{i}].name"
        .conflict "partition names must be unique"

end Astronomer.Delivery
