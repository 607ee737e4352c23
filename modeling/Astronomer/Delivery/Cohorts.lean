import Mathlib.Data.List.Sort
import Astronomer.Base.Sha256
import Astronomer.Delivery.Strategy

/-!
# Cohorts

`BuildCohorts` freezes the membership and the order of a rollout: candidates are
put in one canonical order (by identity, or by a seeded hash of it), cut into
cohorts as the strategy says, and numbered through.
-/

namespace Astronomer.Delivery

open List

variable {candidates ordered : List Candidate} {cohorts : List Cohort}

structure Candidate where
  id : UUID
  labels : List (String × String) := []
  groupIDs : List UUID := []

def uuidText (id : UUID) : String :=
  let digits (i n : Nat) : String :=
    String.ofList ((List.range n).map fun j => hexDigit (id / 16 ^ (31 - i - j) % 16))
  digits 0 8 ++ "-" ++ digits 8 4 ++ "-" ++ digits 12 4 ++ "-" ++ digits 16 4 ++ "-" ++
    digits 20 12

def stableHash (seed : String) (id : UUID) : List Nat :=
  sha256 (goBytes seed ++ 0 :: (Sha256.bigEndian 16 id).map UInt8.ofNat)

def lessCandidate (seed : String) (left right : UUID) : Bool :=
  if seed = "" then decide (left < right)
  else if stableHash seed left ≠ stableHash seed right then
    decide (stableHash seed left < stableHash seed right)
  else decide (left < right)

def sortCandidates (seed : String) (candidates : List Candidate) : List Candidate :=
  candidates.insertionSort fun a b => lessCandidate seed a.id b.id

def canonicalCandidates (input : List Candidate) (seed : String) :
    Except Error (List Candidate) := do
  input.zipIdx.forM fun (candidate, i) => do
    require (candidate.id != 0) (fail .invalidInput "clusters" "contains a zero UUID")
    require (!(input.take i).any (·.id == candidate.id))
      (fail .invalidInput "clusters" s!"contains duplicate {uuidText candidate.id}")
  return sortCandidates seed input

def amountSize (amount : Amount) (total : Nat) (roundUp : Bool) : Nat :=
  if amount.type = .count then amount.value
  else
    let value := total * amount.value
    (if roundUp && value % 100 != 0 then value + 100 else value) / 100

def newCohort (index : Nat) (name : String) (members : List Candidate) (approval : Bool)
    (soak : Duration) : Cohort :=
  { index, name, clusterIDs := members.map Candidate.id, approvalRequired := approval
    approvalDigest := "", soakAfter := soak }

def canarySet (spec : CanarySpec) (ordered : List Candidate) (seed : String) :
    Except Error (List UUID) :=
  if spec.clusterIDs ≠ [] then do
    spec.clusterIDs.forM fun id =>
      require (ordered.any (·.id == id)) (fail .invalidCohorts "canary.cluster_ids"
        s!"cluster {uuidText id} is not in the frozen placement")
    return spec.clusterIDs
  else do
    let count := amountSize spec.size ordered.length true
    require (decide (count ≤ ordered.length))
      (fail .invalidCohorts "canary.size" "exceeds selected cluster count")
    let canarySeed :=
      if seed = "" then "astronomer-canary-v1" else "astronomer-canary-v1\x00" ++ seed
    return ((sortCandidates canarySeed ordered).take count).map Candidate.id

def splitCanary (spec : CanarySpec) (ordered : List Candidate) (seed : String) :
    Except Error (List Candidate × List Candidate) := do
  let selected ← canarySet spec ordered seed
  return (ordered.filter fun c => selected.contains c.id,
    ordered.filter fun c => !selected.contains c.id)

def numberedName (name : String) (n : Nat) : String :=
  name ++ "-" ++ String.ofList (List.replicate (4 - (toString n).length) '0') ++ toString n

/-- The slices `candidates[start:start+size]`. `fuel` bounds their number; the length of the
list is enough, because a valid strategy has a positive size. -/
def slices {α : Type} (size : Nat) : Nat → List α → List (List α)
  | 0, _ => []
  | _, [] => []
  | fuel + 1, x :: xs => (x :: xs).take size :: slices size fuel ((x :: xs).drop size)

def batchCohorts (candidates : List Candidate) (size offset : Nat) (name : String) : List Cohort :=
  (slices size candidates.length candidates).zipIdx.map fun (members, i) =>
    newCohort (offset + i) (numberedName name (offset + i)) members false 0

def LabelExpression.matchesLabels (e : LabelExpression) (labels : List (String × String)) : Bool :=
  let value := labels.lookup e.key
  let contains := e.values.contains (value.getD "")
  match e.operator with
  | .isIn => value.isSome && contains
  | .notIn => !(value.isSome && contains)
  | .exists => value.isSome
  | .doesNotExist => value.isNone

def partitionMatches (selector : Placement) (candidate : Candidate) : Bool :=
  (selector.clusterGroupIDs.isEmpty ||
    selector.clusterGroupIDs.any fun id => candidate.groupIDs.contains id) &&
  (selector.matchLabels.all fun entry => (candidate.labels.lookup entry.1).getD "" == entry.2) &&
  selector.matchExpressions.all fun e => e.matchesLabels candidate.labels

def partitionIndex (partitions : List Partition) (candidate : Candidate) : Except Error Nat :=
  match (partitions.zipIdx.filter fun p =>
      partitionMatches p.1.selector candidate).map Prod.snd with
  | [index] => pure index
  | [] => throw (fail .invalidCohorts "partitions"
      s!"cluster {uuidText candidate.id} matches no partition")
  | _ => throw (fail .invalidCohorts "partitions"
      s!"cluster {uuidText candidate.id} matches multiple partitions")

/-- The cohorts of a partitioned strategy, one for each partition. The name of a valid
partition has no control character, so `%q` only puts it in quotes. -/
def partitionCohorts (partitions : List Partition) (ordered : List Candidate) :
    Except Error (List Cohort) := do
  let indices ← ordered.mapM (partitionIndex partitions)
  partitions.zipIdx.mapM fun (partition, i) => do
    let members := ((ordered.zip indices).filter fun p => p.2 == i).map Prod.fst
    require (!members.isEmpty) (fail .invalidCohorts "partitions"
      ("partition \"" ++ partition.name ++ "\" is empty"))
    return newCohort i partition.name members partition.approvalRequired partition.soak

def gateFirst (approval : Bool) : List Cohort → List Cohort
  | [] => []
  | c :: cs => { c with approvalRequired := c.approvalRequired || approval } :: cs

/-- The `switch strategy.Type` of `BuildCohorts`. A canary strategy without its spec does
not pass `Validate`. -/
def cohortsOf (strategy : RolloutStrategy) (ordered : List Candidate) :
    Except Error (List Cohort) :=
  match strategy.type, strategy.canary with
  | .allAtOnce, _ => pure [newCohort 0 "all" ordered false 0]
  | .rolling, _ => pure (batchCohorts ordered strategy.maxConcurrent 0 "rolling")
  | .canary, some spec => do
    let (canary, rest) ← splitCanary spec ordered strategy.shuffleSeed
    return newCohort 0 "canary" canary false spec.soak ::
      gateFirst spec.approvalAfterCanary (batchCohorts rest strategy.maxConcurrent 1 "rolling")
  | .canary, none => throw (fail .invalidInput "strategy.type" "unsupported strategy")
  | .partitioned, _ => partitionCohorts strategy.partitions ordered

def planClusters (cohorts : List Cohort) : List PlannedCluster :=
  (cohorts.flatMap fun c => c.clusterIDs.map fun id => (id, c.index)).zipIdx.map
    fun ((clusterID, cohort), order) =>
      { clusterID, cohort, order, desired := none, previous := none }

def buildCohorts (env : Env) (strategy : RolloutStrategy) (candidates : List Candidate) :
    Except Error (List Cohort × List PlannedCluster) := do
  let violations := strategy.validate env
  require violations.isEmpty (fail .invalidInput "strategy" (violationsText violations))
  let ordered ← canonicalCandidates candidates strategy.shuffleSeed
  require (!ordered.isEmpty) (fail .noClusters "clusters" "rollout selection is empty")
  let cohorts ← cohortsOf strategy ordered
  return (cohorts, planClusters cohorts)

/-! ## Only candidates are planned -/

def Cohort.Within (c : Cohort) (candidates : List Candidate) : Prop :=
  ∀ id ∈ c.clusterIDs, ∃ m ∈ candidates, m.id = id

theorem newCohort_within {index name members approval soak} (h : ∀ m ∈ members, m ∈ candidates) :
    (newCohort index name members approval soak).Within candidates := by
  intro id hid
  obtain ⟨m, hm, rfl⟩ := mem_map.mp hid
  exact ⟨m, h m hm, rfl⟩

theorem mem_of_mem_slices {α : Type} {size fuel : Nat} {xs ys : List α} {y : α}
    (h : ys ∈ slices size fuel xs) (hy : y ∈ ys) : y ∈ xs := by
  fun_induction slices size fuel xs with
  | case1 | case2 => cases h
  | case3 fuel x xs ih =>
    rcases mem_cons.mp h with rfl | h
    · exact mem_of_mem_take hy
    · exact mem_of_mem_drop (ih h)

theorem batchCohorts_within {size offset : Nat} {name : String}
    {c : Cohort} (h : c ∈ batchCohorts candidates size offset name) : c.Within candidates := by
  obtain ⟨⟨members, i⟩, hmem, rfl⟩ := mem_map.mp h
  exact newCohort_within fun m hm => mem_of_mem_slices (fst_mem_of_mem_zipIdx hmem) hm

theorem gateFirst_within {approval} (h : ∀ c ∈ cohorts, c.Within candidates) :
    ∀ c ∈ gateFirst approval cohorts, c.Within candidates := by
  cases cohorts with
  | nil => exact h
  | cons first rest =>
    intro c hc
    rcases mem_cons.mp hc with rfl | hc
    · exact h first mem_cons_self
    · exact h c (mem_cons_of_mem _ hc)

theorem splitCanary_subset {spec canary rest seed}
    (h : splitCanary spec ordered seed = .ok (canary, rest)) :
    (∀ m ∈ canary, m ∈ ordered) ∧ ∀ m ∈ rest, m ∈ ordered := by
  simp only [splitCanary, bind_eq_ok, pure_eq_ok, Prod.mk.injEq] at h
  obtain ⟨_, _, rfl, rfl⟩ := h
  exact ⟨fun m hm => (mem_filter.mp hm).1, fun m hm => (mem_filter.mp hm).1⟩

theorem partitionCohorts_within {partitions} (h : partitionCohorts partitions ordered = .ok cohorts)
    :
    ∀ c ∈ cohorts, c.Within ordered := by
  simp only [partitionCohorts, bind_eq_ok] at h
  obtain ⟨indices, -, h⟩ := h
  intro c hc
  obtain ⟨⟨partition, i⟩, -, ho⟩ := exists_of_mem_mapM h hc
  simp only [bind_eq_ok, pure_eq_ok] at ho
  obtain ⟨_, -, rfl⟩ := ho
  refine newCohort_within fun m hm => ?_
  obtain ⟨p, hp, rfl⟩ := mem_map.mp hm
  exact (of_mem_zip (mem_filter.mp hp).1).1

theorem cohortsOf_within {strategy} (h : cohortsOf strategy ordered = .ok cohorts) :
    ∀ c ∈ cohorts, c.Within ordered := by
  unfold cohortsOf at h
  split at h
  · obtain rfl := pure_eq_ok.mp h
    intro c hc
    obtain rfl := mem_singleton.mp hc
    exact newCohort_within fun m hm => hm
  · obtain rfl := pure_eq_ok.mp h
    exact fun c hc => batchCohorts_within hc
  · simp only [bind_eq_ok, pure_eq_ok] at h
    obtain ⟨⟨canary, rest⟩, hsp, rfl⟩ := h
    obtain ⟨hcn, hrest⟩ := splitCanary_subset hsp
    intro c hc
    rcases mem_cons.mp hc with rfl | hc
    · exact newCohort_within hcn
    · refine gateFirst_within (fun c hc id hid => ?_) c hc
      obtain ⟨m, hm, rfl⟩ := batchCohorts_within hc id hid
      exact ⟨m, hrest m hm, rfl⟩
  · cases h
  · exact partitionCohorts_within h

theorem exists_candidate_of_planned {env strategy planned}
    (h : buildCohorts env strategy candidates = .ok (cohorts, planned)) {p : PlannedCluster}
    (hp : p ∈ planned) : ∃ c ∈ candidates, c.id = p.clusterID := by
  simp only [buildCohorts, canonicalCandidates, bind_eq_ok, pure_eq_ok, Prod.mk.injEq] at h
  obtain ⟨_, -, ordered, ⟨_, -, rfl⟩, _, -, _, hch, rfl, rfl⟩ := h
  obtain ⟨⟨⟨clusterID, cohort⟩, order⟩, hmem, rfl⟩ := mem_map.mp hp
  obtain ⟨c, hc, hid⟩ := mem_flatMap.mp (fst_mem_of_mem_zipIdx hmem)
  obtain ⟨id, hid, heq⟩ := mem_map.mp hid
  obtain ⟨m, hm, rfl⟩ := cohortsOf_within hch c hc id hid
  exact ⟨m, (mem_insertionSort _).mp hm, (Prod.mk.inj heq).1⟩

end Astronomer.Delivery
