import Astronomer.Delivery.Selection
import Astronomer.Delivery.System

/-!
# The waves of a rollout

A partitioned strategy reads selectors by `partitionMatches`, not as placement does. The two
differ in a required label with an empty value: a missing label passes for it.
-/

namespace Astronomer.Delivery

open List

/-! ## Partition selectors and placement selectors -/

section

variable {selector : Placement} {c : Selection.Candidate}

/-- The candidate as `Planner.Create` passes it to `BuildCohorts`. -/
def cohortCandidate (c : Selection.Candidate) : Candidate :=
  { id := c.id, labels := c.labels, groupIDs := c.groupIDs }

theorem matchesLabels_eq (e : LabelExpression) (labels : List (String × String)) :
    e.matchesLabels labels = Selection.matchesExpression e (labels.lookup e.key) := by
  unfold LabelExpression.matchesLabels Selection.matchesExpression
  cases e.operator <;> cases labels.lookup e.key <;> simp

theorem any_group_eq (wanted groups : List UUID) :
    (wanted.any fun id => groups.contains id) = !(groups.filter wanted.contains).isEmpty := by
  rw [Bool.eq_iff_iff]
  simp only [any_eq_true, contains_iff_mem, Bool.not_eq_true', isEmpty_eq_false_iff,
    ne_eq, filter_eq_nil_iff, not_forall, not_not]
  exact ⟨fun ⟨id, hw, hg⟩ => ⟨id, hg, hw⟩, fun ⟨id, hg, hw⟩ => ⟨id, hw, hg⟩⟩

/-- What `matches` asks of a candidate when only groups, labels and expressions are set. -/
theorem matches_isSome (hp : selector.projectIDs = []) (hi : selector.clusterIDs = [])
    (ha : selector.allClusters = false) (hsm : selector.isEmpty = false) :
    (Selection.«matches» selector c).isSome = ((selector.clusterGroupIDs.isEmpty ||
        selector.clusterGroupIDs.any fun id => c.groupIDs.contains id) &&
      (selector.matchLabels.all fun entry => c.labels.lookup entry.1 == some entry.2) &&
      selector.matchExpressions.all fun e => e.matchesLabels c.labels) := by
  have hs : (selector.clusterGroupIDs.isEmpty && selector.matchLabels.isEmpty &&
      selector.matchExpressions.isEmpty) = false := by
    simpa [Placement.isEmpty, hi, ha] using hsm
  have hl : (selector.matchLabels.any fun entry => c.labels.lookup entry.1 != some entry.2) =
      !(selector.matchLabels.all fun entry => c.labels.lookup entry.1 == some entry.2) := by
    rw [not_all_eq_any_not]
    rfl
  have hex : (selector.matchExpressions.any fun e =>
      !Selection.matchesExpression e (c.labels.lookup e.key)) =
      !(selector.matchExpressions.all fun e => e.matchesLabels c.labels) := by
    simp only [matchesLabels_eq, not_all_eq_any_not]
  unfold Selection.«matches»
  rw [any_group_eq, hl, hex, hs]
  simp only [hp, hi, ha, isEmpty_nil, Bool.not_true, Bool.false_and,
    contains_nil, Bool.false_eq_true, if_false]
  by_cases hg : selector.clusterGroupIDs.isEmpty ||
      !(c.groupIDs.filter selector.clusterGroupIDs.contains).isEmpty
  · grind
  · grind

theorem lookup_eq_some_iff {labels : List (String × String)} {key wanted : String} :
    labels.lookup key = some wanted ↔
      (labels.lookup key).getD "" = wanted ∧ (wanted = "" → (labels.lookup key).isSome) := by
  cases labels.lookup key with
  | none => simp [eq_comm]
  | some value => simp

/-- The candidate is in none of the groups, has another value for a label, lacks a label with a
non-empty value, or does not meet an expression. -/
def Unmet (selector : Placement) (c : Selection.Candidate) : Prop :=
  (selector.clusterGroupIDs ≠ [] ∧ ∀ id ∈ selector.clusterGroupIDs, id ∉ c.groupIDs) ∨
    (∃ entry ∈ selector.matchLabels, c.labels.lookup entry.1 ≠ some entry.2 ∧
      (entry.2 = "" → (c.labels.lookup entry.1).isSome)) ∨
    ∃ e ∈ selector.matchExpressions,
      Selection.matchesExpression e (c.labels.lookup e.key) = false

theorem partitionMatches_eq_true_iff :
    partitionMatches selector (cohortCandidate c) ↔ ¬ Unmet selector c := by
  simp only [partitionMatches, cohortCandidate, Unmet, matchesLabels_eq, Bool.and_eq_true,
    Bool.or_eq_true, List.isEmpty_iff, any_eq_true, all_eq_true, contains_iff_mem, beq_iff_eq]
  constructor
  · rintro ⟨⟨hg, hl⟩, hex⟩ (⟨hne, hno⟩ | ⟨entry, hen, hlo, he⟩ | ⟨e, hem, hf⟩)
    · obtain ⟨id, hid, hin⟩ := hg.resolve_left hne
      exact hno id hid hin
    · exact hlo (lookup_eq_some_iff.mpr ⟨hl entry hen, he⟩)
    · rw [hex e hem] at hf
      cases hf
  · intro hu
    refine ⟨⟨or_iff_not_imp_left.mpr fun hne => ?_, fun entry hen => ?_⟩, fun e hem => ?_⟩
    · by_contra hno
      exact hu (.inl ⟨hne, fun id hid hin => hno ⟨id, hid, hin⟩⟩)
    · by_contra hno
      refine hu (.inr (.inl ⟨entry, hen, fun hlo => hno (lookup_eq_some_iff.mp hlo).1, ?_⟩))
      intro he
      exact Option.isSome_iff_ne_none.mpr fun hnone => hno (by rw [hnone, he]; rfl)
    · exact eq_true_of_ne_false fun hf => hu (.inr (.inr ⟨e, hem, hf⟩))

/-- **Partition selectors and placement selectors agree** on a cluster unless it lacks a label
that is required with an empty value and meets every other requirement; in particular they
agree for a selector without an empty value. -/
theorem partitionMatches_eq_iff (selector : Placement) (c : Selection.Candidate)
    (hprojects : selector.projectIDs = []) (hids : selector.clusterIDs = [])
    (hall : selector.allClusters = false) (hsome : selector.isEmpty = false) :
    (partitionMatches selector (cohortCandidate c) = (Selection.«matches» selector c).isSome ↔
      (∀ entry ∈ selector.matchLabels, entry.2 = "" → (c.labels.lookup entry.1).isSome) ∨
        Unmet selector c) ∧
    ((∀ entry ∈ selector.matchLabels, entry.2 ≠ "") →
      partitionMatches selector (cohortCandidate c) =
        (Selection.«matches» selector c).isSome) := by
  have hiff : partitionMatches selector (cohortCandidate c) =
      (Selection.«matches» selector c).isSome ↔
      (partitionMatches selector (cohortCandidate c) →
        ∀ entry ∈ selector.matchLabels, entry.2 = "" → (c.labels.lookup entry.1).isSome) := by
    rw [matches_isSome hprojects hids hall hsome, Bool.eq_iff_iff]
    simp only [partitionMatches, cohortCandidate, Bool.and_eq_true, all_eq_true, beq_iff_eq,
      lookup_eq_some_iff]
    constructor
    · intro heq hp entry hen
      exact ((heq.mp hp).1.2 entry hen).2
    · intro he
      constructor
      · intro hp
        have hl := he hp
        obtain ⟨⟨hg, hmt⟩, hex⟩ := hp
        exact ⟨⟨hg, fun entry hen => ⟨hmt entry hen, hl entry hen⟩⟩, hex⟩
      · rintro ⟨⟨hg, hmt⟩, hex⟩
        exact ⟨⟨hg, fun entry hen => (hmt entry hen).1⟩, hex⟩
  refine ⟨?_, fun hne => hiff.mpr fun _ entry hen he => absurd he (hne entry hen)⟩
  rw [hiff, partitionMatches_eq_true_iff]
  exact ⟨fun h => or_iff_not_imp_right.mpr h, fun h hu => h.resolve_right hu⟩

end

namespace Tiers

def candidate (labels : List (String × String)) : Selection.Candidate :=
  { id := 7, projectID := 1, name := "edge", labels, connected := true
    compatibility := .compatible }

def selector (tier : String) : Placement := { matchLabels := [("tier", tier)] }

theorem gold_agrees :
    partitionMatches (selector "gold") (cohortCandidate (candidate [("tier", "gold")])) =
      (Selection.«matches» (selector "gold") (candidate [("tier", "gold")])).isSome :=
  (partitionMatches_eq_iff (selector "gold") (candidate [("tier", "gold")]) rfl rfl rfl rfl).2
    (by decide)

/-- The selector asks for an empty tier: a cluster without one is put in the partition, though
placement does not match it. -/
theorem untiered_differs : (selector "").validate OneCluster.env = [] ∧
      partitionMatches (selector "") (cohortCandidate (candidate [])) ∧
      Selection.«matches» (selector "") (candidate []) = none := by
  decide

end Tiers

end Astronomer.Delivery
