import Astronomer.Delivery.Basic

/-!
# Delivery states and their transition tables

`internal/delivery/state` calls itself the single authority for delivery state
transitions: two tables, one compare-and-set check shared by both machines, and
the counters derived from the cluster states.
-/

namespace Astronomer.Delivery

inductive RolloutState where
  | draft | resolving | awaitingApproval | queued | progressing | paused | rejected
  | aborted | succeeded | failed | rollingBack | rolledBack | rollbackFailed
  deriving DecidableEq

inductive RolloutClusterState where
  | pending | released | acknowledged | reconciling | ready | blocked | timedOut
  | failed | skipped | rollingBack | readyPrevious | rollbackFailed | aborted
  deriving DecidableEq

inductive DeploymentPhase where
  | pending | blocked | applying | ready | degraded | failed | suspended | deleting
  | removed | unknown
  deriving DecidableEq

def RolloutState.text : RolloutState → String
  | .draft => "draft" | .resolving => "resolving"
  | .awaitingApproval => "awaiting_approval" | .queued => "queued"
  | .progressing => "progressing" | .paused => "paused" | .rejected => "rejected"
  | .aborted => "aborted" | .succeeded => "succeeded" | .failed => "failed"
  | .rollingBack => "rolling_back" | .rolledBack => "rolled_back"
  | .rollbackFailed => "rollback_failed"

def RolloutClusterState.text : RolloutClusterState → String
  | .pending => "pending" | .released => "released" | .acknowledged => "acknowledged"
  | .reconciling => "reconciling" | .ready => "ready" | .blocked => "blocked"
  | .timedOut => "timed_out" | .failed => "failed" | .skipped => "skipped"
  | .rollingBack => "rolling_back" | .readyPrevious => "ready_previous"
  | .rollbackFailed => "rollback_failed" | .aborted => "aborted"

def rolloutTransitions : RolloutState → List RolloutState
  | .draft => [.resolving, .aborted]
  | .resolving => [.awaitingApproval, .queued, .failed, .aborted]
  | .awaitingApproval => [.queued, .rejected, .aborted]
  | .queued => [.progressing, .paused, .succeeded, .failed, .aborted]
  | .progressing => [.paused, .succeeded, .failed, .aborted]
  | .paused => [.queued, .progressing, .failed, .aborted, .rollingBack]
  | .succeeded => [.rollingBack]
  | .failed => [.rollingBack]
  | .rollingBack => [.rolledBack, .rollbackFailed]
  | .rejected => []
  | .aborted => []
  | .rolledBack => []
  | .rollbackFailed => []

def rolloutClusterTransitions : RolloutClusterState → List RolloutClusterState
  | .pending => [.released, .blocked, .skipped]
  | .blocked => [.pending, .skipped]
  | .released => [.acknowledged, .reconciling, .ready, .timedOut, .failed, .rollingBack]
  | .acknowledged => [.reconciling, .ready, .timedOut, .failed, .rollingBack]
  | .reconciling => [.ready, .timedOut, .failed, .rollingBack]
  | .ready => [.reconciling, .failed, .rollingBack]
  | .timedOut => [.pending, .rollingBack]
  | .failed => [.pending, .rollingBack]
  | .rollingBack => [.readyPrevious, .failed]
  | .skipped => []
  | .aborted => []
  | .rollbackFailed => []
  | .readyPrevious => [.rollingBack, .failed]

/-! ## The compare-and-set check -/

inductive TransitionCode where
  | invalidTransition | staleFence

structure TransitionError where
  code : TransitionCode
  (machine fromState toState : String)
  (expectedFence actualFence : Int)

structure Fenced (S : Type) where
  state : S
  fence : Int

section Transition

variable {S : Type} [DecidableEq S]

/-- The check both machines make. A repeat of the current state succeeds whatever
the fence; an unknown state cannot be built here, so `invalid_state` has no case. -/
def transition (machine : String) (text : S → String) (table : S → List S)
    (current : Fenced S) (desired : S) (expectedFence : Int) :
    Except TransitionError (Fenced S) :=
  if current.state = desired then .ok current
  else if current.fence ≠ expectedFence then
    .error ⟨.staleFence, machine, text current.state, text desired, expectedFence, current.fence⟩
  else if desired ∈ table current.state then .ok { current with state := desired }
  else .error ⟨.invalidTransition, machine, text current.state, text desired, 0, 0⟩

end Transition

def transitionRollout (current : Fenced RolloutState) (desired : RolloutState)
    (expectedFence : Int) : Except TransitionError (Fenced RolloutState) :=
  transition "rollout" RolloutState.text rolloutTransitions current desired expectedFence

def transitionRolloutCluster (current : Fenced RolloutClusterState)
    (desired : RolloutClusterState) (expectedFence : Int) :
    Except TransitionError (Fenced RolloutClusterState) :=
  transition "rollout_cluster" RolloutClusterState.text rolloutClusterTransitions current
    desired expectedFence

/-! ## Counters -/

structure RolloutCounters where
  total : Nat := 0
  pending : Nat := 0
  active : Nat := 0
  ready : Nat := 0
  failed : Nat := 0
  blocked : Nat := 0
  skipped : Nat := 0
  rollbackReady : Nat := 0
  terminal : Nat := 0
  unavailable : Nat := 0

def RolloutCounters.count (counters : RolloutCounters) (s : RolloutClusterState) :
    RolloutCounters :=
  let counters := { counters with total := counters.total + 1 }
  match s with
  | .pending => { counters with pending := counters.pending + 1 }
  | .released | .acknowledged | .reconciling | .rollingBack =>
    { counters with active := counters.active + 1 }
  | .ready => { counters with ready := counters.ready + 1 }
  | .failed | .timedOut | .rollbackFailed => { counters with failed := counters.failed + 1 }
  | .blocked => { counters with blocked := counters.blocked + 1 }
  | .skipped | .aborted => { counters with skipped := counters.skipped + 1 }
  | .readyPrevious => { counters with rollbackReady := counters.rollbackReady + 1 }

def deriveRolloutCounters (states : List RolloutClusterState) : RolloutCounters :=
  let counters := states.foldl RolloutCounters.count {}
  { counters with
    terminal := counters.ready + counters.failed + counters.skipped + counters.rollbackReady
    unavailable := counters.total - counters.ready - counters.rollbackReady }

end Astronomer.Delivery
