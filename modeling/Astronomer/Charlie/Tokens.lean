import Astronomer.Charlie.Branches
import Astronomer.Charlie.System

/-!
# The dispatch token

A guard call may invoke a write capability only after its own compare-and-set from claimed to
dispatched has been answered: that answer is its `Token`, and the invocation spends it.
-/

namespace Astronomer.Charlie

variable {op : Op} {next : ActionState} {r : Receipt}

structure Token where
  permit : Bool
  mine : List UUID

def dispatchProtocol (actionID : String) : Protocol Op Ans Token where
  allowed k
    | .getReceipt a => a = actionID
    | .transitionReceipt p =>
      p.nextState ≠ .claimed ∧ (p.nextState = .deferred → p.expectedState = .claimed) ∧
        (p.nextState = .dispatched → p.expectedState = .claimed ∧ p.id ∈ k.mine)
    | .execute d _ => d.effect = .write → k.permit
    | _ => True
  next k
    | .getReceipt _ => fun answer => match answer with
      | some r => { k with mine := r.id :: k.mine }
      | none => k
    | .transitionReceipt p => fun answer => match answer with
      | some _ => if p.nextState = .dispatched then { k with permit := true } else k
      | none => k
    | .execute d _ => fun _ => if d.effect = .write then { k with permit := false } else k
    | _ => fun _ => k

def Idle : Op → Prop
  | .getReceipt _ | .transitionReceipt _ | .execute _ _ => False
  | _ => True

theorem Side.idle (h : Side op) : Idle op := by
  cases op <;> first | exact h.elim | trivial

theorem Idle.allowed {actionID : String} (k : Token) (h : Idle op) :
    (dispatchProtocol actionID).allowed k op ∧
      ∀ a, (dispatchProtocol actionID).next k op a = k := by
  cases op <;> first | exact h.elim | exact ⟨trivial, fun _ => rfl⟩

namespace Replica

variable {g : Replica} {result : ActionResult} {actionID : String}

theorem keeps_idle (h : Idle op) : (ask op).Keeps (dispatchProtocol actionID) :=
  Prog.keeps_ask fun k => (h.allowed k).1

theorem idle_bind {α : Type} {f : Ans op → Program α} (h : Idle op)
    (hf : ∀ a, (f a).Keeps (dispatchProtocol actionID)) :
    (ask op >>= f).Keeps (dispatchProtocol actionID) :=
  (keeps_idle h).bind hf

/-! ## The reconciler -/

theorem decryptArguments_keeps {descriptor : Option CapabilityDescriptor} :
    (g.decryptArguments r descriptor).Keeps (dispatchProtocol actionID) := by
  unfold decryptArguments
  split
  · exact Prog.keeps_pure
  split
  · exact Prog.keeps_pure
  refine idle_bind trivial fun plain => ?_
  split
  · exact Prog.keeps_pure
  split
  · exact Prog.keeps_pure
  split
  · exact Prog.keeps_pure
  split <;> exact Prog.keeps_pure

theorem finish_keeps (h : next ≠ .claimed ∧ next ≠ .deferred ∧ next ≠ .dispatched) :
    (g.finish r next result).Keeps (dispatchProtocol actionID) := by
  unfold finish
  refine Prog.Keeps.bind (fun k => ?_) fun sealing => ?_
  · exact (sealResult_only.follows fun k op h => Idle.allowed k h.idle).mono fun _ _ _ => trivial
  split
  · exact Prog.keeps_pure
  refine (Prog.keeps_ask fun k => ?_).bind fun answer => ?_
  · exact ⟨h.1, fun hd => absurd hd h.2.1, fun hd => absurd hd h.2.2⟩
  split
  · exact Prog.keeps_pure
  · exact keeps_idle trivial

theorem reconcile_keeps {now : Time} :
    (g.reconcile r now).Keeps (dispatchProtocol actionID) := by
  unfold reconcile
  split
  · exact finish_keeps (by decide)
  refine decryptArguments_keeps.bind fun recovered => ?_
  split
  · refine idle_bind trivial fun verified => ?_
    split
    · exact finish_keeps (by decide)
    split <;> exact finish_keeps (by decide)
  · exact finish_keeps (by decide)

theorem reconcileBatch_keeps (n : Nat) :
    (g.reconcileBatch n).Keeps (dispatchProtocol actionID) := by
  induction n with
  | zero => exact Prog.keeps_pure
  | succ n ih =>
    refine idle_bind trivial fun now => idle_bind trivial fun answer => ?_
    split
    · refine reconcile_keeps.bind fun done => ?_
      split
      · exact ih
      · exact Prog.keeps_pure
    · exact Prog.keeps_pure
    · exact Prog.keeps_pure

end Replica

end Astronomer.Charlie
