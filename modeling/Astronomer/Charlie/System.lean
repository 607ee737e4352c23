import Astronomer.Base.ObjectStore
import Astronomer.Base.Run
import Astronomer.Charlie.Reconciler

/-!
# The boundary at work

Any number of replicas run guard calls and reconciler passes against one receipt table. A
statement is atomic, but its answer may be lost; every other call may answer anything. A
crash ends a program where it stands.
-/

namespace Astronomer.Charlie

inductive Call where
  | execute (actionID : String) (descriptor : CapabilityDescriptor) (arguments : Arguments)
  | verify (descriptor : CapabilityDescriptor) (arguments : Arguments)
  deriving DecidableEq

structure World where
  receipts : ReceiptTable
  calls : List Call

namespace World

def statement (fault : Fault) (result : Option (ReceiptTable × Receipt)) (w : World) :
    Option Receipt × World :=
  match result, fault with
  | none, _ => (none, w)
  | some (t, r), .none => (some r, { w with receipts := t })
  | some (t, _), .applied => (none, { w with receipts := t })
  | some _, .lost => (none, w)

def serve (m : Moment) (fault : Fault) (oracle : (op : Op) → Ans op) (actionID : String) :
    (op : Op) → World → Ans op × World
  | .getReceipt a, w => (if fault = .none then w.receipts.get a else none, w)
  | .claimReceipt p, w => w.statement fault (w.receipts.claim m p)
  | .transitionReceipt p, w => w.statement fault (w.receipts.transition m p)
  | .claimAmbiguousReceipt owner lease, w =>
    match w.statement fault (w.receipts.claimAmbiguous m owner lease), fault with
    | (some r, w'), _ => (.claimed r, w')
    | (none, w'), .none => (.noRows, w')
    | (none, w'), _ => (.failed, w')
  | .execute d arguments, w =>
    (oracle (.execute d arguments), { w with calls := .execute actionID d arguments :: w.calls })
  | .verify d arguments result, w =>
    (oracle (.verify d arguments result), { w with calls := .verify d arguments :: w.calls })
  | op, w => (oracle op, w)

end World

structure Thread where
  actionID : String
  program : Program Unit

structure System where
  world : World
  threads : Nat → Option Thread

inductive Event where
  | start (slot : Nat) (g : Replica) (e : ActionEnvelope)
  | reconcile (slot : Nat) (g : Replica)
  | step (slot : Nat) (m : Moment) (fault : Fault) (oracle : (op : Op) → Ans op)
  | crash (slot : Nat)

namespace System

def initial : System := ⟨⟨ReceiptTable.empty, []⟩, fun _ => none⟩

def guardThread (g : Replica) (e : ActionEnvelope) : Thread where
  actionID := e.actionID
  program := do
    let _ ← g.execute e
    pure ()

def reconcilerThread (g : Replica) : Thread := ⟨"", g.runOnce⟩

def advance (m : Moment) (fault : Fault) (oracle : (op : Op) → Ans op) (th : Thread) (w : World) :
    Option Thread × World :=
  match th.program with
  | .ret () => (none, w)
  | .call op k =>
    (some { th with program := k (w.serve m fault oracle th.actionID op).1 },
      (w.serve m fault oracle th.actionID op).2)

def step (s : System) : Event → System
  | .start i g e => { s with threads := Function.update s.threads i (some (guardThread g e)) }
  | .reconcile i g => { s with threads := Function.update s.threads i (some (reconcilerThread g)) }
  | .crash i => { s with threads := Function.update s.threads i none }
  | .step i m fault oracle =>
    match s.threads i with
    | none => s
    | some th =>
      { world := (advance m fault oracle th s.world).2
        threads := Function.update s.threads i (advance m fault oracle th s.world).1 }

end System

end Astronomer.Charlie
