import Astronomer.Base.ObjectStore
import Astronomer.Rbac.Cache

/-!
# The coordinator of the security caches

`internal/cacheinvalidate`. Redis holds one epoch for each domain, which every mutation
increments. A replica learns of the others' mutations from messages and from reading the
epochs at every tick. Here are the functions that run under the coordinator's mutex; the
threads that call them are in `Replicas`.
-/

namespace Astronomer.CacheInvalidate

open Rbac

inductive Domain where
  | jwt | rbac
deriving DecidableEq

inductive Target where
  | jwtJTI (jti : String)
  | jwtUser (userID : String)
  | jwtAll
  | rbacUser (userID : String)
  | rbacAll
deriving DecidableEq

namespace Target

def domain : Target → Domain
  | jwtJTI _ | jwtUser _ | jwtAll => .jwt
  | rbacUser _ | rbacAll => .rbac

def complete : Target → Bool
  | jwtJTI s | jwtUser s | rbacUser s => s ≠ ""
  | jwtAll | rbacAll => true

def everything : Domain → Target
  | .jwt => jwtAll
  | .rbac => rbacAll

def scope : Target → Option Cache.Scope
  | rbacUser userID => some (.user userID)
  | rbacAll => some .all
  | _ => none

def ofScope : Cache.Scope → Target
  | .user userID => rbacUser userID
  | .all => rbacAll

end Target

structure Mutation where
  scope : Cache.Scope
  version : Nat
deriving DecidableEq

/-- `pendingInvalidation`. Which mutations an item stands for is not kept by the code; it
says here what an increment of the epoch is for. -/
structure Pending where
  target : Target
  inFlight : Bool := false
  carries : List Mutation := []

def mergePending (domain : Domain) (existing next : Pending) : Pending :=
  let carries := existing.carries ++ next.carries
  if existing.target = next.target then { existing with carries }
  else { target := .everything domain, carries }

structure Coordinator where
  healthy : Bool := false
  epochs : Domain → Nat := fun _ => 0
  pending : Domain → List Pending := fun _ => []
  recover : Domain → Nat := fun _ => 0
  conservativeGeneration : Nat := 0
  reconciledGeneration : Nat := 0

namespace Coordinator

variable (c : Coordinator)

def markUnhealthy : Coordinator :=
  { c with conservativeGeneration := c.conservativeGeneration + 1, healthy := false }

def quiescent : Bool :=
  (c.pending .jwt).isEmpty && (c.pending .rbac).isEmpty && c.recover .jwt = 0 &&
    c.recover .rbac = 0 && c.conservativeGeneration = c.reconciledGeneration

def setHealthyIfQuiescent : Coordinator := if c.quiescent then { c with healthy := true } else c

def setEpoch (domain : Domain) (epoch : Nat) : Coordinator :=
  { c with epochs := Function.update c.epochs domain (max (c.epochs domain) epoch) }

def append (domain : Domain) (queue : List Pending) (next : Pending) : List Pending :=
  match queue.getLast? with
  | none => [next]
  | some last =>
    if last.inFlight then queue ++ [next]
    else queue.dropLast ++ [mergePending domain last next]

def enqueue (domain : Domain) (next : Pending) : Coordinator :=
  { c with
    pending := Function.update c.pending domain (append domain (c.pending domain) next)
    healthy := false }

def setInFlight (inFlight : Bool) : List Pending → List Pending
  | [] => []
  | item :: rest => { item with inFlight } :: rest

def claimPending : Option (Domain × Pending) × Coordinator :=
  let claim (domain : Domain) (item : Pending) : Option (Domain × Pending) × Coordinator :=
    (some (domain, { item with inFlight := true }),
      { c with
        pending := Function.update c.pending domain (setInFlight true (c.pending domain)) })
  match c.pending .jwt, c.pending .rbac with
  | item :: _, _ => claim .jwt item
  | [], item :: _ => claim .rbac item
  | [], [] => (none, c)

def releasePending (domain : Domain) : Coordinator :=
  { c with pending := Function.update c.pending domain (setInFlight false (c.pending domain)) }

def recordDurable (domain : Domain) (epoch : Nat) : Coordinator :=
  { c with
    pending := Function.update c.pending domain
      (match c.pending domain with
        | item :: rest => if item.inFlight then rest else item :: rest
        | [] => [])
    recover := Function.update c.recover domain (max (c.recover domain) epoch) }

def clearRecovery (domain : Domain) (observed : Nat) : Coordinator :=
  { c with
    recover := Function.update c.recover domain
      (if 0 < c.recover domain && c.recover domain ≤ observed then 0 else c.recover domain) }

def reconciled (generation : Nat) : Coordinator :=
  { c with reconciledGeneration := max c.reconciledGeneration generation }

end Coordinator

end Astronomer.CacheInvalidate
