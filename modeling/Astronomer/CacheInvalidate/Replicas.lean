import Astronomer.CacheInvalidate.Coordinator

/-!
# Replicas, Redis and the database

On each replica run the goroutine of `Coordinator.Run`, role mutations, at most one
`flushPending` at a time, and the calls and loads of the cache. Every call to Redis and every
section under a lock is a step, a call to Redis can fail before or after it is carried out,
and a message can be delivered at any later time, any number of times, or never.
-/

namespace Astronomer.CacheInvalidate

open Rbac

/-! ## What the replicas share -/

structure Increment where
  domain : Domain
  epoch : Nat
  carries : List Mutation
deriving DecidableEq

structure Message where
  target : Target
  epoch : Nat

/-- The database with its earlier versions, and Redis: the epochs with the increments that
made them, oldest first, and the messages published so far. -/
structure Shared where
  older : List Database := []
  db : Database
  epochs : Domain → Nat := fun _ => 0
  increments : List Increment := []
  published : List Message := []

namespace Shared

variable (s : Shared)

def versions : List Database := s.older ++ [s.db]

def version : Nat := s.older.length

def commit (db : Database) : Shared := { s with older := s.versions, db }

def incr (domain : Domain) (carries : List Mutation) : Shared :=
  { s with
    epochs := Function.update s.epochs domain (s.epochs domain + 1)
    increments := s.increments ++ [⟨domain, s.epochs domain + 1, carries⟩] }

def publish (message : Message) : Shared := { s with published := s.published ++ [message] }

end Shared

/-! ## The threads of a replica -/

inductive FlushStage where
  | claiming
  | incrementing (domain : Domain) (item : Pending)
  | recording (domain : Domain) (item : Pending) (epoch : Nat)
  | invalidating (domain : Domain) (item : Pending) (epoch : Nat)
  | publishing (item : Pending) (epoch : Nat)
  | releasing (domain : Domain)
  | marking

inductive FlushOwner where
  | broadcast | run
deriving DecidableEq

/-- What a `reconcile` has read. `seen` counts the increments there had been when it read
the epochs; nothing but statements about the read uses it. -/
structure Reconcile where
  (reconnect flushed : Bool)
  remote : Domain → Nat
  seen : Nat
  generation : Nat := 0

inductive ReconcileStage where
  | noting
  | clearing
  | checking (domain : Domain)
  | dropping (domain : Domain)
  | setting (domain : Domain)
  | forgetting (domain : Domain)
  | finishing

inductive RunStage where
  | down
  | listening
  | flushing (reconnect : Bool)
  | reading (reconnect flushed : Bool)
  | reconciling (r : Reconcile) (stage : ReconcileStage)
  | judging (reconnect ok : Bool)
  | handled (domain : Domain) (epoch : Nat)

inductive MutationStage where
  | committed
  | invalidated
  | queued

structure Replica where
  querier : Querier
  coordinator : Coordinator := {}
  run : RunStage := .down
  flush : Option (FlushOwner × FlushStage) := none
  mutations : Nat → Option (Mutation × MutationStage) := fun _ => none
  lastRead : Nat := 0

namespace Replica

variable (rep : Replica)

def drop (scope : Cache.Scope) : Replica :=
  { rep with
    querier := { rep.querier with cache := rep.querier.cache.invalidate scope } }

def apply (target : Target) : Replica :=
  match target.scope with
  | none => rep
  | some scope => rep.drop scope

def invalidateDomain (domain : Domain) : Replica := rep.apply (.everything domain)

def setMutation (id : Nat) (m : Mutation) (stage : MutationStage) : Replica :=
  { rep with mutations := fun i => if i = id then some (m, stage) else rep.mutations i }

/-! ### `flushPending` -/

def flushed (owner : FlushOwner) (ok : Bool) : Replica :=
  { rep with
    flush := none
    run :=
      match owner, rep.run with
      | .run, .flushing reconnect => .reading reconnect ok
      | _, run => run }

def flushStep (s : Shared) (fault : Fault) (owner : FlushOwner) : FlushStage → Shared × Replica
  | .claiming =>
    match rep.coordinator.claimPending with
    | (none, _) => (s, rep.flushed owner true)
    | (some (domain, item), coordinator) =>
      (s, { rep with coordinator, flush := some (owner, .incrementing domain item) })
  | .incrementing domain item =>
    match fault with
    | .none =>
      (s.incr domain item.carries,
        { rep with flush := some (owner, .recording domain item (s.epochs domain + 1)) })
    | .lost => (s, { rep with flush := some (owner, .releasing domain) })
    | .applied =>
      (s.incr domain item.carries, { rep with flush := some (owner, .releasing domain) })
  | .recording domain item epoch =>
    (s, { rep with
      coordinator := rep.coordinator.recordDurable domain epoch
      flush := some (owner, .invalidating domain item epoch) })
  | .invalidating domain item epoch =>
    (s, { rep.invalidateDomain domain with flush := some (owner, .publishing item epoch) })
  | .publishing item epoch =>
    match fault with
    | .none => (s.publish ⟨item.target, epoch⟩, { rep with flush := some (owner, .claiming) })
    | .lost => (s, { rep with flush := some (owner, .marking) })
    | .applied => (s.publish ⟨item.target, epoch⟩, { rep with flush := some (owner, .marking) })
  | .releasing domain =>
    (s, { rep with
      coordinator := rep.coordinator.releasePending domain
      flush := some (owner, .marking) })
  | .marking => (s, { rep with coordinator := rep.coordinator.markUnhealthy }.flushed owner false)

/-! ### `reconcile` -/

def reconcileStep (r : Reconcile) : ReconcileStage → Replica
  | .noting =>
    let generation := rep.coordinator.conservativeGeneration
    let needsConservative := rep.coordinator.reconciledGeneration < generation
    { rep with
      run := .reconciling { r with generation }
        (if r.reconnect || needsConservative then .clearing else .checking .jwt) }
  | .clearing => { rep.drop .all with run := .reconciling r (.checking .jwt) }
  | .checking domain =>
    let localEpoch := rep.coordinator.epochs domain
    let required := rep.coordinator.recover domain
    { rep with
      run :=
        if r.remote domain < localEpoch || r.remote domain < required then
          .judging r.reconnect false
        else .reconciling r
          (if localEpoch < r.remote domain || 0 < required then .dropping domain
            else .setting domain) }
  | .dropping domain => { rep.invalidateDomain domain with run := .reconciling r (.setting domain) }
  | .setting domain =>
    { rep with
      coordinator := rep.coordinator.setEpoch domain (r.remote domain)
      run := .reconciling r (.forgetting domain) }
  | .forgetting domain =>
    { rep with
      coordinator := rep.coordinator.clearRecovery domain (r.remote domain)
      run := .reconciling r (match domain with | .jwt => .checking .rbac | .rbac => .finishing) }
  | .finishing =>
    { rep with
      coordinator := rep.coordinator.reconciled r.generation
      run := .judging r.reconnect r.flushed
      lastRead := r.seen }

def runStep (s : Shared) (fault : Fault) : Replica :=
  match rep.run with
  | .reading reconnect flushed =>
    match fault with
    | .none =>
      { rep with
        run := .reconciling ⟨reconnect, flushed, s.epochs, s.increments.length, 0⟩ .noting }
    | .lost | .applied => { rep with run := .judging reconnect false }
  | .reconciling r stage => rep.reconcileStep r stage
  | .judging _ true =>
    { rep with coordinator := rep.coordinator.setHealthyIfQuiescent, run := .listening }
  | .judging reconnect false =>
    { rep with
      coordinator := rep.coordinator.markUnhealthy
      run := if reconnect then .down else .listening }
  | .handled domain epoch =>
    { rep with coordinator := rep.coordinator.setEpoch domain epoch, run := .listening }
  | .down | .listening | .flushing _ => rep

def handlePayload (message : Message) : Replica :=
  let current := rep.coordinator.epochs message.target.domain
  if message.epoch ≤ current then rep
  else
    { (if current + 1 < message.epoch then rep.invalidateDomain message.target.domain
        else rep.apply message.target) with
      run := .handled message.target.domain message.epoch }

end Replica

/-! ## Steps -/

inductive Act where
  | mutate (id : Nat) (scope : Cache.Scope) (db : Database)
  | invalidate (id : Nat)
  | broadcast (id : Nat)
  | broadcastJWT (target : Target)
  | lock (owner : FlushOwner)
  | flush (fault : Fault)
  | subscribe (ok : Bool)
  | tick
  | close
  | stop
  | receive (message : Message)
  | run (fault : Fault)
  | cache (fails : Query → Bool) (m : Move)

namespace Replica

def step (p : Parser) (s : Shared) (rep : Replica) : Act → Shared × Replica
  | .mutate id scope db =>
    match rep.mutations id with
    | some _ => (s, rep)
    | none => (s.commit db, rep.setMutation id ⟨scope, s.version + 1⟩ .committed)
  | .invalidate id =>
    match rep.mutations id with
    | some (m, .committed) => (s, (rep.drop m.scope).setMutation id m .invalidated)
    | _ => (s, rep)
  | .broadcast id =>
    match rep.mutations id with
    | some (m, .invalidated) =>
      let target := Target.ofScope m.scope
      let rep := rep.setMutation id m .queued
      if target.complete then
        (s, { rep with coordinator := rep.coordinator.enqueue .rbac ⟨target, false, [m]⟩ })
      else (s, rep)
    | _ => (s, rep)
  | .broadcastJWT target =>
    if target.domain = .jwt && target.complete then
      (s, { rep with coordinator := rep.coordinator.enqueue .jwt ⟨target, false, []⟩ })
    else (s, rep)
  | .lock owner =>
    match rep.flush, owner, rep.run with
    | none, .broadcast, _ | none, .run, .flushing _ =>
      (s, { rep with flush := some (owner, .claiming) })
    | _, _, _ => (s, rep)
  | .flush fault =>
    match rep.flush with
    | none => (s, rep)
    | some (owner, stage) => rep.flushStep s fault owner stage
  | .subscribe ok =>
    match rep.run with
    | .down =>
      (s, if ok then { rep with run := .flushing true }
        else { rep with coordinator := rep.coordinator.markUnhealthy })
    | _ => (s, rep)
  | .tick =>
    match rep.run with
    | .listening => (s, { rep with run := .flushing false })
    | _ => (s, rep)
  | .close =>
    match rep.run with
    | .listening => (s, { rep with coordinator := rep.coordinator.markUnhealthy, run := .down })
    | _ => (s, rep)
  | .stop =>
    match rep.run with
    | .listening => (s, { rep with run := .down })
    | _ => (s, rep)
  | .receive message =>
    match rep.run with
    | .listening => (s, rep.handlePayload message)
    | _ => (s, rep)
  | .run fault => (s, rep.runStep s fault)
  | .cache fails m =>
    (s, { rep with
      querier := rep.querier.step (p.env s.db fails) rep.coordinator.healthy m })

end Replica

structure World where
  shared : Shared
  replicas : Nat → Replica

inductive Event where
  | commit (db : Database)
  | act (replica : Nat) (a : Act)

namespace World

def start (options : Nat → CacheOptions) (db : Database) : World where
  shared := { db }
  replicas i := { querier := { cache := { options := options i } } }

def heard (w : World) : Act → Bool
  | .receive message =>
    w.shared.published.any fun m => m.target = message.target && m.epoch = message.epoch
  | _ => true

def step (p : Parser) (w : World) : Event → World
  | .commit db => { w with shared := w.shared.commit db }
  | .act i a =>
    if w.heard a then
      let (shared, replica) := (w.replicas i).step p w.shared a
      { shared, replicas := Function.update w.replicas i replica }
    else w

end World

end Astronomer.CacheInvalidate
