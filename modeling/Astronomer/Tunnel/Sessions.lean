import Astronomer.Base.Run

/-!
# The agent sessions of a cluster

`HandleWebSocket`, `disconnectImpl` and the `Locator`, for one cluster. Four places record an
agent's WebSocket: the pod's hub, the row of `agent_connections`, the pod's refresh loop and
the entry in Redis. A session writes them one after the other when it connects and takes them
back when it ends, each a step of its own. A pod is its address.
-/

namespace Astronomer.Tunnel

inductive Stage where
  | accepted
  | persisted
  | replacing (existing : Nat)
  | registered
  | claimed (gen : Nat)
  | written (gen : Nat)
  | running
  | removed (stillOwner : Bool)
  | unlisted
  | stopped
  | done
deriving DecidableEq

structure Session where
  pod : Nat
  cancelled : Bool := false
  dbid : Option Nat := none
  stage : Stage := .accepted

structure Loop where
  (gen session : Nat)
  started : Bool := false
  superseded : Bool := false

structure Pod where
  agent : Option Nat := none
  loop : Option Loop := none
  nextGen : Nat := 0

structure ConnectionRow where
  sessionID : Nat
  connected : Bool

inductive ForcedStage where
  | cancelling | stopping | erasing | done
deriving DecidableEq

structure Forced where
  (pod session : Nat)
  stage : ForcedStage := .cancelling
deriving DecidableEq

structure World where
  pods : Nat → Pod := fun _ => {}
  sessions : List Session := []
  forced : List Forced := []
  rows : List ConnectionRow := []
  entry : Option Nat := none
  newest : Option Nat := none

namespace World

variable (w : World)

variable (s : Nat) (σ : Session)

def setPod (pod : Nat) (p : Pod) : World := { w with pods := Function.update w.pods pod p }

def setSession : World := { w with sessions := w.sessions.set s σ }

def cancel : World :=
  match w.sessions[s]? with
  | none => w
  | some σ => w.setSession s { σ with cancelled := true }

/-! ## `persistConnect` and `persistDisconnect` -/

def replaceActive (rows : List ConnectionRow) (s : Nat) : List ConnectionRow :=
  rows.map ({ · with connected := false }) ++ [⟨s, true⟩]

def disconnectRow (rows : List ConnectionRow) (dbid : Nat) : List ConnectionRow :=
  rows.modify dbid ({ · with connected := false })

/-! ## The locator -/

def Loop.live (sessions : List Session) (l : Loop) : Bool :=
  l.started && !l.superseded && (sessions[l.session]?).any fun σ => !σ.cancelled

def live (pod : Nat) : Bool := ((w.pods pod).loop).any (Loop.live w.sessions)

def claim : World :=
  let p := w.pods σ.pod
  let gen := p.nextGen + 1
  (w.setPod σ.pod { p with nextGen := gen, loop := some ⟨gen, s, false, false⟩ }).setSession s
    { σ with stage := .claimed gen }

def write (gen : Nat) : World :=
  let stillOpen := !σ.cancelled && ((w.pods σ.pod).loop).any (·.gen = gen)
  { w with entry := if stillOpen then some σ.pod else w.entry }.setSession s
    { σ with stage := .written gen }

def start (gen : Nat) : World :=
  let p := w.pods σ.pod
  let loop := p.loop.map fun l => if l.gen = gen then { l with started := true } else l
  (w.setPod σ.pod { p with loop }).setSession s { σ with stage := .running }

def stopLoop (pod : Nat) : World := w.setPod pod { w.pods pod with loop := none }

def casDelete (pod : Nat) : World :=
  { w with entry := if w.entry = some pod then none else w.entry }

def tick (pod : Nat) : World :=
  if w.live pod then
    if w.entry = none ∨ w.entry = some pod then { w with entry := some pod }
    else
      w.setPod pod
        { w.pods pod with loop := (w.pods pod).loop.map ({ · with superseded := true }) }
  else w

def evict (pod : Nat) : World :=
  if ((w.pods pod).loop).any (·.superseded) then w.stopLoop pod else w

/-! ## The steps of a session -/

def register : World :=
  let p := w.pods σ.pod
  { w.setPod σ.pod { p with agent := some s } with newest := some s }.setSession s
    { σ with
      stage :=
        match p.agent with
        | some existing => .replacing existing
        | none => .registered }

def remove : World :=
  let p := w.pods σ.pod
  if p.agent = some s then
    (w.setPod σ.pod { p with agent := none }).setSession s { σ with stage := .removed true }
  else w.setSession s { σ with stage := .removed false }

def next : World :=
  match σ.stage with
  | .accepted =>
    { w with rows := replaceActive w.rows s }.setSession s
      { σ with dbid := some w.rows.length, stage := .persisted }
  | .persisted => w.register s σ
  | .replacing existing => (w.setSession s { σ with stage := .registered }).cancel existing
  | .registered => w.claim s σ
  | .claimed gen => w.write s σ gen
  | .written gen => w.start s σ gen
  | .running => if σ.cancelled then w.remove s σ else w
  | .removed stillOwner =>
    { w with rows := σ.dbid.elim w.rows (disconnectRow w.rows) }.setSession s
      { σ with stage := if stillOwner then .unlisted else .done }
  | .unlisted => (w.stopLoop σ.pod).setSession s { σ with stage := .stopped }
  | .stopped => (w.casDelete σ.pod).setSession s { σ with stage := .done }
  | .done => w

def forcedNext (id : Nat) (f : Forced) : World :=
  match f.stage with
  | .cancelling =>
    { w.cancel f.session with forced := w.forced.set id { f with stage := .stopping } }
  | .stopping => { w.stopLoop f.pod with forced := w.forced.set id { f with stage := .erasing } }
  | .erasing => { w.casDelete f.pod with forced := w.forced.set id { f with stage := .done } }
  | .done => w

end World

inductive Event where
  | accept (pod : Nat)
  | session (s : Nat)
  | drop (s : Nat)
  | force (pod : Nat)
  | forced (id : Nat)
  | tick (pod : Nat)
  | evict (pod : Nat)
  | expire
deriving DecidableEq

def World.step (w : World) : Event → World
  | .accept pod => { w with sessions := w.sessions ++ [{ pod }] }
  | .session s =>
    match w.sessions[s]? with
    | none => w
    | some σ => w.next s σ
  | .drop s => w.cancel s
  | .force pod =>
    match (w.pods pod).agent with
    | none => w
    | some s =>
      { w.setPod pod { w.pods pod with agent := none } with
        forced := w.forced ++ [⟨pod, s, .cancelling⟩] }
  | .forced id =>
    match w.forced[id]? with
    | none => w
    | some f => w.forcedNext id f
  | .tick pod => w.tick pod
  | .evict pod => w.evict pod
  | .expire => { w with entry := none }

namespace World

variable (w : World)

def Quiet : Prop :=
  (∀ σ ∈ w.sessions, σ.stage = .done ∨ (σ.stage = .running ∧ σ.cancelled = false)) ∧
    ∀ f ∈ w.forced, f.stage = .done
deriving Decidable

variable {w} {s i pod : Nat} {σ σ' : Session}

theorem getElem?_setSession (hσ : w.sessions[s]? = some σ) :
    (w.setSession s σ').sessions[i]? = if i = s then some σ' else w.sessions[i]? := by
  have hlt : s < w.sessions.length := (List.getElem?_eq_some_iff.mp hσ).1
  show (w.sessions.set s σ')[i]? = _
  rw [List.getElem?_set]
  by_cases hi : s = i
  · subst hi
    simp [hlt]
  · simp [hi, Ne.symm hi]

theorem pods_setPod {p pod'} :
    (w.setPod pod p).pods pod' = if pod' = pod then p else w.pods pod' := by
  by_cases hp : pod' = pod
  · subst hp
    simp [setPod]
  · simp [setPod, hp]

theorem getElem?_setSession_self (hσ : w.sessions[s]? = some σ) :
    (w.setSession s σ').sessions[s]? = some σ' :=
  (getElem?_setSession hσ).trans (if_pos rfl)

theorem getElem?_setSession_ne (hσ : w.sessions[s]? = some σ) (hi : i ≠ s) :
    (w.setSession s σ').sessions[i]? = w.sessions[i]? :=
  (getElem?_setSession hσ).trans (if_neg hi)

theorem lookup_setSession {τ} (hσ : w.sessions[s]? = some σ)
    (h : (w.setSession s σ').sessions[i]? = some τ) :
    (i = s ∧ τ = σ') ∨ (i ≠ s ∧ w.sessions[i]? = some τ) := by
  rw [getElem?_setSession hσ] at h
  by_cases hi : i = s
  · rw [if_pos hi] at h
    exact .inl ⟨hi, (Option.some.inj h).symm⟩
  · rw [if_neg hi] at h
    exact .inr ⟨hi, h⟩

theorem agent_setPod {pod'} {p : Pod} (hp : p.agent = (w.pods pod).agent) :
    ((w.setPod pod p).pods pod').agent = (w.pods pod').agent := by
  rw [pods_setPod]
  split
  next heq => rw [hp, heq]
  · rfl

theorem loop_setPod {pod'} {p : Pod} :
    ((w.setPod pod p).pods pod').loop = if pod' = pod then p.loop else (w.pods pod').loop := by
  rw [pods_setPod]
  split <;> rfl

theorem forced_cancel : (w.cancel s).forced = w.forced := by
  unfold World.cancel
  split <;> rfl

end World

end Astronomer.Tunnel
