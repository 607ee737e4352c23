import Mathlib.Algebra.Order.Ring.Nat
import Astronomer.Base.Run
import Astronomer.Rbac.Load

/-!
# The cache of bindings

A `GetUserBindings` looks in the cache, reads the cache's generation and joins the load that
runs under its user and that generation, or starts one. The load stores what it found if the
generation is still the one it started under; an invalidation moves it on. Each of these is a
step of its own, and so is what a `Get` does after it has let go of the read lock.
-/

namespace Astronomer.Rbac

open List

/-! ## The cache -/

structure CacheEntry where
  userID : String
  bindings : List RoleBinding
  expiresAt : Int

structure CacheOptions where
  ttl : Int
  (capacity maxBindings : Nat)

/-- The source's `generation` is a `uint64`, which as many invalidations as it has values wrap
around; here it only grows. -/
structure Cache where
  options : CacheOptions
  generation : Nat := 0
  entries : List CacheEntry := []

namespace Cache

variable (c : Cache)

/-- `Get`: an entry that is there and has not expired, while the coordinator, if the
cache has one, is healthy. -/
def get (healthy : Bool) (now : Int) (userID : String) : Option (List RoleBinding) :=
  if userID = "" || !healthy then none
  else
    match c.entries.find? (·.userID = userID) with
    | none => none
    | some entry => if entry.expiresAt < now then none else some entry.bindings

def bindingCount (entries : List CacheEntry) : Nat := (entries.map (·.bindings.length)).sum

def overfull (options : CacheOptions) (entries : List CacheEntry) : Bool :=
  options.capacity < entries.length ||
    (0 < options.maxBindings && options.maxBindings < bindingCount entries && 1 < entries.length)

def evictOldest (options : CacheOptions) : List CacheEntry → List CacheEntry
  | [] => []
  | entry :: entries =>
    if overfull options (entry :: entries) then evictOldest options entries else entry :: entries

def put (healthy : Bool) (now : Int) (userID : String) (bindings : List RoleBinding)
    (expectedGeneration : Nat) : Cache :=
  if userID = "" || c.generation ≠ expectedGeneration || !healthy then c
  else
    let entries := ⟨userID, bindings, now + c.options.ttl⟩ :: c.entries.filter (·.userID ≠ userID)
    { c with entries := (evictOldest c.options entries.reverse).reverse }

def remove (userID : String) : Cache := { c with entries := c.entries.filter (·.userID ≠ userID) }

def moveToFront (userID : String) : Cache :=
  { c with entries := c.entries.filter (·.userID = userID) ++ c.entries.filter (·.userID ≠ userID) }

/-- Whose entries an invalidation drops: `InvalidateRBACUserLocal` those of one user,
`InvalidateRBACAllLocal` all. -/
inductive Scope where
  | user (userID : String)
  | all
deriving DecidableEq

def invalidate : Scope → Cache
  | .user userID =>
    if userID = "" then c else { c.remove userID with generation := c.generation + 1 }
  | .all => { c with entries := [], generation := c.generation + 1 }

end Cache

/-! ## Calls and loads -/

inductive FlightStage where
  | begun
  | loading (rest : Load (List RoleBinding))
  | finished (result : Except Err (List RoleBinding))

structure Flight where
  userID : String
  generation : Nat
  stage : FlightStage

def flightKey (userID : String) (generation : Nat) : String :=
  userID ++ ":" ++ toString generation

def Flight.key (f : Flight) : String := flightKey f.userID f.generation

inductive CallStage where
  | started
  | missed
  | loaded (generation : Nat)
  | waiting (key : String)
  | returned (result : Except Err (List RoleBinding))
deriving DecidableEq

structure Call where
  userID : String
  stage : CallStage
deriving DecidableEq

structure Querier where
  cache : Cache
  loads : List Flight := []
  calls : Nat → Option Call := fun _ => none

namespace Querier

variable (env : Env) (healthy : Bool) (q : Querier)

def setStage (id : Nat) (stage : CallStage) : Querier :=
  { q with
    calls := fun i => if i = id then (q.calls i).map ({ · with stage }) else q.calls i }

def setFlight (key : String) (stage : FlightStage) : Querier :=
  { q with loads := q.loads.map fun f => if f.key = key then { f with stage } else f }

def join (id : Nat) (c : Call) (generation : Nat) : Querier :=
  let key := flightKey c.userID generation
  let loads :=
    if q.loads.any (·.key = key) then q.loads
    else ⟨c.userID, generation, .begun⟩ :: q.loads
  { q with loads }.setStage id (.waiting key)

def proceed (now : Int) (id : Nat) (c : Call) : Querier :=
  match c.stage with
  | .started =>
    if c.userID = "" then q.setStage id (.returned (.ok []))
    else
      match q.cache.get healthy now c.userID with
      | some bindings => q.setStage id (.returned (.ok bindings))
      | none => q.setStage id .missed
  | .missed => q.setStage id (.loaded q.cache.generation)
  | .loaded generation => q.join id c generation
  | .waiting _ | .returned _ => q

def deliver (key : String) (result : Except Err (List RoleBinding)) : Querier :=
  { q with
    loads := q.loads.filter (·.key ≠ key)
    calls := fun i => (q.calls i).map fun c =>
      match c.stage with
      | .waiting key' => if key' = key then { c with stage := .returned result } else c
      | _ => c }

def fly (now : Int) (f : Flight) : Querier :=
  match f.stage with
  | .begun =>
    match q.cache.get healthy now f.userID with
    | some bindings => q.setFlight f.key (.finished (.ok bindings))
    | none => q.setFlight f.key (.loading (loadUserBindings env.parse f.userID))
  | .loading (.call query k) => q.setFlight f.key (.loading (k (env.answer f.userID query)))
  | .loading (.ret (.ok bindings)) =>
    { q with cache := q.cache.put healthy now f.userID bindings f.generation }.setFlight f.key
      (.finished (.ok bindings))
  | .loading (.ret (.error err)) => q.setFlight f.key (.finished (.error err))
  | .finished result => q.deliver f.key result

end Querier

inductive Move where
  | call (id : Nat) (userID : String)
  | proceed (id : Nat) (now : Int)
  | cancel (id : Nat)
  | fly (key : String) (now : Int)
  | prune (userID : String)
  | touch (userID : String)
  | invalidate (scope : Cache.Scope)

def Querier.step (env : Env) (healthy : Bool) (q : Querier) : Move → Querier
  | .call id userID =>
    match q.calls id with
    | some _ => q
    | none => { q with calls := fun i => if i = id then some ⟨userID, .started⟩ else q.calls i }
  | .proceed id now =>
    match q.calls id with
    | none => q
    | some c => q.proceed healthy now id c
  | .cancel id =>
    match q.calls id with
    | some ⟨_, .waiting _⟩ => q.setStage id (.returned (.error "context canceled"))
    | _ => q
  | .fly key now =>
    match q.loads.find? (·.key = key) with
    | none => q
    | some f => q.fly env healthy now f
  | .prune userID => { q with cache := q.cache.remove userID }
  | .touch userID => { q with cache := q.cache.moveToFront userID }
  | .invalidate scope => { q with cache := q.cache.invalidate scope }

/-! ## Reads -/

structure Parser where
  parse : String → Option UUID
  parse_text : ∀ u : UUID, parse u.text = some u

def Parser.env (p : Parser) (db : Database) (fails : Query → Bool) : Env :=
  ⟨db, p.parse, p.parse_text, fails⟩

def AnswerSince (p : Parser) (versions : List Database) (n : Nat) (userID : String) (query : Query)
    (answer : query.Answer) : Prop :=
  ∃ i db fails, n ≤ i ∧ versions[i]? = some db ∧ answer = (p.env db fails).answer userID query

/-- The bindings are what a load of the user's makes of versions of the database from the
`n`-th on: none of it was read before that version was committed. -/
def ReadSince (p : Parser) (versions : List Database) (n : Nat) (userID : String)
    (bindings : List RoleBinding) : Prop :=
  (loadUserBindings p.parse userID).Leads (AnswerSince p versions n userID) (.ret (.ok bindings))

section

variable {p : Parser} {versions later : List Database} {n m : Nat} {userID : String} {query : Query}
  {answer : query.Answer} {bindings : List RoleBinding}

theorem AnswerSince.mono (h : AnswerSince p versions n userID query answer) (hle : m ≤ n) :
    AnswerSince p (versions ++ later) m userID query answer := by
  obtain ⟨i, db, fails, hi, hdb, rfl⟩ := h
  have hlt : i < versions.length := (List.getElem?_eq_some_iff.mp hdb).1
  exact ⟨i, db, fails, Nat.le_trans hle hi, (getElem?_append_left hlt).trans hdb, rfl⟩

theorem ReadSince.mono (h : ReadSince p versions n userID bindings) (hle : m ≤ n) :
    ReadSince p (versions ++ later) m userID bindings :=
  Prog.Leads.mono h fun _ _ ha => ha.mono hle

end

/-! ## The key of a load -/

theorem append_cons_inj_of_notMem_tails {α : Type} {a : α} {xs ys xs' ys' : List α}
    (h : xs ++ a :: xs' = ys ++ a :: ys') (hxs : a ∉ xs') (hys : a ∉ ys') :
    xs = ys ∧ xs' = ys' := by
  rcases append_eq_append_iff.mp h with ⟨zs, rfl, hz⟩ | ⟨zs, rfl, hz⟩
  · cases zs with
    | nil => exact ⟨(append_nil _).symm, (List.cons.inj hz).2⟩
    | cons z zs =>
      have hmem : a ∈ xs' := by simp [(List.cons.inj hz).2]
      exact absurd hmem hxs
  · cases zs with
    | nil => exact ⟨append_nil _, (List.cons.inj hz).2.symm⟩
    | cons z zs =>
      have hmem : a ∈ ys' := by simp [(List.cons.inj hz).2]
      exact absurd hmem hys

theorem toList_toString (g : Nat) : (toString g).toList = Nat.toDigits 10 g := by
  rw [Nat.toString_eq_ofList_toDigits, String.toList_ofList]

theorem colon_notMem_toString (g : Nat) : ':' ∉ (toString g).toList := by
  intro hmem
  rw [toList_toString] at hmem
  have hd := Nat.isDigit_of_mem_toDigits (by omega) (by omega) hmem
  revert hd
  decide

theorem flightKey_inj {u v : String} {g h : Nat} (heq : flightKey u g = flightKey v h) :
    u = v ∧ g = h := by
  have hl : u.toList ++ ':' :: (toString g).toList = v.toList ++ ':' :: (toString h).toList := by
    have ht := congrArg String.toList heq
    simpa [flightKey, String.toList_append] using ht
  obtain ⟨hus, hg⟩ :=
    append_cons_inj_of_notMem_tails hl (colon_notMem_toString g) (colon_notMem_toString h)
  rw [toList_toString, toList_toString] at hg
  have hn := congrArg (Nat.ofDigitChars 10 · 0) hg
  simp only [Nat.ofDigitChars_toDigits (by omega : 1 < 10) (by omega)] at hn
  exact ⟨String.toList_inj.mp hus, hn⟩

/-! ## The cache's operations on its entries -/

namespace Cache

variable {c : Cache} {healthy : Bool} {now : Int} {userID : String} {bindings : List RoleBinding}
  {generation : Nat} {e : CacheEntry} {scope : Scope}

theorem exists_entry_of_get (h : c.get healthy now userID = some bindings) :
    ∃ e ∈ c.entries, e.userID = userID ∧ e.bindings = bindings := by
  unfold get at h
  split at h
  · cases h
  · split at h
    · cases h
    next entry hf =>
      split at h
      · cases h
      · have hus := find?_some hf
        exact ⟨entry, mem_of_find?_eq_some hf, of_decide_eq_true hus, Option.some.inj h⟩

theorem mem_of_mem_evictOldest {options entries} (h : e ∈ evictOldest options entries) :
    e ∈ entries := by
  induction entries with
  | nil => exact h
  | cons entry entries ih =>
    unfold evictOldest at h
    split at h
    · exact mem_cons_of_mem _ (ih h)
    · exact h

theorem mem_entries_put (h : e ∈ (c.put healthy now userID bindings generation).entries) :
    e ∈ c.entries ∨ (e.userID = userID ∧ e.bindings = bindings ∧ generation = c.generation) := by
  unfold put at h
  split at h
  · exact .inl h
  next hpt =>
    simp only [Bool.or_eq_true, decide_eq_true_eq, not_or, ne_eq, not_not] at hpt
    have hmem := mem_of_mem_evictOldest (mem_reverse.mp h)
    rcases mem_cons.mp (mem_reverse.mp hmem) with rfl | hmem
    · exact .inr ⟨rfl, rfl, hpt.1.2.symm⟩
    · exact .inl (mem_filter.mp hmem).1

@[simp] theorem generation_put :
    (c.put healthy now userID bindings generation).generation = c.generation := by
  unfold put
  split <;> rfl

theorem mem_entries_remove (h : e ∈ (c.remove userID).entries) :
    e ∈ c.entries ∧ e.userID ≠ userID := by
  simpa [remove] using h

theorem mem_entries_moveToFront (h : e ∈ (c.moveToFront userID).entries) : e ∈ c.entries := by
  simp only [moveToFront, mem_append, mem_filter] at h
  exact h.elim And.left And.left

def Scope.Covers : Scope → String → Prop
  | .user u, userID => u = userID
  | .all, _ => True

theorem mem_entries_invalidate (h : e ∈ (c.invalidate scope).entries) : e ∈ c.entries := by
  cases scope with
  | all => cases h
  | user u =>
    simp only [invalidate] at h
    split at h
    · exact h
    · exact (mem_entries_remove h).1

theorem generation_le_invalidate : c.generation ≤ (c.invalidate scope).generation := by
  cases scope with
  | all => exact Nat.le_succ _
  | user u =>
    simp only [invalidate]
    split
    · exact Nat.le_refl _
    · exact Nat.le_succ _

theorem invalidate_of_covers (hcv : scope.Covers userID) (hus : userID ≠ "") :
    (c.invalidate scope).generation = c.generation + 1 ∧
      ∀ e ∈ (c.invalidate scope).entries, e.userID ≠ userID := by
  cases scope with
  | all => exact ⟨rfl, nofun⟩
  | user u =>
    obtain rfl : u = userID := hcv
    rw [show c.invalidate (.user u) = { c.remove u with generation := c.generation + 1 } from
      if_neg hus]
    exact ⟨rfl, fun e he => (mem_entries_remove he).2⟩

end Cache

/-! ## Fresh processes

After an invalidation at generation `g` everything the process still holds of the users
it covers, and everything a load that began since then will find, was read since the
version the database had at the invalidation. -/

def FlightStage.Since (p : Parser) (versions : List Database) (n : Nat) (userID : String) :
    FlightStage → Prop
  | .begun | .finished (.error _) => True
  | .loading rest => (loadUserBindings p.parse userID).Leads (AnswerSince p versions n userID) rest
  | .finished (.ok bindings) => ReadSince p versions n userID bindings

theorem FlightStage.Since.mono {p versions later n userID} {stage : FlightStage}
    (h : stage.Since p versions n userID) :
    stage.Since p (versions ++ later) n userID := by
  cases stage with
  | begun => trivial
  | loading rest => exact Prog.Leads.mono h fun _ _ ha => ha.mono (Nat.le_refl n)
  | finished result =>
    cases result with
    | error err => trivial
    | ok bindings => exact ReadSince.mono h (Nat.le_refl n)

structure Querier.FreshFrom (p : Parser) (versions : List Database) (n : Nat) (P : String → Prop)
    (g : Nat) (q : Querier) : Prop where
  generation : g ≤ q.cache.generation
  entries : ∀ e ∈ q.cache.entries, P e.userID → ReadSince p versions n e.userID e.bindings
  loads : ∀ f ∈ q.loads, P f.userID → g ≤ f.generation → f.stage.Since p versions n f.userID

structure Querier.Bounded (q : Querier) : Prop where
  loads : ∀ f ∈ q.loads, f.generation ≤ q.cache.generation
  calls : ∀ id c g, q.calls id = some c → c.stage = .loaded g → g ≤ q.cache.generation

namespace Querier

variable {p : Parser} {versions later : List Database} {n g id : Nat} {P : String → Prop}
  {q : Querier} {healthy : Bool} {now : Int} {c c' : Call} {f f' : Flight} {key : String}
  {stage : CallStage} {fstage : FlightStage} {result : Except Err (List RoleBinding)}
  {db : Database} {fails : Query → Bool} {m : Move} {env : Env} {scope : Cache.Scope}

/-! ### What a step does to calls and loads -/

theorem mem_loads_setFlight (h : f' ∈ (q.setFlight f.key fstage).loads) :
    f' ∈ q.loads ∨ f' = { f with stage := fstage } := by
  obtain ⟨f0, hf0, rfl⟩ := mem_map.mp h
  by_cases hk : f0.key = f.key
  · obtain ⟨hus, hg⟩ := flightKey_inj hk
    rw [if_pos hk, hus, hg]
    exact .inr rfl
  · rw [if_neg hk]
    exact .inl hf0

theorem mem_loads_join (h : f ∈ (q.join id c g).loads) :
    f ∈ q.loads ∨ f = ⟨c.userID, g, .begun⟩ := by
  change f ∈ (if q.loads.any (·.key = flightKey c.userID g) then q.loads
    else ⟨c.userID, g, .begun⟩ :: q.loads) at h
  split at h
  · exact .inl h
  · exact (mem_cons.mp h).symm

theorem proceed_frame (q : Querier) (healthy : Bool) (now : Int) (id : Nat) (c : Call) :
    (q.proceed healthy now id c).cache = q.cache ∧ ∀ f ∈ (q.proceed healthy now id c).loads,
        f ∈ q.loads ∨ (f.stage = .begun ∧ c.stage = .loaded f.generation) := by
  unfold proceed
  split
  · split
    · exact ⟨rfl, fun _ hf => .inl hf⟩
    · split <;> exact ⟨rfl, fun _ hf => .inl hf⟩
  · exact ⟨rfl, fun _ hf => .inl hf⟩
  next generation hsg =>
    refine ⟨rfl, fun f hf => ?_⟩
    rcases mem_loads_join hf with hf | rfl
    · exact .inl hf
    · exact .inr ⟨rfl, hsg⟩
  · exact ⟨rfl, fun _ hf => .inl hf⟩
  · exact ⟨rfl, fun _ hf => .inl hf⟩

/-! ### Every step keeps a process fresh -/

section

variable (h : q.FreshFrom p versions n P g)

include h

theorem FreshFrom.commit : q.FreshFrom p (versions ++ later) n P g where
  generation := h.generation
  entries := fun e he hP => (h.entries e he hP).mono (Nat.le_refl n)
  loads := fun f hf hP hg => (h.loads f hf hP hg).mono

theorem FreshFrom.get {bindings userID}
    (hg : q.cache.get healthy now userID = some bindings) (hP : P userID) :
    ReadSince p versions n userID bindings := by
  obtain ⟨e, he, rfl, rfl⟩ := Cache.exists_entry_of_get hg
  exact h.entries e he hP

theorem FreshFrom.setFlight
    (hsg : P f.userID → g ≤ f.generation → fstage.Since p versions n f.userID) :
    (q.setFlight f.key fstage).FreshFrom p versions n P g where
  generation := h.generation
  entries := h.entries
  loads := by
    intro f' hf'
    rcases mem_loads_setFlight hf' with hf' | rfl
    · exact h.loads f' hf'
    · exact hsg

theorem FreshFrom.shrink {cache : Cache} (hg : q.cache.generation ≤ cache.generation)
    (hmem : ∀ e ∈ cache.entries, e ∈ q.cache.entries) :
    { q with cache }.FreshFrom p versions n P g where
  generation := Nat.le_trans h.generation hg
  entries := fun e he => h.entries e (hmem e he)
  loads := h.loads

theorem FreshFrom.put {bindings}
    (hr : P f.userID → g ≤ f.generation → ReadSince p versions n f.userID bindings) :
    { q with cache := q.cache.put healthy now f.userID bindings f.generation }.FreshFrom
      p versions n P g where
  generation := by
    rw [Cache.generation_put]
    exact h.generation
  entries := by
    intro e he hP
    rcases Cache.mem_entries_put he with he | ⟨hus, hb, hg⟩
    · exact h.entries e he hP
    · rw [hus] at hP ⊢
      rw [hb]
      exact hr hP (hg ▸ h.generation)
  loads := h.loads

theorem FreshFrom.fly (hf : f ∈ q.loads) (hn : ∃ i, n ≤ i ∧ versions[i]? = some db) :
    (q.fly (p.env db fails) healthy now f).FreshFrom p versions n P g := by
  have hs := h.loads f hf
  unfold Querier.fly
  split
  · split
    next bindings hgt => exact h.setFlight fun hP _ => h.get hgt hP
    · exact h.setFlight fun _ _ => .refl
  next query k hsg =>
    -- the answer comes from the database as it is now
    obtain ⟨i, hi, hdb⟩ := hn
    refine h.setFlight fun hP hg => ?_
    have hrest := hs hP hg
    rw [hsg] at hrest
    exact Prog.Leads.answer hrest ⟨i, db, fails, hi, hdb, rfl⟩
  next bindings hsg =>
    have hr : P f.userID → g ≤ f.generation → ReadSince p versions n f.userID bindings := by
      intro hP hg
      have hrest := hs hP hg
      rwa [hsg] at hrest
    exact (h.put hr).setFlight hr
  · exact h.setFlight fun _ _ => trivial
  · exact ⟨h.generation, h.entries, fun f' hf' => h.loads f' (mem_filter.mp hf').1⟩

theorem FreshFrom.step (hn : ∃ i, n ≤ i ∧ versions[i]? = some db) :
    (q.step (p.env db fails) healthy m).FreshFrom p versions n P g := by
  cases m with
  | call id userID =>
    simp only [Querier.step]
    split
    · exact h
    · exact ⟨h.generation, h.entries, h.loads⟩
  | proceed id now =>
    simp only [Querier.step]
    split
    · exact h
    next c _ =>
      obtain ⟨hc, hl⟩ := proceed_frame q healthy now id c
      refine ⟨hc ▸ h.generation, hc ▸ h.entries, fun f hf hP hg => ?_⟩
      rcases hl f hf with hf | ⟨hb, -⟩
      · exact h.loads f hf hP hg
      · rw [hb]
        trivial
  | cancel id =>
    simp only [Querier.step]
    split
    · exact ⟨h.generation, h.entries, h.loads⟩
    · exact h
  | fly key now =>
    simp only [Querier.step]
    split
    · exact h
    next f hfn => exact h.fly (mem_of_find?_eq_some hfn) hn
  | prune userID => exact h.shrink (Nat.le_refl _) fun _ he => (Cache.mem_entries_remove he).1
  | touch userID => exact h.shrink (Nat.le_refl _) fun _ he => Cache.mem_entries_moveToFront he
  | invalidate scope =>
    exact h.shrink Cache.generation_le_invalidate fun _ he => Cache.mem_entries_invalidate he

end

/-! ### What a step does to a call -/

inductive Advance (q : Querier) (c : Call) : CallStage → Prop
  | anonymous (hstage : c.stage = .started) (huser : c.userID = "") :
      Advance q c (.returned (.ok []))
  | hit {healthy : Bool} {now : Int} {bindings : List RoleBinding} (hstage : c.stage = .started)
      (hget : q.cache.get healthy now c.userID = some bindings) :
      Advance q c (.returned (.ok bindings))
  | missed (hstage : c.stage = .started) (huser : c.userID ≠ "") : Advance q c .missed
  | loaded (hstage : c.stage = .missed) : Advance q c (.loaded q.cache.generation)
  | joined {generation : Nat} (hstage : c.stage = .loaded generation) :
      Advance q c (.waiting (flightKey c.userID generation))
  | failed (err : Err) : Advance q c (.returned (.error err))
  | delivered {f : Flight} {result : Except Err (List RoleBinding)} (hf : f ∈ q.loads)
      (hresult : f.stage = .finished result) (hstage : c.stage = .waiting f.key) :
      Advance q c (.returned result)

theorem calls_setStage {id id'} (h : (q.setStage id' stage).calls id = some c') :
    q.calls id = some c' ∨ (id = id' ∧ ∃ c, q.calls id = some c ∧ c' = { c with stage }) := by
  change (if id = id' then _ else _) = _ at h
  split at h
  next hid =>
    obtain ⟨c, hc, rfl⟩ := Option.map_eq_some_iff.mp h
    exact .inr ⟨hid, c, hc, rfl⟩
  · exact .inl h

def Moved (q : Querier) (id : Nat) (c' : Call) : Prop :=
  ∃ c, q.calls id = some c ∧ (c' = c ∨ (c'.userID = c.userID ∧ Advance q c c'.stage))

theorem moved_setStage {id id'} {r : Querier} (hc : q.calls id' = some c)
    (hcl : r.calls = q.calls) (ha : Advance q c stage)
    (h : (r.setStage id' stage).calls id = some c') : Moved q id c' := by
  rcases calls_setStage h with h | ⟨rfl, c1, hc1, rfl⟩
  · exact ⟨c', hcl ▸ h, .inl rfl⟩
  · rw [hcl, hc] at hc1
    obtain rfl := Option.some.inj hc1
    exact ⟨c, hc, .inr ⟨rfl, ha⟩⟩

theorem moved_proceed {id id'} (hc : q.calls id' = some c)
    (h : (q.proceed healthy now id' c).calls id = some c') : Moved q id c' := by
  unfold Querier.proceed at h
  split at h
  next hsg =>
    split at h
    next hus => exact moved_setStage hc rfl (.anonymous hsg hus) h
    next hus =>
      split at h
      next bindings hg => exact moved_setStage hc rfl (.hit hsg hg) h
      · exact moved_setStage hc rfl (.missed hsg hus) h
  next hsg => exact moved_setStage hc rfl (.loaded hsg) h
  next generation hsg => exact moved_setStage (r := { q with loads := _ }) hc rfl (.joined hsg) h
  · exact ⟨c', h, .inl rfl⟩
  · exact ⟨c', h, .inl rfl⟩

theorem moved_deliver {id} (hf : f ∈ q.loads) (hr : f.stage = .finished result)
    (h : (q.deliver f.key result).calls id = some c') : Moved q id c' := by
  obtain ⟨c, hc, hc'⟩ := Option.map_eq_some_iff.mp h
  refine ⟨c, hc, ?_⟩
  split at hc'
  next key hsg =>
    split at hc'
    next hk =>
      obtain rfl := hc'
      exact .inr ⟨rfl, .delivered hf hr (hk ▸ hsg)⟩
    · exact .inl hc'.symm
  · exact .inl hc'.symm

theorem moved_fly {id} (hf : f ∈ q.loads) (h : (q.fly env healthy now f).calls id = some c') :
    Moved q id c' := by
  unfold Querier.fly at h
  split at h
  · split at h <;> exact ⟨c', h, .inl rfl⟩
  · exact ⟨c', h, .inl rfl⟩
  · exact ⟨c', h, .inl rfl⟩
  · exact ⟨c', h, .inl rfl⟩
  next result hr => exact moved_deliver hf hr h

theorem calls_step {id} (h : (q.step env healthy m).calls id = some c') :
    (q.calls id = none ∧ m = .call id c'.userID ∧ c'.stage = .started) ∨ Moved q id c' := by
  cases m with
  | call id' userID =>
    simp only [Querier.step] at h
    split at h
    · exact .inr ⟨c', h, .inl rfl⟩
    next hn =>
      change (if id = id' then _ else _) = _ at h
      split at h
      next hid =>
        cases h
        exact .inl ⟨hid ▸ hn, by rw [hid], rfl⟩
      · exact .inr ⟨c', h, .inl rfl⟩
  | proceed id' now =>
    simp only [Querier.step] at h
    split at h
    · exact .inr ⟨c', h, .inl rfl⟩
    next c hc => exact .inr (moved_proceed hc h)
  | cancel id' =>
    simp only [Querier.step] at h
    split at h
    next hc => exact .inr (moved_setStage hc rfl (.failed _) h)
    · exact .inr ⟨c', h, .inl rfl⟩
  | fly key now =>
    simp only [Querier.step] at h
    split at h
    · exact .inr ⟨c', h, .inl rfl⟩
    next f hf => exact .inr (moved_fly (mem_of_find?_eq_some hf) h)
  | prune userID | touch userID | invalidate scope => exact .inr ⟨c', h, .inl rfl⟩

/-! ### Generations -/

theorem generation_fly : (q.fly env healthy now f).cache.generation = q.cache.generation := by
  unfold Querier.fly
  split
  · split <;> rfl
  · rfl
  · exact Cache.generation_put
  · rfl
  · rfl

theorem mem_loads_fly (hf : f ∈ q.loads) (h : f' ∈ (q.fly env healthy now f).loads) :
    ∃ f0 ∈ q.loads, f'.userID = f0.userID ∧ f'.generation = f0.generation := by
  have hs : ∀ {q0 : Querier} {fstage}, q0.loads = q.loads → f' ∈ (q0.setFlight f.key fstage).loads →
      ∃ f0 ∈ q.loads, f'.userID = f0.userID ∧ f'.generation = f0.generation := by
    intro q0 fstage hl h
    rcases mem_loads_setFlight h with h | rfl
    · exact ⟨f', hl ▸ h, rfl, rfl⟩
    · exact ⟨f, hf, rfl, rfl⟩
  unfold Querier.fly at h
  split at h
  · split at h <;> exact hs rfl h
  · exact hs rfl h
  · exact hs rfl h
  · exact hs rfl h
  · exact ⟨f', (mem_filter.mp h).1, rfl, rfl⟩

theorem generation_step : q.cache.generation ≤ (q.step env healthy m).cache.generation := by
  cases m with
  | call id userID | cancel id =>
    simp only [Querier.step]
    split <;> exact Nat.le_refl _
  | proceed id now =>
    simp only [Querier.step]
    split
    · exact Nat.le_refl _
    next c _ => exact Nat.le_of_eq (by rw [(proceed_frame q healthy now id c).1])
  | fly key now =>
    simp only [Querier.step]
    split
    · exact Nat.le_refl _
    · exact Nat.le_of_eq generation_fly.symm
  | prune userID | touch userID => exact Nat.le_refl _
  | invalidate scope => exact Cache.generation_le_invalidate

theorem mem_loads_step (h : f' ∈ (q.step env healthy m).loads) :
    (∃ f ∈ q.loads, f'.userID = f.userID ∧ f'.generation = f.generation) ∨
      ∃ id c, q.calls id = some c ∧ c.stage = .loaded f'.generation := by
  have hs : f' ∈ q.loads → ∃ f ∈ q.loads, f'.userID = f.userID ∧ f'.generation = f.generation :=
    fun h => ⟨f', h, rfl, rfl⟩
  cases m with
  | call id userID | cancel id =>
    simp only [Querier.step] at h
    split at h <;> exact .inl (hs h)
  | proceed id now =>
    simp only [Querier.step] at h
    split at h
    · exact .inl (hs h)
    next c hc =>
      rcases (proceed_frame q healthy now id c).2 f' h with h | ⟨-, hsg⟩
      · exact .inl (hs h)
      · exact .inr ⟨id, c, hc, hsg⟩
  | fly key now =>
    simp only [Querier.step] at h
    split at h
    · exact .inl (hs h)
    next f hf => exact .inl (mem_loads_fly (mem_of_find?_eq_some hf) h)
  | prune userID | touch userID | invalidate scope => exact .inl (hs h)

theorem Bounded.step (h : q.Bounded) : (q.step env healthy m).Bounded where
  loads := by
    intro f' hf'
    refine Nat.le_trans ?_ generation_step
    rcases mem_loads_step hf' with ⟨f, hf, -, hg⟩ | ⟨id, c, hc, hsg⟩
    · exact hg ▸ h.loads f hf
    · exact h.calls id c _ hc hsg
  calls := by
    intro id c' g hc' hsg'
    refine Nat.le_trans ?_ generation_step
    rcases calls_step hc' with ⟨-, -, hsd⟩ | ⟨c, hc, rfl | ⟨-, ha⟩⟩
    · rw [hsd] at hsg'
      cases hsg'
    · exact h.calls id _ g hc hsg'
    · rw [hsg'] at ha
      cases ha
      exact Nat.le_refl _

theorem FreshFrom.of_invalidate (hb : q.Bounded)
    (hcv : ∀ userID, P userID → scope.Covers userID ∧ userID ≠ "") (hP : ∃ userID, P userID) :
    { q with cache := q.cache.invalidate scope }.FreshFrom p versions n P
      (q.cache.generation + 1) := by
  have hi := fun userID hP =>
    Cache.invalidate_of_covers (c := q.cache) (hcv userID hP).1 (hcv userID hP).2
  obtain ⟨someone, hs⟩ := hP
  refine ⟨Nat.le_of_eq (hi someone hs).1.symm, fun e he hP => ?_, fun f hf _ hg => ?_⟩
  · exact absurd rfl ((hi e.userID hP).2 e he)
  · exact absurd (hb.loads f hf) (Nat.not_le.mpr hg)

end Querier

end Astronomer.Rbac
