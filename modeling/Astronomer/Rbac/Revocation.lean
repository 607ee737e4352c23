import Astronomer.Rbac.Cache

/-!
# A revocation is visible at once in its own process

A role change is committed, then the cache is invalidated for the users it concerns. A call
that starts after that answers with bindings that were read after the commit.
-/

namespace Astronomer.Rbac

structure Process where
  older : List Database := []
  db : Database
  querier : Querier

namespace Process

variable (p : Parser) (w : Process)

def versions : List Database := w.older ++ [w.db]

def version : Nat := w.older.length

def start (options : CacheOptions) (db : Database) : Process where
  db := db
  querier := { cache := { options } }

inductive Event where
  | commit (db : Database)
  | move (healthy : Bool) (fails : Query → Bool) (m : Move)

def step : Event → Process
  | .commit db => { w with older := w.versions, db }
  | .move healthy fails m => { w with querier := w.querier.step (p.env w.db fails) healthy m }

end Process

def CallStage.Since (p : Parser) (versions : List Database) (n : Nat) (userID : String) (g : Nat) :
    CallStage → Prop
  | .started | .missed | .returned (.error _) => True
  | .loaded generation => g ≤ generation
  | .waiting key => ∃ generation, g ≤ generation ∧ key = flightKey userID generation
  | .returned (.ok bindings) => ReadSince p versions n userID bindings

section

variable {p : Parser} {versions later : List Database} {n g : Nat} {u : String} {q : Querier}
  {c : Call} {stage : CallStage}

theorem CallStage.Since.mono (h : stage.Since p versions n u g) :
    stage.Since p (versions ++ later) n u g := by
  cases stage with
  | returned result =>
    cases result with
    | error err => trivial
    | ok bindings => exact ReadSince.mono h (Nat.le_refl n)
  | started | missed => trivial
  | loaded generation | waiting key => exact h

theorem Querier.Advance.since (ha : Querier.Advance q c stage) (hu : c.userID ≠ "")
    (hfs : q.FreshFrom p versions n (· = c.userID) g)
    (hc : c.stage.Since p versions n c.userID g) : stage.Since p versions n c.userID g := by
  cases ha with
  | anonymous hsg hus => exact absurd hus hu
  | hit hsg hgt => exact hfs.get hgt rfl
  | missed hsg hus | failed err => trivial
  | loaded hsg => exact hfs.generation
  | joined hsg =>
    rw [hsg] at hc
    exact ⟨_, hc, rfl⟩
  | @delivered f result hf hr hsg =>
    rw [hsg] at hc
    obtain ⟨generation, hg, hk⟩ := hc
    -- the load it waited for is one of its own user, begun under a generation it has seen
    obtain ⟨hus, rfl⟩ := flightKey_inj hk
    have hs := hfs.loads f hf hus hg
    rw [hr, hus] at hs
    cases result with
    | error err => trivial
    | ok bindings => exact hs

end

namespace Process

variable {p : Parser} {w : Process} {e : Event} {n g id : Nat} {u : String} {options : CacheOptions}
  {db : Database} {healthy : Bool} {fails : Query → Bool} {scope : Cache.Scope}
  {past rest : List Event} {bindings : List RoleBinding}

theorem getElem?_version : w.versions[w.version]? = some w.db := by
  simp [versions, version]

/-- Since an invalidation after version `n`: the process is fresh for the user, and so is
where the call stands. -/
structure Seen (p : Parser) (n g id : Nat) (u : String) (w : Process) : Prop where
  committed : n ≤ w.version
  fresh : w.querier.FreshFrom p w.versions n (· = u) g
  call : ∀ c, w.querier.calls id = some c → c.userID = u → c.stage.Since p w.versions n u g

theorem Seen.step (h : Seen p n g id u w) (hu : u ≠ "") (e : Event) :
    Seen p n g id u (w.step p e) := by
  cases e with
  | commit db =>
    refine ⟨?_, h.fresh.commit, fun c hc hus => (h.call c hc hus).mono⟩
    have hv : (w.step p (.commit db)).version = w.version + 1 := List.length_append
    exact hv ▸ Nat.le_succ_of_le h.committed
  | move healthy fails m =>
    have hn : ∃ i, n ≤ i ∧ w.versions[i]? = some w.db := ⟨w.version, h.committed, getElem?_version⟩
    refine ⟨h.committed, h.fresh.step hn, fun c' hc' hus => ?_⟩
    rcases Querier.calls_step hc' with ⟨-, -, hsd⟩ | ⟨c, hc, rfl | ⟨hs, ha⟩⟩
    · rw [hsd]
      trivial
    · exact h.call _ hc hus
    · obtain rfl : c.userID = u := hs.symm.trans hus
      exact ha.since hu h.fresh (h.call c hc rfl)

theorem bounded_start : (start options db).querier.Bounded :=
  ⟨fun _ hf => (List.not_mem_nil hf).elim, fun _ _ _ hc _ => nomatch hc⟩

theorem bounded_step (h : w.querier.Bounded) (e : Event) : (w.step p e).querier.Bounded := by
  cases e with
  | commit db => exact h
  | move healthy fails m => exact h.step

theorem Seen.of_invalidate (hb : w.querier.Bounded) (hcm : n ≤ w.version)
    (hcv : scope.Covers u) (hu : u ≠ "")
    (hl : (w.step p (.move healthy fails (.invalidate scope))).querier.calls id = none) :
    Seen p n (w.querier.cache.generation + 1) id u
      (w.step p (.move healthy fails (.invalidate scope))) where
  committed := hcm
  fresh := Querier.FreshFrom.of_invalidate hb (by rintro _ rfl; exact ⟨hcv, hu⟩) ⟨u, rfl⟩
  call := fun c hc => nomatch hl.symm.trans hc

def AnonymousIdle (w : Process) : Prop :=
  ∀ id c, w.querier.calls id = some c → c.userID = "" →
    c.stage = .started ∨ c.stage = .returned (.ok []) ∨ ∃ err, c.stage = .returned (.error err)

theorem anonymousIdle_step (h : AnonymousIdle w) (e : Event) : AnonymousIdle (w.step p e) := by
  cases e with
  | commit db => exact h
  | move healthy fails m =>
    intro id c' hc' hus
    rcases Querier.calls_step hc' with ⟨-, -, hsd⟩ | ⟨c, hc, rfl | ⟨hs, ha⟩⟩
    · exact .inl hsd
    · exact h id _ hc hus
    · rw [hs] at hus
      have hi := h id c hc hus
      generalize c'.stage = stage' at ha ⊢
      cases ha with
      | anonymous hsg hu => exact .inr (.inl rfl)
      | hit hsg hg =>
        rw [hus] at hg
        simp [Cache.get] at hg
      | missed hsg hu => exact absurd hus hu
      | loaded hsg | joined hsg | delivered hf hr hsg => simp [hsg] at hi
      | failed err => exact .inr (.inr ⟨err, rfl⟩)

/-- **A revocation is visible at once**: a role mutation has made version `n`, and then the
cache was invalidated for a user it concerns. A `GetUserBindings` of the user's that
starts after that answers with bindings read from versions `n` on, however it is
interleaved with other calls, loads begun before the mutation, expiry, eviction and
further mutations. A call without a user answers with no bindings at all. -/
theorem revocation_visible (id : Nat)
    (hcommitted : n ≤ (run (step p) (start options db) past).version) (hcovers : scope.Covers u)
    (hlater : (run (step p) (start options db)
      (past ++ [.move healthy fails (.invalidate scope)])).querier.calls id = none)
    (hreturned : (run (step p) (start options db)
      (past ++ .move healthy fails (.invalidate scope) :: rest)).querier.calls id
        = some ⟨u, .returned (.ok bindings)⟩) :
    (u = "" ∧ bindings = []) ∨ ReadSince p (run (step p) (start options db)
        (past ++ .move healthy fails (.invalidate scope) :: rest)).versions n u bindings := by
  by_cases hu : u = ""
  · have hi : AnonymousIdle (run (step p) (start options db)
        (past ++ .move healthy fails (.invalidate scope) :: rest)) :=
      run_preserves (fun _ e h => anonymousIdle_step h e) nofun
    exact .inl ⟨hu, by simpa using hi id _ hreturned hu⟩
  · right
    have hb : (run (step p) (start options db) past).querier.Bounded :=
      run_preserves (P := fun w : Process => w.querier.Bounded) (fun _ e h => bounded_step h e)
        bounded_start
    rw [run_snoc] at hlater
    rw [run_append, run_cons] at hreturned ⊢
    have hsn := Seen.of_invalidate hb hcommitted hcovers hu hlater
    have he : Seen p n _ id u (run (step p) _ rest) :=
      run_preserves (fun _ e h => Seen.step h hu e) hsn
    exact he.call _ hreturned rfl

end Process

namespace Demoted

open Process

def parser : Parser := ⟨UUID.ofText?, UUID.ofText?_text⟩

def user : UUID := ⟨"0a000000-0000-0000-0000-000000000001", by decide +kernel⟩

def options : CacheOptions := ⟨15000, 5000, 100000⟩

def before : Database := { users := [⟨user, true⟩] }

def after : Database := { users := [⟨user, false⟩] }

def act (m : Move) : Event := .move true (fun _ => false) m

def load (generation : Nat) : Event := act (.fly (flightKey user.text generation) 0)

def request (id : Nat) : List Event :=
  [act (.call id user.text), act (.proceed id 0), act (.proceed id 0), act (.proceed id 0)]

def past : List Event := request 1 ++ [load 0, load 0, .commit after]

def rest : List Event := [load 0] ++ request 2 ++ [load 1, load 1, load 1, load 1, load 1, load 0]

end Demoted

open Process in
/-- The request that began before the demotion still answers with what its load read; the
one after it does not. -/
theorem demoted_visible : (run (step Demoted.parser) (start Demoted.options Demoted.before)
        (Demoted.past ++ Demoted.act (.invalidate (.user Demoted.user.text)) ::
          Demoted.rest)).querier.calls 1
      = some ⟨Demoted.user.text,
        .returned (.ok [{ userID := Demoted.user.text, isSuperuser := true }])⟩ ∧
    ((Demoted.user.text = "" ∧ ([] : List RoleBinding) = []) ∨ ReadSince Demoted.parser
        (run (step Demoted.parser) (start Demoted.options Demoted.before)
          (Demoted.past ++ Demoted.act (.invalidate (.user Demoted.user.text)) ::
            Demoted.rest)).versions
        1 Demoted.user.text []) :=
  ⟨by decide +kernel, revocation_visible 2 (by decide +kernel) rfl (by decide +kernel)
    (by decide +kernel)⟩

end Astronomer.Rbac
