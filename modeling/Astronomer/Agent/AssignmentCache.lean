import Mathlib.Data.Finset.Sort
import Mathlib.Data.String.Basic
import Astronomer.Agent.Runtime

/-!
# The assignment cache

Informers mark deployments as dirty through a reverse index and leave one token on a channel;
a consumer receives the token and then calls `ConsumeDirty`. The maps change under a mutex. A
receive takes no mutex and can fall between any two channel operations of a method.
-/

namespace Astronomer.Agent

open List

/-! ## The subscriptions -/

structure AssignmentRefs where
  assignment : AcceptedAssignment
  (source reconciler : ObjectIdentity)
  deriving DecidableEq

def reconcilerResource : RendererKind → ResourceKind
  | .kustomize => .kustomization
  | .helm => .helmRelease

def observeIdentity (a : AcceptedAssignment) (refs : Option ObjectIdentity × Option ObjectIdentity)
    (i : ObjectIdentity) : Except Err (Option ObjectIdentity × Option ObjectIdentity) := do
  let n := names a.projectID a.deploymentID
  let source := i.kind == sourceResource a.sourceKind
  if !source && i.kind != reconcilerResource a.rendererKind then pure refs
  else do
    require (i.namespaceName == n.controlNamespace) "assignment observation namespace mismatch"
    if source then do
      require (i.name == n.source && refs.1.isNone) "invalid source observation identity"
      pure (some i, refs.2)
    else do
      require (i.name == n.base && refs.2.isNone) "invalid reconciler observation identity"
      pure (refs.1, some i)

def assignmentObservationRefs (a : AcceptedAssignment) : Except Err AssignmentRefs := do
  validateAcceptedAssignment a
  require (a.controlNamespace == (names a.projectID a.deploymentID).controlNamespace)
    "assignment control namespace mismatch"
  match ← a.objects.foldlM (observeIdentity a) (none, none) with
  | (some source, some reconciler) => pure ⟨a, source, reconciler⟩
  | _ => .error "accepted assignment lacks Flux observation identities"

/-- The two maps that one `ReplaceAssignments` builds; `reverse` holds a pair for each entry
of the sets in the source's map of sets. -/
structure Subscriptions where
  assignments : List (String × AssignmentRefs) := []
  reverse : List (ObjectIdentity × String) := []

def Subscriptions.add (x : Subscriptions) (a : AcceptedAssignment) : Except Err Subscriptions := do
  let refs ← assignmentObservationRefs a
  require (x.assignments.lookup a.deploymentID).isNone "duplicate accepted assignment"
  pure ⟨x.assignments ++ [(a.deploymentID, refs)],
    x.reverse ++ [(refs.source, a.deploymentID), (refs.reconciler, a.deploymentID)]⟩

def subscribe (limit : Nat) (assignments : List AcceptedAssignment) : Except Err Subscriptions := do
  require (decide (assignments.length ≤ limit)) "assignment observation limit exceeded"
  assignments.foldlM Subscriptions.add {}

def Subscriptions.affected (x : Subscriptions) (p : ObjectIdentity → Bool) : Finset String :=
  ((x.reverse.filter fun e => p e.1).map Prod.snd).toFinset

def Subscriptions.Inverse (x : Subscriptions) : Prop :=
  ∀ key id, (key, id) ∈ x.reverse ↔ ∃ refs, x.assignments.lookup id = some refs ∧
    (key = refs.source ∨ key = refs.reconciler)

/-! ## The cache -/

inductive ChannelOp where
  | drain
  | signalIfDirty
  deriving DecidableEq

/-- `pending` are the channel operations left to the method that holds the mutex, `received`
the consumers that have received a token and not called `ConsumeDirty` since. -/
structure AssignmentCache (γ : Type) where
  subscriptions : Subscriptions := {}
  dirty : Finset String := ∅
  wake : Bool := false
  pending : List ChannelOp := []
  received : List γ := []

inductive CacheEvent (γ : Type) where
  | markObjectDirty (key : ObjectIdentity)
  | markKindDirty (kind : ResourceKind)
  | replaceAssignments (assignments : List AcceptedAssignment)
  | consumeDirty (consumer : γ)
  | channel
  | receive (consumer : γ)

namespace AssignmentCache

variable {γ : Type}

def mark (s : AssignmentCache γ) (p : ObjectIdentity → Bool) : AssignmentCache γ :=
  { s with dirty := s.dirty ∪ s.subscriptions.affected p, pending := [.signalIfDirty] }

def replace (s : AssignmentCache γ) (next : Subscriptions) : AssignmentCache γ :=
  { s with
    subscriptions := next
    dirty := s.dirty.filter (fun id => (next.assignments.lookup id).isSome) ∪
      ((next.assignments.filter fun e =>
        s.subscriptions.assignments.lookup e.1 ≠ some e.2).map Prod.fst).toFinset
    pending := [.drain, .signalIfDirty] }

def consumeDirty [DecidableEq γ] (s : AssignmentCache γ) (consumer : γ) :
    List String × AssignmentCache γ :=
  (s.dirty.sort, { s with
    dirty := ∅, pending := [.drain], received := s.received.filter (· ≠ consumer) })

def channel (s : AssignmentCache γ) : AssignmentCache γ :=
  match s.pending with
  | [] => s
  | .drain :: rest => { s with wake := false, pending := rest }
  | .signalIfDirty :: rest => { s with wake := s.wake || decide (s.dirty ≠ ∅), pending := rest }

/-- A method that finds the mutex taken, and a receive that finds no token, wait. -/
def step [DecidableEq γ] (limit : Nat) (s : AssignmentCache γ) : CacheEvent γ → AssignmentCache γ
  | .markObjectDirty key => if s.pending = [] then s.mark fun k => k = key else s
  | .markKindDirty kind => if s.pending = [] then s.mark fun k => k.kind = kind else s
  | .replaceAssignments assignments =>
    match subscribe limit assignments with
    | .error _ => s
    | .ok next => if s.pending = [] then s.replace next else s
  | .consumeDirty consumer => if s.pending = [] then (s.consumeDirty consumer).2 else s
  | .channel => s.channel
  | .receive consumer =>
    if s.wake then { s with wake := false, received := consumer :: s.received } else s

end AssignmentCache

/-! ## What one method keeps -/

theorem Subscriptions.Inverse.add {x x' : Subscriptions} {a} (h : x.Inverse)
    (ha : x.add a = .ok x') : x'.Inverse := by
  simp only [Subscriptions.add, bind_eq_ok, require_eq_ok, pure_eq_ok, Option.isNone_iff_eq_none]
    at ha
  obtain ⟨refs, -, _, hn, rfl⟩ := ha
  intro key id
  simp only [mem_append, h key id, mem_cons, Prod.mk.injEq, not_mem_nil, or_false,
    lookup_append]
  by_cases hid : id = a.deploymentID
  · subst hid
    simp [hn]
  · simp [lookup_cons, hid, beq_false_of_ne hid]

theorem inverse_of_subscribe {limit assignments next} (h : subscribe limit assignments = .ok next) :
    next.Inverse := by
  simp only [subscribe, bind_eq_ok] at h
  obtain ⟨_, -, h⟩ := h
  exact foldlM_invariant (fun _ _ _ _ hx ha => hx.add ha) h
    (by simp [Subscriptions.Inverse])

namespace AssignmentCache

variable {γ : Type} {s : AssignmentCache γ} {limit : Nat}

/-- The mutex is free, or a method holds it that has drained the channel for good or has yet
to signal. -/
def Settling (s : AssignmentCache γ) : Prop :=
  s.pending = [] ∨ s.pending = [.signalIfDirty] ∨ s.pending = [.drain, .signalIfDirty] ∨
    (s.pending = [.drain] ∧ s.dirty = ∅)

structure Sound (s : AssignmentCache γ) : Prop where
  inverse : s.subscriptions.Inverse
  subscribed : ∀ id ∈ s.dirty, (s.subscriptions.assignments.lookup id).isSome
  settling : s.Settling
  woken : s.dirty ≠ ∅ → .signalIfDirty ∈ s.pending ∨ s.wake ∨ s.received ≠ []

theorem sound_init : Sound ({} : AssignmentCache γ) :=
  ⟨by simp [Subscriptions.Inverse], by simp, .inl rfl, fun h => absurd rfl h⟩

theorem Sound.mark {p} (h : s.Sound) : (s.mark p).Sound := by
  refine ⟨h.inverse, fun id hid => ?_, .inr (.inl rfl),
    fun _ => .inl (by simp [AssignmentCache.mark])⟩
  rcases Finset.mem_union.mp hid with hid | hid
  · exact h.subscribed id hid
  · obtain ⟨⟨key, id⟩, he, rfl⟩ := mem_map.mp (mem_toFinset.mp hid)
    obtain ⟨refs, hl, -⟩ := (h.inverse key id).mp (mem_of_mem_filter he)
    exact Option.isSome_of_eq_some hl

theorem Sound.replace {next} (h : next.Inverse) : (s.replace next).Sound := by
  refine ⟨h, fun id hid => ?_, .inr (.inr (.inl rfl)),
    fun _ => .inl (by simp [AssignmentCache.replace])⟩
  rcases Finset.mem_union.mp hid with hid | hid
  · exact (Finset.mem_filter.mp hid).2
  · obtain ⟨⟨id, refs⟩, he, rfl⟩ := mem_map.mp (mem_toFinset.mp hid)
    exact lookup_isSome_iff.mpr ⟨_, mem_of_mem_filter he, beq_self_eq_true id⟩

theorem Sound.channel (h : s.Sound) : s.channel.Sound := by
  rcases h.settling with hp | hp | hp | ⟨hp, hd⟩ <;> simp only [AssignmentCache.channel, hp]
  · exact h
  · refine ⟨h.inverse, h.subscribed, .inl rfl, fun hd => ?_⟩
    simp [hd]
  · exact ⟨h.inverse, h.subscribed, .inr (.inl rfl), fun _ => by simp⟩
  · exact ⟨h.inverse, h.subscribed, .inl rfl, fun hne => absurd hd hne⟩

theorem Sound.woken_of_free (h : s.Sound) (hp : s.pending = []) (hd : s.dirty ≠ ∅) :
    s.wake ∨ ∃ consumer, consumer ∈ s.received := by
  rcases h.woken hd with hs | hw | hr
  · rw [hp] at hs
    cases hs
  · exact .inl hw
  · exact .inr (exists_mem_of_ne_nil _ hr)

variable [DecidableEq γ]

theorem Sound.step (h : s.Sound) (e : CacheEvent γ) : (s.step limit e).Sound := by
  cases e with
  | markObjectDirty | markKindDirty =>
    simp only [AssignmentCache.step]
    split
    · exact h.mark
    · exact h
  | replaceAssignments assignments =>
    simp only [AssignmentCache.step]
    split
    · exact h
    · split
      · exact .replace (inverse_of_subscribe ‹_›)
      · exact h
  | consumeDirty consumer =>
    simp only [AssignmentCache.step]
    split
    · exact ⟨h.inverse, by simp [AssignmentCache.consumeDirty], .inr (.inr (.inr ⟨rfl, rfl⟩)),
        fun hd => absurd rfl hd⟩
    · exact h
  | channel => exact h.channel
  | receive consumer =>
    simp only [AssignmentCache.step]
    split
    · exact ⟨h.inverse, h.subscribed, h.settling, fun _ => .inr (.inr (by simp))⟩
    · exact h

/-! ## Every interleaving -/

/-- `woken` is about the states in which the mutex is free: nobody else sees the dirty set in
between. -/
structure NoLostWakeup (limit : Nat) (s : AssignmentCache γ) : Prop where
  inverse : ∀ key id, (key, id) ∈ s.subscriptions.reverse ↔
    ∃ refs, s.subscriptions.assignments.lookup id = some refs ∧
      (key = refs.source ∨ key = refs.reconciler)
  subscribed : ∀ id ∈ s.dirty, ∃ refs, s.subscriptions.assignments.lookup id = some refs
  woken : s.pending = [] → s.dirty ≠ ∅ → s.wake ∨ ∃ consumer, consumer ∈ s.received
  kept : ∀ assignments, ∀ id ∈ s.dirty, ∀ refs,
    s.subscriptions.assignments.lookup id = some refs →
    (s.step limit (.replaceAssignments assignments)).subscriptions.assignments.lookup id =
      some refs → id ∈ (s.step limit (.replaceAssignments assignments)).dirty

theorem Sound.kept {assignments id} (hid : id ∈ s.dirty)
    (hl : ((s.step limit (.replaceAssignments assignments)).subscriptions.assignments.lookup
      id).isSome) : id ∈ (s.step limit (.replaceAssignments assignments)).dirty := by
  simp only [AssignmentCache.step] at hl ⊢
  split
  · exact hid
  next next hn =>
    split
    next hp =>
      simp only [hn, if_pos hp] at hl
      exact Finset.mem_union_left _ (Finset.mem_filter.mpr ⟨hid, hl⟩)
    · exact hid

theorem no_lost_wakeup (events : List (CacheEvent γ)) :
    NoLostWakeup limit (run (step limit) {} events) := by
  have h : (run (step limit) {} events).Sound := run_preserves (fun _ e h => h.step e) sound_init
  exact ⟨h.inverse, fun id hid => Option.isSome_iff_exists.mp (h.subscribed id hid),
    h.woken_of_free, fun _ _ hid _ _ hl => Sound.kept hid (Option.isSome_of_eq_some hl)⟩

/-! ## A mark reaches a consumer -/

/-- The event marks the deployments that observe `key`. -/
def Marks (key : ObjectIdentity) : CacheEvent γ → Prop
  | .markObjectDirty k => key = k
  | .markKindDirty kind => key.kind = kind
  | _ => False

/-- No `ConsumeDirty` gets the mutex, and the deployment stays subscribed. -/
def Keeps (limit : Nat) (id : String) (s : AssignmentCache γ) : CacheEvent γ → Prop
  | .consumeDirty _ => s.pending ≠ []
  | .replaceAssignments assignments => ((s.step limit
      (.replaceAssignments assignments)).subscriptions.assignments.lookup id).isSome
  | _ => True

theorem Sound.marked {id refs key e} (h : s.Sound) (hp : s.pending = [])
    (hl : s.subscriptions.assignments.lookup id = some refs)
    (hkey : key = refs.source ∨ key = refs.reconciler) (he : Marks key e) :
    id ∈ (s.step limit e).dirty := by
  have hmem : (key, id) ∈ s.subscriptions.reverse := (h.inverse key id).mpr ⟨refs, hl, hkey⟩
  have haff : ∀ p : ObjectIdentity → Bool, p key = true → id ∈ (s.mark p).dirty := fun p hk =>
    Finset.mem_union_right _ (mem_toFinset.mpr
      (mem_map.mpr ⟨_, mem_filter.mpr ⟨hmem, hk⟩, rfl⟩))
  cases e with
  | markObjectDirty | markKindDirty =>
    simp only [AssignmentCache.step, if_pos hp]
    exact haff _ (decide_eq_true he)
  | _ => cases he

theorem Keeps.dirty {id e} (hk : Keeps limit id s e) (hid : id ∈ s.dirty) :
    id ∈ (s.step limit e).dirty := by
  cases e with
  | replaceAssignments => exact Sound.kept hid hk
  | consumeDirty => simpa only [AssignmentCache.step, if_neg hk] using hid
  | _ =>
    simp only [AssignmentCache.step, AssignmentCache.channel]
    split <;> first | exact hid | exact Finset.mem_union_left _ hid

/-- A mark of an object that a subscribed deployment observes reaches the next consumer that
gets the mutex, and until then a token or a woken consumer is there whenever the mutex is
free. -/
theorem mark_handed_out {id refs key} {e : CacheEvent γ} (before after : List (CacheEvent γ))
    (hp : (run (step limit) {} before).pending = [])
    (hl : (run (step limit) {} before).subscriptions.assignments.lookup id = some refs)
    (hkey : key = refs.source ∨ key = refs.reconciler) (he : Marks key e)
    (hm : RunMeets (step limit) (Keeps limit id) (run (step limit) {} (before ++ [e])) after)
    (hfree : (run (step limit) {} (before ++ e :: after)).pending = []) (consumer : γ) :
    id ∈ ((run (step limit) {} (before ++ e :: after)).consumeDirty consumer).1 ∧
      ((run (step limit) {} (before ++ e :: after)).wake ∨
        ∃ consumer, consumer ∈ (run (step limit) {} (before ++ e :: after)).received) := by
  have h : ∀ es : List (CacheEvent γ), (run (step limit) {} es).Sound := fun es =>
    run_preserves (fun _ e h => Sound.step h e) sound_init
  have hid : id ∈ (run (step limit) {} (before ++ e :: after)).dirty := by
    rw [append_cons, run_append]
    refine hm.preserves (P := (id ∈ dirty ·)) (fun s e hid hk => hk.dirty hid) ?_
    rw [run_snoc]
    exact (h before).marked hp hl hkey he
  exact ⟨(Finset.mem_sort _).mpr hid, (h _).woken_of_free hfree (Finset.ne_empty_of_mem hid)⟩

end AssignmentCache

namespace OneDeployment

def observedSource : ObjectIdentity :=
  ⟨.gitRepository, (names projectID deploymentID).controlNamespace,
    (names projectID deploymentID).source⟩

def observedReconciler : ObjectIdentity :=
  ⟨.kustomization, (names projectID deploymentID).controlNamespace,
    (names projectID deploymentID).base⟩

def observed (generation : Int) : AcceptedAssignment :=
  { deploymentID := deploymentID, projectID := projectID, generation := generation
    specDigest := digest, action := .apply, scope := .namespaced, sourceKind := .git
    rendererKind := .kustomize, controlNamespace := (names projectID deploymentID).controlNamespace
    targetNamespace := "apps", objects := [observedSource, observedReconciler] }

end OneDeployment

open OneDeployment AssignmentCache in
/-- The deployment is subscribed and its first mark consumed; its source changes, and a new
generation replaces the subscription before the consumer is back. -/
theorem mark_handed_out_replaced :
    let before : List (CacheEvent Unit) := [.replaceAssignments [observed 1], .channel, .channel,
      .receive (), .consumeDirty (), .channel]
    let after : List (CacheEvent Unit) :=
      [.channel, .replaceAssignments [observed 2], .channel, .channel, .receive ()]
    (run (step 10) {} before).dirty = ∅ ∧
      deploymentID ∈ ((run (step 10) {}
        (before ++ .markObjectDirty observedSource :: after)).consumeDirty ()).1 := by
  intro before after
  have hrefs : (run (step 10) {} before).subscriptions.assignments.lookup deploymentID =
      some ⟨observed 1, observedSource, observedReconciler⟩ := by decide +kernel
  have hkeeps : RunMeets (step 10) (Keeps 10 deploymentID)
      (run (step 10) {} (before ++ [.markObjectDirty observedSource])) after := by
    refine ⟨trivial, ?_, trivial, trivial, trivial, trivial⟩
    simp only [Keeps]
    decide +kernel
  refine ⟨by decide +kernel, ?_⟩
  exact (mark_handed_out (e := .markObjectDirty observedSource) before after (by decide +kernel)
    hrefs (.inl rfl) rfl hkeeps (by decide +kernel) ()).1

end Astronomer.Agent
