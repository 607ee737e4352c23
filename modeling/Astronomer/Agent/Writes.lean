import Astronomer.Agent.Runtime

/-!
# What the calls for one deployment write

Whatever the agent does for a deployment, whether it succeeds or stops halfway, stays within
the deployment's own names (`Writes`).
-/

namespace Astronomer.Agent

open List

variable {context : String} {foreground : Bool} {ids : List ObjectIdentity} {u : Unit}

abbrev Objects := List (Stored ObjectIdentity Content)

variable {cluster : Cluster} {d d' : String} {i : ObjectIdentity}
  {os os' os'' : Objects} {o : Stored ObjectIdentity Content} {x : Object} {a : Assignment}
  {m : Materialization} {b : Boundary}

def ObjectIdentity.Of (d : String) (i : ObjectIdentity) : Prop :=
  i.name ∈ nameEndings.map (("d-" ++ hexOf d) ++ ·)
deriving Decidable

theorem ObjectIdentity.of_iff (project : String) :
    i.Of d ↔ i.name ∈ (names project d).ofDeployment := by
  rw [ofDeployment_eq]
  rfl

theorem ObjectIdentity.Of.eq (h : i.Of d) (h' : i.Of d') (hd : validUUID d)
    (hd' : validUUID d') : d = d' :=
  eq_of_mem_names hd hd' ((of_iff "").mp h) ((of_iff "").mp h')

/-- An object as the agent writes it for a deployment: the project's shared Namespace,
which carries no deployment label, or one of the deployment's own objects. -/
def Object.For (d : String) (x : Object) : Prop :=
  (x.1.kind = .namespaceKind ∧ x.2.labels.deploymentID = "") ∨
    (x.1.kind ≠ .namespaceKind ∧ x.1.Of d ∧ x.2.managedFor d)

structure Writes (cluster : Cluster) (d : String) (os os' : Objects) : Prop where
  outside : ∀ o : Stored ObjectIdentity Content, o.id.kind ≠ .namespaceKind → ¬ o.id.Of d →
    (o ∈ os' ↔ o ∈ os)
  inside : ∀ o ∈ os', (∃ o0 ∈ os, o0.id = o.id ∧ o0.content.labels = o.content.labels) ∨
    (cluster.served o.id.kind ∧ Object.For d (o.id, o.content))

theorem Content.managedFor_of_labels {c c' : Content} (h : c.labels = c'.labels) :
    c.managedFor d = c'.managedFor d := by
  simp only [Content.managedFor, h]

theorem Writes.refl : Writes cluster d os os :=
  ⟨fun _ _ _ => Iff.rfl, fun o ho => .inl ⟨o, ho, rfl, rfl⟩⟩

theorem Writes.trans (h : Writes cluster d os os') (h' : Writes cluster d os' os'') :
    Writes cluster d os os'' := by
  refine ⟨fun o hk hd => (h'.outside o hk hd).trans (h.outside o hk hd), fun o ho => ?_⟩
  rcases h'.inside o ho with ⟨o1, ho1, hid1, hl1⟩ | hw
  · rcases h.inside o1 ho1 with ⟨o0, ho0, hid0, hl0⟩ | ⟨hsr, hf⟩
    · exact .inl ⟨o0, ho0, hid0.trans hid1, hl0.trans hl1⟩
    · refine .inr ⟨hid1 ▸ hsr, ?_⟩
      simp only [Object.For, hid1, hl1, Content.managedFor_of_labels hl1] at hf ⊢
      exact hf
  · exact .inr hw

theorem Writes.put (hsr : cluster.served x.1.kind) (hx : Object.For d x) :
    Writes cluster d os (Server.put x.1 x.2 os) := by
  constructor
  · intro o hk hd
    refine Server.mem_put_of_ne fun hid => ?_
    rcases hx with ⟨hns, -⟩ | ⟨-, hof, -⟩
    · exact hk (hid ▸ hns)
    · exact hd (hid ▸ hof)
  · intro o ho
    rcases Server.mem_put.mp ho with rfl | ⟨ho, -⟩
    · exact .inr ⟨hsr, hx⟩
    · exact .inl ⟨o, ho, rfl, rfl⟩

theorem Writes.edit {f} (hi : i.Of d) (hid : ∀ o, (f o).id = o.id)
    (hl : ∀ o, (f o).content.labels = o.content.labels) :
    Writes cluster d os (Server.edit i f os) := by
  constructor
  · exact fun o _ hd => Server.mem_edit_of_ne hid fun heq => hd (heq ▸ hi)
  · intro o ho
    obtain ⟨o0, ho0, rfl⟩ := mem_map.mp ho
    refine .inl ⟨o0, ho0, ?_⟩
    split
    · exact ⟨(hid o0).symm, (hl o0).symm⟩
    · exact ⟨rfl, rfl⟩

theorem Writes.drop {hold} (hi : i.Of d) :
    Writes cluster d os (Server.drop hold i os) := by
  cases hold with
  | true => exact Writes.edit hi (fun _ => rfl) fun _ => rfl
  | false =>
    constructor
    · exact fun o _ hd => Server.mem_drop_of_ne fun heq => hd (heq ▸ hi)
    · exact fun o ho => .inl ⟨o, mem_of_mem_filter ho, rfl, rfl⟩

/-! ## The calls of the executor -/

open Effect

theorem mem_sortDeleteOrder : i ∈ sortDeleteOrder ids ↔ i ∈ ids :=
  (perm_insertionSort deleteBefore ids).mem_iff

section Calls

variable {R : Kube → Kube → Prop} [IsPreorder Kube R] {recorded : List ObjectIdentity}
  {t : Deletion} {cfg : Config} {now : Delivery.Time}

theorem apply_moves (h : ∀ x ∈ m.objects, Moves R (applyObject cluster x)) :
    Moves R (apply cluster m) :=
  Moves.bind Moves.require fun _ => Moves.each h

theorem listAll_moves {targets} (hr : ∀ k : Kube, R k ⟨k.objects, k.faults.tail⟩) :
    Moves R (listAll cluster d targets) := by
  induction targets with
  | nil => exact Moves.pure
  | cons target targets ih =>
    refine Moves.bind ?_ fun _ => Moves.bind ih fun _ => Moves.pure
    exact Moves.bind (Server.call_moves_of_reads hr fun _ => rfl) fun _ =>
      Moves.bind Moves.require fun _ => Moves.pure

theorem existsWithFence_moves (hr : ∀ k : Kube, R k ⟨k.objects, k.faults.tail⟩) :
    Moves R (existsWithFence b i) := by
  refine Moves.bind (Server.call_moves_of_reads hr fun _ => rfl) fun found => ?_
  cases found with
  | none => exact Moves.pure
  | some o => exact Moves.bind Moves.require fun _ => Moves.pure

theorem deletePresent_moves (hr : ∀ k : Kube, R k ⟨k.objects, k.faults.tail⟩)
    (hd : Moves R (deleteObject cluster context foreground i)) :
    Moves R (deletePresent cluster b context foreground i) := by
  refine Moves.bind (existsWithFence_moves hr) fun present => ?_
  cases present with
  | true => exact Moves.bind hd fun _ => Moves.pure
  | false => exact Moves.pure

theorem deleteStage_moves (h : ∀ i ∈ ids, Moves R (deletePresent cluster b context foreground i)) :
    Moves R (deleteStage cluster b context foreground ids) := by
  induction ids with
  | nil => exact Moves.pure
  | cons i ids ih =>
    rw [forall_mem_cons] at h
    exact Moves.bind h.1 fun _ => Moves.bind (ih h.2) fun _ => Moves.pure

theorem beginDeletion_moves (hs : t.orphan → ∀ i, Moves R (suspend b m i))
    (hd : t.orphan = false → ∀ i ∈ recorded, validatePruneIdentity b m i = .ok () →
      ∀ context foreground, Moves R (deletePresent cluster b context foreground i)) :
    Moves R (beginDeletion cluster b t m recorded) := by
  refine Moves.bind Moves.ofExcept fun _ => ?_
  split
  · exact Moves.bind (Moves.each fun i _ => hs ‹_› i) fun _ => Moves.pure
  · refine Moves.bind_of_ok (Moves.each fun _ _ => Moves.ofExcept) fun _ k k' h => ?_
    have hst : ∀ {keep context foreground}, Moves R (deleteStage cluster b context foreground
        (((sortDeleteOrder recorded).filter (·.kind ≠ .namespaceKind)).filter keep)) := by
      refine deleteStage_moves fun i hi => ?_
      have hi := mem_of_mem_filter hi
      exact hd (eq_false_of_ne_true ‹_›) i (mem_sortDeleteOrder.mp (mem_of_mem_filter hi))
        ((each_check.mp h).2 i hi) _ _
    refine Moves.bind hst (fun present => ?_) k'
    split
    · exact Moves.pure
    · exact Moves.bind hst fun _ => Moves.pure

theorem incomplete_moves {s : DeploymentStatus} :
    Moves (Order.Preimage Runtime.kube R) (incomplete s) := fun _ => refl_of R _

theorem processAssignment_moves (ha : Moves R (apply cfg.cluster m))
    (hl : Moves R (existing cfg.cluster a m))
    (hp : ∀ xs stale, planPrune a m xs = .ok stale → Moves R (prune cfg.cluster stale)) :
    Moves (Order.Preimage Runtime.kube R) (processAssignment cfg now a m) := by
  refine Moves.bind refl fun r => ?_
  refine Moves.bind Moves.require fun _ => ?_
  refine Moves.bind (fun r => ha r.kube) fun applied => ?_
  split
  · exact incomplete_moves
  · refine Moves.bind (fun r => hl r.kube) fun listed => ?_
    split
    · exact incomplete_moves
    · split
      · exact incomplete_moves
      · refine Moves.bind (fun r => hp _ _ ‹_› r.kube) fun pruned => ?_
        split
        · exact incomplete_moves
        · exact fun r => refl_of R r.kube

theorem Checkpoint.deploymentID_of_accepted {c : Checkpoint} {accepted : AcceptedAssignment}
    (h : c.accepted d = some accepted) : accepted.deploymentID = d := by
  simpa using find?_some h

theorem processDeletion_moves (h : ∀ x : AcceptedAssignment, x.deploymentID = t.deploymentID →
      Moves R (beginDeletion cfg.cluster x.boundary t x.materialization x.objects)) :
    Moves (Order.Preimage Runtime.kube R) (processDeletion cfg now t) := by
  refine Moves.bind refl fun r => ?_
  split
  · exact fun r => refl_of R r.kube
  next x hx =>
    refine Moves.bind (fun r => h x (Checkpoint.deploymentID_of_accepted hx) r.kube)
      fun removed => ?_
    split
    · exact incomplete_moves
    · exact incomplete_moves
    · exact fun r => refl_of R r.kube

end Calls

section Loops

variable {R : Runtime → Runtime → Prop} [IsPreorder Runtime R] {cfg : Config} {now : Delivery.Time}

theorem processAssignments_moves {pairs : List (Assignment × Materialization)}
    (h : ∀ q ∈ pairs, Moves R (processAssignment cfg now q.1 q.2)) :
    Moves R (processAssignments cfg now pairs) := by
  induction pairs with
  | nil => exact Moves.pure
  | cons q pairs ih =>
    rw [forall_mem_cons] at h
    exact Moves.bind h.1 fun _ => Moves.bind (ih h.2) fun _ => Moves.pure

theorem processDeletions_moves {deletions : List Deletion}
    (h : ∀ t ∈ deletions, Moves R (processDeletion cfg now t)) :
    Moves R (processDeletions cfg now deletions) := by
  induction deletions with
  | nil => exact Moves.pure
  | cons t deletions ih =>
    rw [forall_mem_cons] at h
    exact Moves.bind h.1 fun _ => Moves.bind (ih h.2) fun _ => Moves.pure

end Loops

/-! ## The calls for one deployment -/

def KubeWrites (cluster : Cluster) (d : String) (k k' : Kube) : Prop :=
  Writes cluster d k.objects k'.objects

instance : IsPreorder Objects (Writes cluster d) where
  refl _ := Writes.refl
  trans _ _ _ := Writes.trans

instance : IsPreorder Kube (KubeWrites cluster d) :=
  inferInstanceAs (IsPreorder Kube (Order.Preimage Server.objects (Writes cluster d)))

theorem applyObject_writes (hx : Object.For d x) :
    Moves (KubeWrites cluster d) (applyObject cluster x) := by
  refine Moves.bind Moves.require fun _ => Server.call_moves fun os => ?_
  split
  · exact Writes.put ‹_› hx
  · exact Writes.refl

theorem deleteObject_writes (hi : i.Of d) :
    Moves (KubeWrites cluster d) (deleteObject cluster context foreground i) :=
  Server.call_moves fun _ => Writes.drop hi

theorem of_of_validatePruneIdentity (h : validatePruneIdentity b m i = .ok ()) :
    i.Of b.deploymentID := by
  simp only [validatePruneIdentity, bind_eq_ok, require_eq_ok] at h
  obtain ⟨_, -, _, hnm, -⟩ := h
  exact (ObjectIdentity.of_iff _).mpr (contains_iff_mem.mp hnm)

theorem suspend_writes : Moves (KubeWrites cluster b.deploymentID) (suspend b m i) := by
  refine Moves.bind_of_ok Moves.ofExcept fun _ k k' h => ?_
  have hof := of_of_validatePruneIdentity (wrap_eq_ok.mp (ofExcept_ok.mp h).1)
  refine Server.call_moves (fun os => ?_) k'
  refine Writes.edit hof ?_ ?_ <;> exact fun _ => rfl

theorem beginDeletion_writes {t : Deletion} {recorded : List ObjectIdentity} :
    Moves (KubeWrites cluster b.deploymentID) (beginDeletion cluster b t m recorded) :=
  beginDeletion_moves (fun _ _ => suspend_writes) fun _ _ _ hv _ _ =>
    deletePresent_moves (fun _ => Writes.refl)
      (deleteObject_writes (of_of_validatePruneIdentity hv))

/-! ## Successful calls -/

section Successful

variable {k k' : Kube}

theorem applyObject_eq_ok (h : applyObject cluster x k = (.ok u, k')) :
    k'.objects = Server.put x.1 x.2 k.objects := by
  obtain ⟨_, k1, hr, hc⟩ := bind_ok.mp h
  obtain ⟨-, rfl⟩ := require_ok.mp hr
  obtain ⟨hok, ho⟩ := Server.call_eq_ok hc
  split at hok
  · rwa [if_pos ‹_›] at ho
  · cases hok

theorem apply_eq_ok (h : apply cluster m k = (.ok u, k')) :
    k'.objects = Server.putAll m.objects k.objects := by
  obtain ⟨_, k1, hr, he⟩ := bind_ok.mp h
  obtain ⟨-, rfl⟩ := require_ok.mp hr
  exact each_ok Server.objects (fun x _ s s' u hx => applyObject_eq_ok hx) he

theorem prune_eq_ok (h : prune cluster ids k = (.ok u, k')) :
    k'.objects = Server.dropAll cluster.finalized ids k.objects :=
  each_ok Server.objects (fun _ _ _ _ _ hi => (Server.call_eq_ok hi).2) h

theorem listObjects_eq_ok {target page} (h : listObjects cluster d target k = (.ok page, k')) :
    k'.objects = k.objects ∧
      (cluster.served target.1 → page = selected d target k.objects) := by
  obtain ⟨_, k1, hc, h⟩ := bind_ok.mp h
  obtain ⟨hok, ho⟩ := Server.call_eq_ok hc
  obtain ⟨_, k2, hr, h⟩ := bind_ok.mp h
  obtain ⟨-, rfl⟩ := require_ok.mp hr
  obtain ⟨rfl, rfl⟩ := pure_ok.mp h
  refine ⟨ho, fun hsr => ?_⟩
  rw [if_pos hsr] at hok
  exact (Except.ok.inj hok).symm

theorem listAll_eq_ok {targets xs} (h : listAll cluster d targets k = (.ok xs, k')) :
    k'.objects = k.objects ∧ ∀ target ∈ targets, ∀ o ∈ k.objects, o.id.kind = target.1 →
        (!target.1.namespaced || o.id.namespaceName == target.2) →
        cluster.served o.id.kind → o.content.managedFor d →
        (o.id, o.content) ∈ xs := by
  induction targets generalizing k xs with
  | nil =>
    obtain ⟨-, rfl⟩ := pure_ok.mp h
    exact ⟨rfl, nofun⟩
  | cons target targets ih =>
    obtain ⟨page, k1, hp, h⟩ := bind_ok.mp h
    obtain ⟨rest, k2, hrest, h⟩ := bind_ok.mp h
    obtain ⟨rfl, rfl⟩ := pure_ok.mp h
    obtain ⟨hs, hp⟩ := listObjects_eq_ok hp
    obtain ⟨hs', hrest⟩ := ih hrest
    refine ⟨hs'.trans hs, fun t ht o ho hk hns hsr hm => ?_⟩
    rcases mem_cons.mp ht with rfl | ht
    · rw [hp (hk ▸ hsr)]
      refine mem_append_left _ (mem_map_of_mem (mem_filter.mpr ⟨ho, ?_⟩))
      simp only [hk, decide_true, hns, hm, Bool.and_self]
    · exact mem_append_right _ (hrest t ht o (hs ▸ ho) hk hns hsr hm)

end Successful

/-! ## The loop bodies of `processSnapshot` -/

def RuntimeWrites (cluster : Cluster) (d : String) (r r' : Runtime) : Prop :=
  KubeWrites cluster d r.kube r'.kube

instance : IsPreorder Runtime (RuntimeWrites cluster d) :=
  inferInstanceAs (IsPreorder Runtime (Order.Preimage Runtime.kube (KubeWrites cluster d)))

variable {cfg : Config} {now : Delivery.Time}

theorem staleCandidate_eq_ok {c isStale} (h : staleCandidate a m c = .ok isStale) :
    (isStale ↔ c.2.managedFor a.deploymentID ∧ ∀ x ∈ m.objects, x.1 ≠ c.1) ∧
      (isStale → validatePruneIdentity a.boundary m c.1 = .ok ()) := by
  unfold staleCandidate at h
  cases hm : c.2.managedFor a.deploymentID with
  | false =>
    simp only [hm, Bool.not_false, if_true, pure_eq_ok] at h
    simp [← h]
  | true =>
    simp only [hm, Bool.not_true, Bool.false_eq_true, if_false, bind_eq_ok] at h
    obtain ⟨_, -, h⟩ := h
    cases he : m.objects.any fun o => decide (o.1 = c.1) with
    | true =>
      simp only [he, if_true, pure_eq_ok] at h
      obtain ⟨x, hx, hxc⟩ := any_eq_true.mp he
      subst h
      exact ⟨iff_of_false (by simp) fun hf => hf.2 x hx (of_decide_eq_true hxc), by simp⟩
    | false =>
      simp only [he, Bool.false_eq_true, if_false, bind_eq_ok, pure_eq_ok] at h
      obtain ⟨_, hv, rfl⟩ := h
      rw [any_eq_false] at he
      exact ⟨⟨fun _ => ⟨rfl, fun x hx heq => he x hx (decide_eq_true heq)⟩, fun _ => rfl⟩,
        fun _ => hv⟩

theorem mem_of_planPrune {xs : List Object} {stale : List ObjectIdentity}
    (h : planPrune a m xs = .ok stale) :
    (∀ i ∈ stale, i.Of a.deploymentID ∧ ∀ x ∈ m.objects, x.1 ≠ i) ∧
      ∀ c ∈ xs, c.2.managedFor a.deploymentID → (∀ x ∈ m.objects, x.1 ≠ c.1) →
        c.1 ∈ stale := by
  simp only [planPrune, bind_eq_ok, pure_eq_ok] at h
  obtain ⟨ids, hfl, rfl⟩ := h
  obtain ⟨ha, hmem⟩ := foldlM_collect hfl
  constructor
  · intro i hi
    rw [mem_sortDeleteOrder, hmem] at hi
    obtain ⟨c, -, hs, rfl⟩ := hi.resolve_left not_mem_nil
    obtain ⟨hif, hv⟩ := staleCandidate_eq_ok hs
    have hof := of_of_validatePruneIdentity (hv rfl)
    exact ⟨hof, (hif.mp rfl).2⟩
  · intro c hc hm hf
    obtain ⟨isStale, hs⟩ := ha c hc
    obtain rfl := (staleCandidate_eq_ok hs).1.mpr ⟨hm, hf⟩
    rw [mem_sortDeleteOrder, hmem]
    exact .inr ⟨c, hc, hs, rfl⟩

theorem processAssignment_writes (hm : ∀ x ∈ m.objects, Object.For a.deploymentID x) :
    Moves (RuntimeWrites cfg.cluster a.deploymentID) (processAssignment cfg now a m) :=
  processAssignment_moves (apply_moves fun x hx => applyObject_writes (hm x hx))
    (listAll_moves fun _ => Writes.refl)
    fun _ _ hp => Moves.each fun i hi => deleteObject_writes ((mem_of_planPrune hp).1 i hi).1

theorem processDeletion_writes {t : Deletion} :
    Moves (RuntimeWrites cfg.cluster t.deploymentID) (processDeletion cfg now t) :=
  processDeletion_moves fun x hx => hx ▸ beginDeletion_writes (b := x.boundary)

end Astronomer.Agent
