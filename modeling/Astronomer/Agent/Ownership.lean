import Astronomer.Agent.Writes

/-!
# Which objects belong to which deployment

The objects of a materialization are the deployment's own, and the work for one deployment
leaves the objects of every other alone. Then the shape of a whole snapshot.
-/

namespace Astronomer.Agent

open List Effect

variable {cluster : Cluster} {d d' : String} {os os' : Objects} {o : Stored ObjectIdentity Content}
  {x : Object} {a : Assignment} {m : Materialization} {p : Parsers} {capabilities : Capabilities}
  {policy : ValidationPolicy}

/-! ## The objects of a materialization -/

theorem managedObject_for {kind namespaceName name body} (hk : kind ≠ .namespaceKind)
    (hnm : name ∈ a.names.ofDeployment) :
    Object.For a.deploymentID (managedObject a kind namespaceName name body) := by
  refine .inr ⟨hk, (ObjectIdentity.of_iff _).mpr hnm, ?_⟩
  simp [Content.managedFor, managedObject]

theorem isSource_sourceResource {kind} : (sourceResource kind).isSource := by
  cases kind <;> rfl

theorem reconcilerObject_identity {reconciler} (h : reconcilerObject p a = .ok reconciler) :
    ∃ kind, kind.isReconciler ∧
      reconciler.1 = ⟨kind, a.names.controlNamespace, a.names.base⟩ ∧
      Object.For a.deploymentID reconciler := by
  have hnm : a.names.base ∈ a.names.ofDeployment := by simp [ObjectNames.ofDeployment]
  unfold reconcilerObject at h
  split at h
  · simp only [bind_eq_ok, pure_eq_ok] at h
    obtain ⟨config, -, rfl⟩ := h
    exact ⟨.kustomization, rfl, rfl, managedObject_for (by decide) hnm⟩
  · simp only [bind_eq_ok, pure_eq_ok] at h
    obtain ⟨config, -, values, -, rfl⟩ := h
    exact ⟨.helmRelease, rfl, rfl, managedObject_for (by decide) hnm⟩

theorem buildAssignment_eq_ok (h : buildAssignment p capabilities policy a = .ok m) :
    validateAssignment p capabilities policy a = .ok () ∧
      m.controlNamespace = a.names.controlNamespace ∧ m.targetNamespace = a.targetNamespace ∧
      ∃ auth trust reconciler, reconcilerObject p a = .ok reconciler ∧
        m.objects = [projectNamespace a] ++ secretFor a a.names.authSecret auth ++
          secretFor a a.names.trustSecret trust ++ [serviceAccountObject a] ++ scopeObjects a ++
          [sourceObject a, reconciler] := by
  simp only [buildAssignment, bind_eq_ok, pure_eq_ok] at h
  obtain ⟨_, hv, ⟨auth, trust⟩, -, reconciler, hr, rfl⟩ := h
  exact ⟨hv, rfl, rfl, _, trust, reconciler, hr, rfl⟩

theorem secretFor_sublist {name data} :
    (secretFor a name data).Sublist [secretObject a name data] := by
  unfold secretFor
  split
  · exact nil_sublist _
  · exact List.Sublist.refl _

theorem scopeObjects_sublist : (scopeObjects a).Sublist
      [namespaceRoleObject a, namespaceRoleBindingObject a, platformRoleBindingObject a] := by
  unfold scopeObjects
  cases a.scope with
  | namespaced | platform => simp

theorem objects_sublist (h : buildAssignment p capabilities policy a = .ok m) :
    ∃ auth trust reconciler, reconcilerObject p a = .ok reconciler ∧ m.objects.Sublist
        [projectNamespace a, secretObject a a.names.authSecret auth,
          secretObject a a.names.trustSecret trust, serviceAccountObject a, namespaceRoleObject a,
          namespaceRoleBindingObject a, platformRoleBindingObject a, sourceObject a,
          reconciler] := by
  obtain ⟨-, -, -, auth, trust, reconciler, hr, ho⟩ := buildAssignment_eq_ok h
  refine ⟨auth, trust, reconciler, hr, ?_⟩
  rw [ho]
  exact (((((List.Sublist.refl [projectNamespace a]).append secretFor_sublist).append
    secretFor_sublist).append (List.Sublist.refl [serviceAccountObject a])).append
      scopeObjects_sublist).append (List.Sublist.refl [sourceObject a, reconciler])

theorem objects_for (h : buildAssignment p capabilities policy a = .ok m) :
    ∀ x ∈ m.objects, Object.For a.deploymentID x := by
  obtain ⟨auth, trust, reconciler, hr, hs⟩ := objects_sublist h
  obtain ⟨kind, -, -, hrc⟩ := reconcilerObject_identity hr
  have hsr : sourceResource a.source.kind ≠ .namespaceKind := by
    cases a.source.kind <;> decide
  intro x hx
  have hx := hs.subset hx
  simp only [mem_cons, not_mem_nil, or_false] at hx
  rcases hx with rfl | rfl | rfl | rfl | rfl | rfl | rfl | rfl | rfl
  · exact .inl ⟨rfl, rfl⟩
  iterate 6 exact managedObject_for (by decide) (by simp [ObjectNames.ofDeployment])
  · exact managedObject_for hsr (by simp [ObjectNames.ofDeployment])
  · exact hrc

theorem objects_nodup (h : buildAssignment p capabilities policy a = .ok m) :
    (m.objects.map Prod.fst).Nodup := by
  obtain ⟨auth, trust, reconciler, hr, hsb⟩ := objects_sublist h
  obtain ⟨kind, hk, hid, -⟩ := reconcilerObject_identity hr
  have hsc : a.names.authSecret ≠ a.names.trustSecret := by
    have hnd : a.names.ofDeployment.Nodup := nodup_ofDeployment
    simp only [ObjectNames.ofDeployment, nodup_cons, mem_cons, not_or] at hnd
    exact hnd.2.1.1
  refine (hsb.map Prod.fst).nodup ?_
  have hsr : (sourceResource a.source.kind).isSource := isSource_sourceResource
  simp only [projectNamespace, secretObject, serviceAccountObject, namespaceRoleObject,
    namespaceRoleBindingObject, platformRoleBindingObject, sourceObject, managedObject, hid,
    map_cons, map_nil]
  cases hs : sourceResource a.source.kind <;> simp [hs, ResourceKind.isSource] at hsr <;>
    cases kind <;> simp [ResourceKind.isReconciler] at hk <;> simp [hsc]

/-! ## The objects of a deployment on the cluster -/

def Owned (cluster : Cluster) (os : Objects) : Prop :=
  ∀ o ∈ os, ∀ d, validUUID d → o.content.managedFor d →
    o.id.kind ≠ .namespaceKind ∧ o.id.Of d ∧ cluster.served o.id.kind

def SameFor (d : String) (os os' : Objects) : Prop :=
  ∀ o : Stored ObjectIdentity Content, o.content.managedFor d → (o ∈ os' ↔ o ∈ os)

theorem Object.For.managed (h : Object.For d' x) (hd : validUUID d)
    (hx : x.2.managedFor d) : x.1.kind ≠ .namespaceKind ∧ x.1.Of d := by
  simp only [Content.managedFor, Bool.and_eq_true, beq_iff_eq] at hx
  rcases h with ⟨-, hl⟩ | ⟨hk, hof, hm⟩
  · obtain rfl := hx.2.symm.trans hl
    exact absurd hd (by decide)
  · simp only [Content.managedFor, Bool.and_eq_true, beq_iff_eq] at hm
    exact ⟨hk, hm.2.symm.trans hx.2 ▸ hof⟩

theorem Owned.of_writes (h : Owned cluster os) (hw : Writes cluster d' os os') :
    Owned cluster os' := by
  intro o ho d hd hm
  rcases hw.inside o ho with ⟨o0, ho0, hid, hl⟩ | ⟨hsr, hf⟩
  · rw [← Content.managedFor_of_labels hl] at hm
    exact hid ▸ h o0 ho0 d hd hm
  · obtain ⟨hk, hof⟩ := hf.managed hd hm
    exact ⟨hk, hof, hsr⟩

theorem Owned.sameFor (h : Owned cluster os) (hw : Writes cluster d' os os')
    (hd : validUUID d) (hd' : validUUID d') (hne : d ≠ d') : SameFor d os os' := by
  -- a name of `d` is no name of `d'`
  have hot : ∀ o : Stored ObjectIdentity Content,
      o.id.kind ≠ .namespaceKind ∧ o.id.Of d ∧ cluster.served o.id.kind →
        (o ∈ os' ↔ o ∈ os) :=
    fun o ⟨hk, hof, _⟩ => hw.outside o hk fun hof' => hne (hof.eq hof' hd hd')
  intro o hm
  constructor
  · exact fun ho => (hot o (h.of_writes hw o ho d hd hm)).mp ho
  · exact fun ho => (hot o (h o ho d hd hm)).mpr ho

/-! ## One assignment, and the loops -/

variable {cfg : Config} {now : Delivery.Time} {r r' : Runtime}

def KeepsFor (cluster : Cluster) (d : String) (r r' : Runtime) : Prop :=
  Owned cluster r.kube.objects →
    Owned cluster r'.kube.objects ∧ SameFor d r.kube.objects r'.kube.objects

instance : IsPreorder Runtime (KeepsFor cluster d) where
  refl _ h := ⟨h, fun _ _ => Iff.rfl⟩
  trans _ _ _ h h' how := by
    obtain ⟨how2, hs⟩ := h how
    obtain ⟨how3, hs'⟩ := h' how2
    exact ⟨how3, fun o ho => (hs' o ho).trans (hs o ho)⟩

theorem RuntimeWrites.keepsFor (hd : validUUID d) (hd' : validUUID d')
    (hne : d ≠ d') (h : RuntimeWrites cluster d' r r') : KeepsFor cluster d r r' :=
  fun how => ⟨how.of_writes h, how.sameFor h hd hd' hne⟩

/-! ## A whole snapshot -/

section Snapshots

variable {s : Snapshot}

theorem validate_of_validateSnapshot (h : validateSnapshot p capabilities policy s = .ok ()) :
    s.validate p = .ok () := by
  simp only [validateSnapshot, bind_eq_ok, wrap_eq_ok] at h
  obtain ⟨_, h, -⟩ := h
  exact h

theorem materializations_eq_ok {pairs : List (Assignment × Materialization)}
    (h : materializations cfg capabilities s = .ok pairs) :
    pairs.map Prod.fst = s.assignments ∧
      ∀ q ∈ pairs, buildAssignment cfg.parsers capabilities cfg.policy q.1 = .ok q.2 := by
  unfold materializations at h
  generalize s.assignments = assignments at h ⊢
  induction assignments generalizing pairs with
  | nil =>
    cases h
    exact ⟨rfl, fun _ hq => nomatch hq⟩
  | cons a assignments ih =>
    simp only [mapM_cons, bind_eq_ok, pure_eq_ok, wrap_eq_ok, map_eq_ok] at h
    obtain ⟨_, ⟨m, hb, rfl⟩, rest, hrest, rfl⟩ := h
    obtain ⟨hm, ha⟩ := ih hrest
    exact ⟨by rw [map_cons, hm], forall_mem_cons.mpr ⟨hb, ha⟩⟩

theorem kube_save {c} : (save c r).2.kube = r.kube := by
  unfold save
  split
  · rfl
  · split <;> rfl

theorem finishSnapshot_kube {complete} : (finishSnapshot s complete r).2.kube = r.kube := by
  have hm : Moves (Order.Preimage Runtime.kube Eq) (finishSnapshot s complete) := by
    refine Moves.bind (fun _ => rfl) fun _ => ?_
    refine Moves.bind (fun _ => rfl) fun _ => ?_
    refine Moves.bind (fun _ => kube_save.symm) fun _ => ?_
    exact Moves.bind (fun _ => rfl) fun _ => Moves.require
  exact (hm r).symm

theorem finishSnapshot_moves {R : Kube → Kube → Prop} [IsPreorder Kube R] {complete} :
    Moves (Order.Preimage Runtime.kube R) (finishSnapshot s complete) := by
  intro r
  show R r.kube (finishSnapshot s complete r).2.kube
  rw [finishSnapshot_kube]
  exact refl _

end Snapshots

end Astronomer.Agent
