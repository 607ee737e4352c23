import Astronomer.Agent.Outcomes

/-!
# What an assignment leaves behind

The agent lists what a deployment already has by the NEW assignment: only its two
namespaces, and ClusterRoleBindings only if the new scope is platform. What the old
assignment had outside those bounds is not pruned.
-/

namespace Astronomer.Agent

open List Effect

section

variable {cluster : Cluster} {d : String} {i : ObjectIdentity} {os os' : Objects}
  {o : Stored ObjectIdentity Content} {x : Object} {a : Assignment} {m : Materialization}
  {p : Parsers} {capabilities : Capabilities} {policy : ValidationPolicy}

/-- The objects with the labels of the deployment that are not on their way out are
exactly the non-Namespace objects of the materialization, and these are all there. -/
structure Exact (d : String) (m : Materialization) (os : Objects) : Prop where
  only : ∀ o ∈ os, o.content.managedFor d → o.deleting = false →
    (o.id, o.content) ∈ m.objects ∧ o.id.kind ≠ .namespaceKind
  all : ∀ x ∈ m.objects, x.1.kind ≠ .namespaceKind → ∃ o ∈ os, o.id = x.1 ∧ o.content = x.2

/-- The identity stands where an object of the assignment of its kind would stand: a
ClusterRoleBinding under platform scope, RBAC in the target namespace, everything
else in the project's control namespace. -/
def Assignment.covers (a : Assignment) (i : ObjectIdentity) : Bool :=
  match i.kind with
  | .clusterRoleBinding => a.scope == .platform
  | .role | .roleBinding => i.namespaceName == a.targetNamespace
  | _ => i.namespaceName == a.names.controlNamespace

def Covered (a : Assignment) (os : Objects) : Prop :=
  ∀ o ∈ os, o.content.managedFor a.deploymentID → o.deleting = false →
    a.covers o.id
deriving Decidable

theorem covers_of_mem_objects (h : buildAssignment p capabilities policy a = .ok m)
    (hx : x ∈ m.objects) (hk : x.1.kind ≠ .namespaceKind) : a.covers x.1 := by
  obtain ⟨-, -, -, auth, trust, reconciler, hr, ho⟩ := buildAssignment_eq_ok h
  obtain ⟨kind, hrc, hid, -⟩ := reconcilerObject_identity hr
  have hs : ∀ name data, x ∈ secretFor a name data → a.covers x.1 := by
    intro name data hx
    obtain rfl := mem_singleton.mp (secretFor_sublist.subset hx)
    exact beq_self_eq_true _
  rw [ho] at hx
  simp only [mem_append, mem_cons, not_mem_nil, or_false] at hx
  rcases hx with ((((rfl | hx) | hx) | rfl) | hx) | rfl | rfl
  · exact absurd rfl hk
  · exact hs _ _ hx
  · exact hs _ _ hx
  · exact beq_self_eq_true _
  · unfold scopeObjects at hx
    cases hsc : a.scope with
    | namespaced =>
      simp only [hsc, mem_cons, not_mem_nil, or_false] at hx
      rcases hx with rfl | rfl
      · exact beq_self_eq_true _
      · exact beq_self_eq_true _
    | platform =>
      simp only [hsc, mem_singleton] at hx
      subst hx
      exact beq_iff_eq.mpr hsc
  · cases hsr : a.source.kind <;>
      simp [Assignment.covers, sourceObject, managedObject, sourceResource, hsr]
  · rw [hid]
    cases kind with
    | kustomization | helmRelease => exact beq_self_eq_true _
    | _ => cases hrc

theorem Exact.covered (h : Exact a.deploymentID m os)
    (hb : buildAssignment p capabilities policy a = .ok m) : Covered a os := by
  intro o ho hm hl
  obtain ⟨hmem, hk⟩ := h.only o ho hm hl
  exact covers_of_mem_objects hb hmem hk

theorem SameFor.covered (h : SameFor a.deploymentID os os') (hc : Covered a os) : Covered a os' :=
  fun o ho hm hl => hc o ((h o hm).mp ho) hm hl

theorem SameFor.exact (h : SameFor d os os') (hf : ∀ x ∈ m.objects, Object.For d x)
    (he : Exact d m os) : Exact d m os' := by
  refine ⟨fun o ho hm => he.only o ((h o hm).mp ho) hm, fun x hx hk => ?_⟩
  obtain ⟨o, ho, hid, hc⟩ := he.all x hx hk
  rcases hf x hx with ⟨hns, -⟩ | ⟨-, -, hm⟩
  · exact absurd hns hk
  · exact ⟨o, (h o (hc ▸ hm)).mpr ho, hid, hc⟩

/-! ## One assignment -/

theorem mem_listTargets (hc : m.controlNamespace = a.names.controlNamespace)
    (htg : m.targetNamespace = a.targetNamespace) (hk : i.kind ≠ .namespaceKind)
    (hcv : a.covers i) :
    ∃ target ∈ listTargets a.scope m, i.kind = target.1 ∧
      (!target.1.namespaced || i.namespaceName == target.2) := by
  obtain ⟨kind, ns, name⟩ := i
  simp only [listTargets, hc, htg]
  cases kind <;> simp_all [Assignment.covers, ResourceKind.namespaced]

variable {cfg : Config} {now : Delivery.Time} {r r' : Runtime}

theorem processAssignment_exact (hb : buildAssignment p capabilities policy a = .ok m)
    (hd : validUUID a.deploymentID) (how : Owned cfg.cluster r.kube.objects)
    (hcv : Covered a r.kube.objects)
    (h : processAssignment cfg now a m r = (.ok true, r')) :
    Exact a.deploymentID m r'.kube.objects := by
  obtain _ | _ | @⟨k1, k2, k3, xs, stale, -, ha, hls, hp, hpr⟩ := AssignmentOutcome.of_eq h
  obtain ⟨-, hcn, htg, -⟩ := buildAssignment_eq_ok hb
  obtain ⟨hu, hst⟩ := mem_of_planPrune hp
  obtain ⟨hs, hli⟩ := listAll_eq_ok hls
  show Exact a.deploymentID m k3.objects
  rw [prune_eq_ok hpr, hs, apply_eq_ok ha]
  refine ⟨fun o ho hm hl => ?_, fun x hx hk => ?_⟩
  · have hnot := Server.notMem_of_mem_dropAll ho fun _ => hl
    have hpt := (Server.mem_dropAll_of_notMem hnot).mp ho
    by_cases he : o.id ∈ m.objects.map Prod.fst
    · have hmem := Server.content_of_mem_putAll (objects_nodup hb) hpt he
      exact ⟨hmem, ((objects_for hb _ hmem).managed hd hm).1⟩
    · -- it was there before, so it was listed and would have been pruned
      exfalso
      have hf : ∀ x ∈ m.objects, x.1 ≠ o.id := fun x hx heq => he (heq ▸ mem_map_of_mem hx)
      have hold := (Server.mem_putAll_of_ne fun x hx heq => hf x hx heq.symm).mp hpt
      obtain ⟨hk, -, hsr⟩ := how o hold a.deploymentID hd hm
      obtain ⟨target, ht, heq, hns⟩ := mem_listTargets hcn htg hk (hcv o hold hm hl)
      have hk1 : o ∈ k1.objects := apply_eq_ok ha ▸ hpt
      exact hnot (hst _ (hli target ht o hk1 heq hns hsr hm) hm hf)
  · obtain ⟨o, ho, hid, hc⟩ : ∃ o ∈ Server.putAll m.objects r.kube.objects,
        o.id = x.1 ∧ o.content = x.2 := Server.exists_mem_putAll (objects_nodup hb) hx
    refine ⟨o, (Server.mem_dropAll_of_notMem fun hmem => ?_).mpr ho, hid, hc⟩
    exact (hu _ hmem).2 x hx hid.symm

/-! ## A snapshot -/

section Loops

variable {pairs : List (Assignment × Materialization)}

theorem processAssignments_exact
    (hb : ∀ q ∈ pairs, buildAssignment p capabilities policy q.1 = .ok q.2)
    (hv : ∀ q ∈ pairs, validUUID q.1.deploymentID)
    (hnd : (pairs.map fun q => q.1.deploymentID).Nodup)
    (how : Owned cfg.cluster r.kube.objects)
    (hc : ∀ q ∈ pairs, Covered q.1 r.kube.objects)
    (h : processAssignments cfg now pairs r = (.ok true, r')) :
    Owned cfg.cluster r'.kube.objects ∧
      ∀ q ∈ pairs, Exact q.1.deploymentID q.2 r'.kube.objects := by
  induction pairs generalizing r with
  | nil =>
    obtain ⟨-, rfl⟩ := pure_ok.mp h
    exact ⟨how, fun _ hq => nomatch hq⟩
  | cons q pairs ih =>
    obtain ⟨a, m⟩ := q
    simp only [forall_mem_cons, map_cons, nodup_cons] at hb hv hnd hc
    obtain ⟨r1, ho, hrest⟩ := bind_and_ok h
    have hf := objects_for hb.1
    have hwr := (processAssignment_writes hf).of_eq ho
    have hne : ∀ q ∈ pairs, q.1.deploymentID ≠ a.deploymentID :=
      fun q hq heq => hnd.1 (heq ▸ mem_map_of_mem hq)
    have hc1 : ∀ q ∈ pairs, Covered q.1 r1.kube.objects := fun q hq =>
      (how.sameFor hwr (hv.2 q hq) hv.1 (hne q hq)).covered (hc.2 q hq)
    obtain ⟨how2, he⟩ := ih hb.2 hv.2 hnd.2 (how.of_writes hwr) hc1 hrest
    refine ⟨how2, forall_mem_cons.mpr ⟨?_, he⟩⟩
    -- the rest of the loop works for other deployments
    have hk : KeepsFor cfg.cluster a.deploymentID r1 r' :=
      (processAssignments_moves fun q hq r => (processAssignment_writes
        (objects_for (hb.2 q hq)) r).keepsFor hv.1 (hv.2 q hq) (hne q hq).symm).of_eq hrest
    exact (hk (how.of_writes hwr)).2.exact hf (processAssignment_exact hb.1 hv.1 how hc.1 ho)

end Loops

section Snapshots

variable {s : Snapshot}

theorem processSnapshot_exact (how : Owned cfg.cluster r.kube.objects)
    (hc : ∀ a ∈ s.assignments, Covered a r.kube.objects)
    (h : processSnapshot cfg now s capabilities r = (.ok (), r')) :
    ∀ a ∈ s.assignments, ∃ m, buildAssignment cfg.parsers capabilities cfg.policy a = .ok m ∧
      Exact a.deploymentID m r'.kube.objects := by
  have hsnd := congrArg Prod.snd h
  have hr : processSnapshotBody cfg now s capabilities r = (.ok (), r') :=
    Prod.ext (processSnapshotBody_of_ok (congrArg Prod.fst h)) hsnd
  obtain ⟨y, hs, hm⟩ | ⟨pairs, hrc⟩ := processSnapshotBody_cases cfg now s capabilities r
  · obtain ⟨hm, hv⟩ := hm (congrArg Prod.fst (hs.symm.trans hr))
    rw [Snapshot.assignments_of_notModified (validate_of_validateSnapshot hv) hm]
    exact fun _ ha => nomatch ha
  · obtain ⟨hf, hb⟩ := materializations_eq_ok hrc.graphs
    obtain ⟨hnd, hi, hd⟩ := Snapshot.ids_of_validate (validate_of_validateSnapshot hrc.valid)
    rw [← hf] at hc hi hnd ⊢
    rw [hrc.body] at hr
    obtain ⟨complete, r2, hl, hfn⟩ := bind_ok.mp hr
    have hkb : r2.kube = r'.kube := (finishSnapshot_moves (R := Eq)).of_eq hfn
    obtain rfl : complete = true := by
      have ho := finishSnapshot_outcome s complete r2
      rw [hfn] at ho
      cases ho with
      | saved hx _ => exact hx.mp rfl
    obtain ⟨r1, hap, hdl⟩ := bind_and_ok hl
    have hv : ∀ q ∈ pairs, validUUID q.1.deploymentID :=
      fun q hq => hi q.1 (mem_map_of_mem hq)
    rw [map_map, nodup_append] at hnd
    obtain ⟨how1, he⟩ := processAssignments_exact hb hv hnd.1 how
      (fun q hq => hc q.1 (mem_map_of_mem hq)) hap
    intro a ha
    obtain ⟨q, hq, rfl⟩ := mem_map.mp ha
    refine ⟨q.2, hb q hq, ?_⟩
    -- the tombstones of the snapshot are those of other deployments
    have hk : KeepsFor cfg.cluster q.1.deploymentID r1 r2 :=
      (processDeletions_moves fun t ht r => (processDeletion_writes r).keepsFor (hv q hq)
        (hd t ht) (hnd.2.2 _ (mem_map_of_mem hq) _ (mem_map_of_mem ht))).of_eq hdl
    rw [← hkb]
    exact (hk how1).2.exact (objects_for (hb q hq)) (he q hq)

end Snapshots

/-! ## Runs of the agent -/

def Runtime.Fresh (r : Runtime) : Prop :=
  ∀ o ∈ r.kube.objects, ∀ d, validUUID d → o.content.managedFor d = false

/-- A snapshot that `processSnapshot` answers with nil leaves, for each of its
assignments, exactly the assignment's objects. -/
def NoLeftovers (cfg : Config) (r : Runtime) : Event → Prop
  | .snapshot now s capabilities faults saves =>
    (processSnapshot cfg now s capabilities (r.facing faults saves)).1 = .ok () →
      ∀ a ∈ s.assignments, ∃ m, buildAssignment cfg.parsers capabilities cfg.policy a = .ok m ∧
        Exact a.deploymentID m
          (r.step cfg (.snapshot now s capabilities faults saves)).kube.objects
  | _ => True

def CoversInstalled (r : Runtime) : Event → Prop
  | .snapshot _ s _ _ _ => ∀ a ∈ s.assignments, Covered a r.kube.objects
  | _ => True

instance : ∀ (r : Runtime) (e : Event), Decidable (CoversInstalled r e)
  | r, .snapshot _ s _ _ _ =>
      inferInstanceAs (Decidable (∀ a ∈ s.assignments, Covered a r.kube.objects))
  | _, .finalize _ | _, .restart => inferInstanceAs (Decidable True)

theorem Runtime.Fresh.owned (h : r.Fresh) : Owned cluster r.kube.objects := by
  intro o ho d hd hm
  rw [h o ho d hd] at hm
  cases hm

theorem Owned.step {e} (h : Owned cfg.cluster r.kube.objects) :
    Owned cfg.cluster (r.step cfg e).kube.objects := by
  cases e with
  | snapshot now s capabilities faults saves => exact processSnapshot_owned h
  | finalize id => exact fun o ho => h o (mem_of_mem_filter ho)
  | restart => exact h

theorem Owned.noLeftovers {e} (h : Owned cfg.cluster r.kube.objects) (hcv : CoversInstalled r e)
    : NoLeftovers cfg r e := by
  cases e with
  | snapshot now s capabilities faults saves =>
    intro hok
    have how : Owned cfg.cluster (r.facing faults saves).kube.objects := h
    exact processSnapshot_exact how hcv (Prod.ext hok rfl)
  | finalize | restart => trivial

/-- **No privilege survives an assignment change** in a run of the agent, with any calls
failing, whose snapshots give each deployment assignments that cover what it has on
the cluster: they keep platform scope while it has a ClusterRoleBinding, and its
target namespace while it has a Role or RoleBinding there. -/
theorem no_leftovers_of_covered {es : List Event} (hfresh : r.Fresh)
    (hcovers : RunMeets (Runtime.step cfg) CoversInstalled r es) :
    RunMeets (Runtime.step cfg) (NoLeftovers cfg) r es :=
  RunMeets.of_invariant (P := fun r => Owned cfg.cluster r.kube.objects)
    (fun _ _ h _ => h.step) (fun _ _ h hcovers => h.noLeftovers hcovers) hcovers hfresh.owned

end

/-! ## Two runs of one deployment -/

namespace OneDeployment

def updatingRun : List Event :=
  [snapshot 1 (assignment 1 .namespaced "team-a"), snapshot 2 (assignment 2 .namespaced "team-a")]

def narrowingRun : List Event :=
  [snapshot 1 (assignment 1 .platform "team-a"), snapshot 2 (assignment 2 .namespaced "team-a")]

theorem updatingRun_covers :
    (run (Runtime.step cfg) fresh updatingRun).checkpoint.snapshotGeneration = 2 ∧
      RunMeets (Runtime.step cfg) CoversInstalled fresh updatingRun := by
  decide +kernel

theorem narrowingRun_answer :
    (processSnapshot cfg 0 (snapshotOf 2 (assignment 2 .namespaced "team-a")) capabilities
        ((fresh.step cfg (snapshot 1 (assignment 1 .platform "team-a"))).facing [] [])).1 = .ok () ∧
      ∃ o ∈ (run (Runtime.step cfg) fresh narrowingRun).kube.objects,
        o.id.kind = .clusterRoleBinding ∧ o.content.managedFor deploymentID ∧
          o.deleting = false := by
  decide +kernel

end OneDeployment

open OneDeployment in
/-- A new generation of the same scope leaves exactly its own objects. -/
theorem updatingRun_noLeftovers :
    (run (Runtime.step cfg) fresh updatingRun).checkpoint.snapshotGeneration = 2 ∧
      RunMeets (Runtime.step cfg) (NoLeftovers cfg) fresh updatingRun :=
  ⟨updatingRun_covers.1, no_leftovers_of_covered (fun _ h => nomatch h) updatingRun_covers.2⟩

open OneDeployment in
/-- From platform scope to namespace scope: `processSnapshot` returns nil and the
ClusterRoleBinding of the deployment's service account stays. -/
theorem narrowingRun_keeps_clusterRoleBinding :
    (∃ o ∈ (run (Runtime.step cfg) fresh narrowingRun).kube.objects,
        o.id.kind = .clusterRoleBinding ∧ o.content.managedFor deploymentID ∧
          o.deleting = false) ∧
      ¬ RunMeets (Runtime.step cfg) (NoLeftovers cfg) fresh narrowingRun := by
  obtain ⟨hok, o, ho, hk, hm, hl⟩ := narrowingRun_answer
  refine ⟨⟨o, ho, hk, hm, hl⟩, fun hmt => ?_⟩
  obtain ⟨m, hb, he⟩ := hmt.2.1 hok _ mem_cons_self
  have hc := he.covered hb
  simp only [narrowingRun, run_cons, run_nil, snapshot] at ho hc
  have hcv := hc o ho hm hl
  rw [Assignment.covers, hk] at hcv
  cases hcv

end Astronomer.Agent
