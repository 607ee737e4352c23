import Astronomer.Agent.Refusal

/-!
# When a deployment is reported as removed

A tombstone ends as `removed` when nothing is accepted for its deployment, or when all the
objects RECORDED for it are gone. So the report is true exactly when the record was complete.
-/

namespace Astronomer.Agent

open List Effect
open Delivery (Time)

section

variable {cfg : Config} {cluster : Cluster} {now : Time} {m : Materialization} {t : Deletion}
  {s : Snapshot} {capabilities : Capabilities} {r r' r2 : Runtime}
  {pairs : List (Assignment × Materialization)} {deletions : List Deletion} {k k' : Kube}
  {d d' : String} {b : Boundary} {i : ObjectIdentity} {os : Objects}
  {o : Stored ObjectIdentity Content}

/-! ## The work for other deployments -/

/-- The deployment's own objects: everything under its names, in whatever namespace, but
the shared Namespace of its project. -/
def ObjectIdentity.Own (d : String) (i : ObjectIdentity) : Prop :=
  i.kind ≠ .namespaceKind ∧ i.Of d
deriving Decidable

structure Spares (d : String) (r r' : Runtime) : Prop where
  objects : ∀ o : Stored ObjectIdentity Content, o.id.Own d →
    (o ∈ r'.kube.objects ↔ o ∈ r.kube.objects)
  accepted : r'.checkpoint.accepted d = r.checkpoint.accepted d

instance : IsPreorder Runtime (Spares d) where
  refl _ := ⟨fun _ _ => Iff.rfl, rfl⟩
  trans _ _ _ h h' :=
    ⟨fun o ho => (h'.objects o ho).trans (h.objects o ho), h'.accepted.trans h.accepted⟩

theorem RuntimeWrites.own_iff (h : RuntimeWrites cluster d' r r') (hd : validUUID d)
    (hd' : validUUID d') (hne : d ≠ d') (ho : o.id.Own d) :
    o ∈ r'.kube.objects ↔ o ∈ r.kube.objects :=
  h.outside o ho.1 fun hof => hne (ho.2.eq hof hd hd')

theorem DeletionOutcome.accepted_eq_of_ne {done} (h : DeletionOutcome cfg now t r done r')
    (hd : d ≠ t.deploymentID) : r'.checkpoint.accepted d = r.checkpoint.accepted d := by
  cases h with
  | removed _ _ => exact Checkpoint.accepted_erase_of_ne hd
  | _ => rfl

theorem processAssignments_spares (hd : validUUID d)
    (hf : ∀ q ∈ pairs, ∀ x ∈ q.2.objects, Object.For q.1.deploymentID x)
    (hv : ∀ q ∈ pairs, validUUID q.1.deploymentID)
    (hne : ∀ q ∈ pairs, d ≠ q.1.deploymentID) :
    Moves (Spares d) (processAssignments cfg now pairs) := by
  refine processAssignments_moves fun q hq r => ⟨fun o ho => ?_, ?_⟩
  · exact (processAssignment_writes (hf q hq) r).own_iff hd (hv q hq) (hne q hq) ho
  · exact processAssignment_outcome.accepted_eq_of_ne (hne q hq)

theorem processDeletions_spares (hd : validUUID d)
    (hv : ∀ t ∈ deletions, validUUID t.deploymentID)
    (hne : ∀ t ∈ deletions, d ≠ t.deploymentID) :
    Moves (Spares d) (processDeletions cfg now deletions) := by
  refine processDeletions_moves fun t ht r => ⟨fun o ho => ?_, ?_⟩
  · exact (processDeletion_writes r).own_iff hd (hv t ht) (hne t ht) ho
  · obtain ⟨done, r', hr, hot⟩ := processDeletion_outcome cfg now t r
    rw [hr]
    exact hot.accepted_eq_of_ne (hne t ht)

/-! ## The end of a deletion -/

def Fenced (b : Boundary) (c : Content) : Bool :=
  c.managedFor b.deploymentID && c.annotations.specDigest == b.specDigest &&
    c.annotations.generation == some b.generation

theorem existsWithFence_eq_ok {present} (h : existsWithFence b i k = (.ok present, k')) :
    k'.objects = k.objects ∧ present = (Server.find? i k.objects).isSome ∧
      ∀ o, Server.find? i k.objects = some o → Fenced b o.content := by
  obtain ⟨found, k1, hc, h⟩ := bind_ok.mp h
  obtain ⟨hfn, ho⟩ := Server.call_eq_ok hc
  cases hfn
  cases hf : Server.find? i k.objects with
  | none =>
    rw [hf] at h
    obtain ⟨rfl, rfl⟩ := pure_ok.mp h
    exact ⟨ho, rfl, nofun⟩
  | some o =>
    rw [hf] at h
    obtain ⟨_, k2, hr, h⟩ := bind_ok.mp h
    obtain ⟨hfc, rfl⟩ := require_ok.mp hr
    obtain ⟨rfl, rfl⟩ := pure_ok.mp h
    exact ⟨ho, rfl, fun _ heq => Option.some.inj heq ▸ hfc⟩

theorem deleteStage_eq_false {context foreground ids}
    (h : deleteStage cluster b context foreground ids k = (.ok false, k')) :
    k'.objects = k.objects ∧ ∀ i ∈ ids, ∀ o ∈ k.objects, o.id ≠ i := by
  induction ids generalizing k with
  | nil =>
    obtain ⟨-, rfl⟩ := pure_ok.mp h
    exact ⟨rfl, nofun⟩
  | cons i ids ih =>
    obtain ⟨present, k1, hon, h⟩ := bind_ok.mp h
    obtain ⟨rest, k2, hrest, h⟩ := bind_ok.mp h
    obtain ⟨hff, rfl⟩ := pure_ok.mp h
    obtain ⟨rfl, rfl⟩ := Bool.or_eq_false_iff.mp hff
    obtain ⟨found, k3, he, hon⟩ := bind_ok.mp hon
    obtain ⟨hs, hp, -⟩ := existsWithFence_eq_ok he
    cases found with
    | true =>
      obtain ⟨_, _, -, hon⟩ := bind_ok.mp hon
      exact absurd (pure_ok.mp hon).1 (by decide)
    | false =>
      obtain ⟨-, rfl⟩ := pure_ok.mp hon
      obtain ⟨hs', ha⟩ := ih hrest
      rw [hs] at hs' ha
      refine ⟨hs', forall_mem_cons.mpr ⟨fun o ho hid => ?_, ha⟩⟩
      rw [Server.isSome_find?_iff.mpr ⟨o, ho, hid⟩] at hp
      cases hp

theorem beginDeletion_eq_true {recorded} (ho : t.orphan = false)
    (h : beginDeletion cluster b t m recorded k = (.ok true, k')) :
    k'.objects = k.objects ∧
      ∀ i ∈ recorded, i.kind ≠ .namespaceKind → ∀ o ∈ k.objects, o.id ≠ i := by
  obtain ⟨_, k1, hc, h⟩ := bind_ok.mp h
  obtain ⟨-, rfl⟩ := ofExcept_ok.mp hc
  rw [if_neg (by rw [ho]; decide)] at h
  obtain ⟨_, k2, he, h⟩ := bind_ok.mp h
  rw [(each_check.mp he).1] at h
  obtain ⟨reconcilerPresent, k3, hf, h⟩ := bind_ok.mp h
  cases reconcilerPresent with
  | true => exact absurd (pure_ok.mp h).1 (by decide)
  | false =>
    obtain ⟨remaining, k4, hsc, h⟩ := bind_ok.mp h
    obtain ⟨hr, rfl⟩ := pure_ok.mp h
    obtain rfl : remaining = false := by simpa using hr
    obtain ⟨hs1, ha1⟩ := deleteStage_eq_false hf
    obtain ⟨hs2, ha2⟩ := deleteStage_eq_false hsc
    rw [hs1] at hs2 ha2
    refine ⟨hs2, fun i hi hk => ?_⟩
    have hmem : i ∈ (sortDeleteOrder recorded).filter (·.kind ≠ .namespaceKind) :=
      mem_filter.mpr ⟨mem_sortDeleteOrder.mpr hi, decide_eq_true hk⟩
    cases hrc : i.kind.isReconciler with
    | true => exact ha1 i (mem_filter.mpr ⟨hmem, hrc⟩)
    | false => exact ha2 i (mem_filter.mpr ⟨hmem, by simp [hrc]⟩)

/-! ## The report -/

/-- The call on the snapshot, started in `r`, records the status `removed` for the tombstone:
it comes to the tombstone after the assignments and the tombstones before it, and the
iteration for it completes, in `r2`. -/
inductive ReportsRemoved (cfg : Config) (now : Time) (s : Snapshot) (capabilities : Capabilities)
    (r : Runtime) (t : Deletion) (r2 : Runtime) : Prop
  | intro {pairs : List (Assignment × Materialization)} {applied done : Bool} {r0 r1 : Runtime}
      {before after : List Deletion} (hreaches : Reaches cfg capabilities s pairs r)
      (hassign : processAssignments cfg now pairs r = (.ok applied, r0))
      (hsplit : s.deletions = before ++ t :: after)
      (hdelete : processDeletions cfg now before r0 = (.ok done, r1))
      (hremoved : processDeletion cfg now t r1 = (.ok true, r2)) :
      ReportsRemoved cfg now s capabilities r t r2

def NothingLeft (d : String) (os : Objects) : Prop := ∀ o ∈ os, ¬ o.id.Own d
deriving Decidable

/-- Everything the deployment has on the cluster is recorded in what is accepted for it;
if nothing is accepted, it has nothing there. -/
def Recorded (d : String) (r : Runtime) : Prop :=
  ∀ o ∈ r.kube.objects, o.id.Own d → ∃ x, r.checkpoint.accepted d = some x ∧ o.id ∈ x.objects

theorem Reaches.spares_before {applied done r0 r1 before after}
    (hr : Reaches cfg capabilities s pairs r)
    (hass : processAssignments cfg now pairs r = (.ok applied, r0))
    (hsp : s.deletions = before ++ t :: after)
    (hde : processDeletions cfg now before r0 = (.ok done, r1)) :
    Spares t.deploymentID r r1 := by
  obtain ⟨hf, hb⟩ := materializations_eq_ok hr.graphs
  obtain ⟨hnd, hi, hd⟩ := Snapshot.ids_of_validate (validate_of_validateSnapshot hr.valid)
  have ht : t ∈ s.deletions := by
    rw [hsp]
    exact mem_append_right _ mem_cons_self
  rw [nodup_append] at hnd
  obtain ⟨-, hds, hap⟩ := hnd
  have ha : Spares t.deploymentID r r0 := by
    refine (processAssignments_spares (hd t ht) (fun q hq => objects_for (hb q hq))
      (fun q hq => ?_) (fun q hq => ?_)).of_eq hass
    · exact hi q.1 (hf ▸ mem_map_of_mem hq)
    · exact (hap _ (mem_map_of_mem (hf ▸ mem_map_of_mem hq)) _
        (mem_map_of_mem ht)).symm
  have hdl : Spares t.deploymentID r0 r1 := by
    rw [hsp, map_append, map_cons, nodup_append] at hds
    refine (processDeletions_spares (hd t ht) (fun t' ht' => ?_) fun t' ht' => ?_).of_eq hde
    · exact hd t' (hsp ▸ mem_append_left _ ht')
    · exact (hds.2.2 _ (mem_map_of_mem ht') _ mem_cons_self).symm
  exact trans_of (Spares _) ha hdl

theorem accepted_finishSnapshot {complete} :
    (finishSnapshot s complete r).2.checkpoint.accepted d = r.checkpoint.accepted d := by
  have ho := finishSnapshot_outcome s complete r
  rcases hr : finishSnapshot s complete r with ⟨y, r'⟩
  rw [hr] at ho
  cases ho with
  | saved _ _ => exact Checkpoint.accepted_candidate
  | unsaved hs =>
    have hk : r'.checkpoint = (r.dropUndesired s).checkpoint := checkpoint_of_save hs
    rw [hk]
    rfl

theorem finishSnapshot_spares {complete} : Spares d r (finishSnapshot s complete r).2 := by
  refine ⟨fun o _ => ?_, accepted_finishSnapshot⟩
  rw [finishSnapshot_kube]

theorem processDeletions_append {before after done1 done2 done3 r0 r1 r2 r3}
    (hbf : processDeletions cfg now before r0 = (.ok done1, r1))
    (ho : processDeletion cfg now t r1 = (.ok done2, r2))
    (haf : processDeletions cfg now after r2 = (.ok done3, r3)) :
    ∃ done, processDeletions cfg now (before ++ t :: after) r0 = (.ok done, r3) := by
  induction before generalizing r0 done1 with
  | nil =>
    obtain ⟨-, rfl⟩ := pure_ok.mp hbf
    refine ⟨done2 && done3, ?_⟩
    rw [nil_append, processDeletions, bind_apply_ok ho, bind_apply_ok haf]
    rfl
  | cons t' before ih =>
    obtain ⟨done', r', hf, hbf⟩ := bind_ok.mp hbf
    obtain ⟨rest, r'', hrest, hbf⟩ := bind_ok.mp hbf
    obtain ⟨-, rfl⟩ := pure_ok.mp hbf
    obtain ⟨done, hl⟩ := ih hrest
    refine ⟨done' && done, ?_⟩
    rw [cons_append, processDeletions, bind_apply_ok hf, bind_apply_ok hl]
    rfl

/-- The call on a snapshot with the tombstone, once the assignments have gone through: the
iteration for the tombstone, and around it nothing that concerns its deployment. -/
theorem Reaches.tombstone {applied r0} (hr : Reaches cfg capabilities s pairs r)
    (hass : processAssignments cfg now pairs r = (.ok applied, r0)) (ht : t ∈ s.deletions) :
    ∃ done r1 r2, (∀ {R : Kube → Kube → Prop} [IsPreorder Kube R], OfCalls R →
        R r.kube r1.kube) ∧ Spares t.deploymentID r r1 ∧
      processDeletion cfg now t r1 = (.ok done, r2) ∧
      Spares t.deploymentID r2 (processSnapshotBody cfg now s capabilities r).2 := by
  obtain ⟨hnd, -, hd⟩ := Snapshot.ids_of_validate (validate_of_validateSnapshot hr.valid)
  obtain ⟨-, hds, -⟩ := nodup_append.mp hnd
  obtain ⟨before, after, hsp⟩ := append_of_mem ht
  obtain ⟨done1, r1, hbf⟩ := processDeletions_ok cfg now before r0
  obtain ⟨done2, r2, ho, -⟩ := processDeletion_outcome cfg now t r1
  obtain ⟨done3, r3, haf⟩ := processDeletions_ok cfg now after r2
  obtain ⟨done, hdl⟩ := processDeletions_append hbf ho haf
  rw [← hsp] at hdl
  refine ⟨done2, r1, r2, fun {R} _ hR => ?_, hr.spares_before hass hsp hbf, ho, ?_⟩
  · exact trans_of R ((processAssignments_moves fun _ _ => hR.processAssignment).of_eq hass)
      ((processDeletions_moves fun _ _ => hR.processDeletion).of_eq hbf)
  · have hrest : Spares t.deploymentID r2 r3 := by
      rw [hsp, map_append, map_cons, nodup_append, nodup_cons] at hds
      refine (processDeletions_spares (hd t ht) (fun t' ht' => ?_) fun t' ht' heq => ?_).of_eq haf
      · exact hd t' (hsp ▸ mem_append_right _ (mem_cons_of_mem _ ht'))
      · exact hds.2.1.1 (heq ▸ mem_map_of_mem ht')
    rw [hr.finished hass hdl]
    exact trans_of (Spares _) hrest finishSnapshot_spares

theorem processDeletion_eq_true (ho : t.orphan = false)
    (h : processDeletion cfg now t r = (.ok true, r')) :
    r'.kube.objects = r.kube.objects ∧
      ∀ x, r.checkpoint.accepted t.deploymentID = some x → ∀ i ∈ x.objects,
        i.kind ≠ .namespaceKind → ∀ o ∈ r.kube.objects, o.id ≠ i := by
  cases DeletionOutcome.of_eq h with
  | absent hn =>
    refine ⟨rfl, fun x hx => ?_⟩
    rw [hn] at hx
    cases hx
  | @removed accepted k hsm hc =>
    obtain ⟨hs, ha⟩ := beginDeletion_eq_true ho hc
    refine ⟨hs, fun x hx => ?_⟩
    rw [hsm] at hx
    cases hx
    exact ha

/-- The report `removed` is true exactly when the record was complete: at the start of the
call every object the deployment had on the cluster was recorded in what was accepted
for it. -/
theorem ReportsRemoved.nothingLeft_iff (horphan : t.orphan = false)
    (h : ReportsRemoved cfg now s capabilities r t r2) :
    NothingLeft t.deploymentID r2.kube.objects ↔ Recorded t.deploymentID r := by
  obtain ⟨hr, hass, hsp, hd, hrm⟩ := h
  have hsr := hr.spares_before hass hsp hd
  obtain ⟨hs, ha⟩ := processDeletion_eq_true horphan hrm
  rw [hs]
  constructor
  · intro hn o ho how
    exact absurd how (hn o ((hsr.objects o how).mpr ho))
  · intro hrc o ho how
    -- it was there at the start, so it is recorded; but no recorded object is there
    obtain ⟨x, hx, hmem⟩ := hrc o ((hsr.objects o how).mp ho) how
    exact ha x (hsr.accepted.trans hx) o.id hmem how.1 o ho rfl

end

end Astronomer.Agent
